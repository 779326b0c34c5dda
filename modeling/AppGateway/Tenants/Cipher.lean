import AppGateway.Model.Crypto

namespace GatewayProof

open GatewayModel

/-- `aes-256-gcm`: a tag of 16 bytes; the key opens what it has sealed, and no other key does. -/
structure AesGcm (env : CryptoEnv) : Prop where
  tag : ∀ key iv plaintext, (env.aesGcmSeal key iv plaintext).2.length = gcmAuthTagLength
  opens : ∀ key iv plaintext,
    env.aesGcmOpen key iv (env.aesGcmSeal key iv plaintext).2 (env.aesGcmSeal key iv plaintext).1 = some plaintext
  rejects : ∀ key other iv plaintext, other ≠ key →
    env.aesGcmOpen other iv (env.aesGcmSeal key iv plaintext).2 (env.aesGcmSeal key iv plaintext).1 = none

section Envelopes

variable {env : CryptoEnv} {key iv plaintext : Buffer}

theorem decryptWithKey_parts (other : Buffer) (nonce : iv.length = gcmIvLength)
    (tag : (env.aesGcmSeal key iv plaintext).2.length = gcmAuthTagLength) :
    decryptWithKey env other (sealed env key iv plaintext) =
      match env.aesGcmOpen other iv (env.aesGcmSeal key iv plaintext).2 (env.aesGcmSeal key iv plaintext).1 with
      | some opened => .ok opened
      | none => .error .decryptionFailed := by
  have parts : sealed env key iv plaintext =
      iv ++ ((env.aesGcmSeal key iv plaintext).2 ++ (env.aesGcmSeal key iv plaintext).1) := by
    rw [← List.append_assoc]
    rfl
  generalize env.aesGcmSeal key iv plaintext = result at tag parts ⊢
  have first : (sealed env key iv plaintext).take gcmIvLength = iv := by rw [parts, ← nonce, List.take_left]
  have later : (sealed env key iv plaintext).drop gcmIvLength = result.2 ++ result.1 := by
    rw [parts, ← nonce, List.drop_left]
  have rest : (sealed env key iv plaintext).drop (gcmIvLength + gcmAuthTagLength) = result.1 := by
    rw [← List.drop_drop, later, ← tag, List.drop_left]
  have second : ((sealed env key iv plaintext).drop gcmIvLength).take gcmAuthTagLength = result.2 := by
    rw [later, ← tag, List.take_left]
  cases opened : env.aesGcmOpen other iv result.2 result.1 <;>
    simp only [decryptWithKey, first, second, rest, opened]

theorem decryptWithKey_sealed (aes : AesGcm env) (nonce : iv.length = gcmIvLength) :
    decryptWithKey env key (sealed env key iv plaintext) = .ok plaintext := by
  rw [decryptWithKey_parts key nonce (aes.tag ..), aes.opens]

theorem decryptWithKey_other (aes : AesGcm env) {other : Buffer} (nonce : iv.length = gcmIvLength)
    (differs : other ≠ key) :
    decryptWithKey env other (sealed env key iv plaintext) = .error .decryptionFailed := by
  rw [decryptWithKey_parts other nonce (aes.tag ..), aes.rejects key other iv plaintext differs]

theorem utf8Text_utf8 (text : String) : utf8Text (utf8 text) = text := by
  have same : (⟨(utf8 text).toArray⟩ : ByteArray) = text.toByteArray := by
    apply ByteArray.ext
    simp [utf8]
  have valid : text.toByteArray.IsValidUTF8 := text.isValidUTF8
  rw [utf8Text, same, String.fromUTF8?, dif_pos valid]
  rfl

theorem parseEnvelope_written {keyVersion : Nat} {versionPrefix : Buffer} (body : Buffer)
    (written : writeUInt16BE keyVersion = .ok versionPrefix) :
    parseDekCiphertextEnvelope (versionPrefix ++ body) = .ok { keyVersion, body } := by
  unfold writeUInt16BE at written
  split at written
  · rename_i small
    cases written
    have version : (UInt8.ofNat (keyVersion / 256)).toNat * 256 + (UInt8.ofNat (keyVersion % 256)).toNat =
        keyVersion := by
      rw [UInt8.toNat_ofNat', UInt8.toNat_ofNat']
      omega
    generalize UInt8.ofNat (keyVersion / 256) = high at version ⊢
    generalize UInt8.ofNat (keyVersion % 256) = low at version ⊢
    subst version
    rfl
  · cases written

theorem decryptWithDek_written {dek versionPrefix : Buffer} {keyVersion : Nat} (body : Buffer)
    (written : writeUInt16BE keyVersion = .ok versionPrefix) :
    decryptWithDek env dek (versionPrefix ++ body) = (decryptWithKey env dek body).map utf8Text := by
  rw [decryptWithDek, parseEnvelope_written body written]
  simp only [bind, Except.bind]
  cases decryptWithKey env dek body <;> rfl

theorem decryptWithDek_sealed (aes : AesGcm env) {dek versionPrefix : Buffer} {keyVersion : Nat} {text : String}
    (written : writeUInt16BE keyVersion = .ok versionPrefix) (nonce : iv.length = gcmIvLength) :
    decryptWithDek env dek (versionPrefix ++ sealed env dek iv (utf8 text)) = .ok text := by
  rw [decryptWithDek_written _ written, decryptWithKey_sealed aes nonce, Except.map, utf8Text_utf8]

theorem decryptWithDek_other (aes : AesGcm env) {dek other versionPrefix : Buffer} {keyVersion : Nat}
    (written : writeUInt16BE keyVersion = .ok versionPrefix) (nonce : iv.length = gcmIvLength) (differs : other ≠ dek) :
    decryptWithDek env other (versionPrefix ++ sealed env dek iv plaintext) = .error .decryptionFailed := by
  rw [decryptWithDek_written _ written, decryptWithKey_other aes nonce differs, Except.map]

end Envelopes

def keyLabel : Buffer → Buffer
  | [] => [0]
  | byte :: rest => 1 :: byte :: keyLabel rest

theorem keyLabel_first {key other rest : Buffer} (same : keyLabel other <+: keyLabel key ++ rest) : other = key := by
  induction other generalizing key with
  | nil =>
    cases key with
    | nil => rfl
    | cons byte key => exact absurd (List.cons_prefix_cons.mp same).1 (by decide)
  | cons byte other ih =>
    cases key with
    | nil => exact absurd (List.cons_prefix_cons.mp same).1 (by decide)
    | cons byte' key =>
      obtain ⟨first, later⟩ := List.cons_prefix_cons.mp (List.cons_prefix_cons.mp same).2
      rw [first, ih later]

def idealCipher : CryptoEnv where
  tenantKekKey := [7]
  aesGcmSeal key _ plaintext := (keyLabel key ++ plaintext, List.replicate gcmAuthTagLength 0)
  aesGcmOpen key _ _ ciphertext :=
    if (keyLabel key).isPrefixOf ciphertext then some (ciphertext.drop (keyLabel key).length) else none

theorem idealCipher_aes : AesGcm idealCipher where
  tag := fun _ _ _ => List.length_replicate
  opens := by
    intro key _ plaintext
    have own : (keyLabel key).isPrefixOf (keyLabel key ++ plaintext) = true :=
      List.isPrefixOf_iff_prefix.mpr (List.prefix_append ..)
    exact (if_pos own).trans (congrArg some List.drop_left)
  rejects := by
    intro key other _ plaintext differs
    have foreign : ¬ (keyLabel other).isPrefixOf (keyLabel key ++ plaintext) = true := by
      rw [List.isPrefixOf_iff_prefix]
      exact fun same => differs (keyLabel_first same)
    exact if_neg foreign

end GatewayProof
