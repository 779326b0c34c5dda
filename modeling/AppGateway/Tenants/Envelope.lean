import AppGateway.Async.Replay
import AppGateway.Model.CryptoEncoding
import AppGateway.Model.TenantKeyService
import AppGateway.Tenants.Cipher

namespace GatewayProof

open Async GatewayModel
open GatewayModel.Encoded (toBase64 fromBase64)

theorem fromBase64_toBase64 (bytes : Buffer) : fromBase64 (toBase64 bytes) = bytes := by
  rw [fromBase64, toBase64, String.toList_ofList, Codec.Base64.decode_encode]

theorem toBase64_inj {first second : Buffer} (same : toBase64 first = toBase64 second) : first = second := by
  rw [← fromBase64_toBase64 first, same, fromBase64_toBase64]

section Bytes

/-! The functions on texts are those on bytes, behind the encoding. -/

variable (env : CryptoEnv)

theorem encoded_decryptWithKey (key : Buffer) (encoded : String) :
    Encoded.decryptWithKey env key encoded = decryptWithKey env key (fromBase64 encoded) := rfl

theorem encoded_encryptWithKey (key plaintext : Buffer) :
    Encoded.encryptWithKey env key plaintext = encryptWithKey env key plaintext >>= fun bytes =>
      pure (toBase64 bytes) := by
  rw [encryptWithKey, Program.bind_eq, Program.bind_eq, Program.bind_assoc]
  rfl

theorem encoded_writeUInt16BE (keyVersion : Nat) : Encoded.writeUInt16BE keyVersion = writeUInt16BE keyVersion := by
  have small : (0 ≤ (keyVersion : Int) ∧ (keyVersion : Int) ≤ 65535) ↔ keyVersion ≤ 65535 := by omega
  simp only [Encoded.writeUInt16BE, writeUInt16BE, small, Int.toNat_natCast]

theorem encoded_encryptWithDek (dek : Buffer) (keyVersion : Nat) (plaintext : String) :
    Encoded.encryptWithDek env dek keyVersion plaintext = encryptWithDek env dek keyVersion plaintext >>= fun bytes =>
      pure (toBase64 bytes) := by
  unfold Encoded.encryptWithDek encryptWithDek
  rw [encoded_writeUInt16BE]
  cases written : writeUInt16BE keyVersion with
  | error thrown => rfl
  | ok versionPrefix =>
    simp only [Program.bind_eq, Program.done_ok_bind, Program.pure_eq, encoded_encryptWithKey, Program.bind_assoc,
      fromBase64_toBase64]

theorem encoded_parseDekCiphertextEnvelope (bytes : Buffer) :
    Encoded.parseDekCiphertextEnvelope (toBase64 bytes) = (parseDekCiphertextEnvelope bytes).map fun envelope =>
      { keyVersion := envelope.keyVersion, body := toBase64 envelope.body } := by
  unfold Encoded.parseDekCiphertextEnvelope parseDekCiphertextEnvelope
  simp only [fromBase64_toBase64]
  cases read : readUInt16BE bytes <;> simp only [bind, Except.bind, Except.map, pure, Except.pure]

theorem encoded_decryptWithDek (dek bytes : Buffer) :
    Encoded.decryptWithDek env dek (toBase64 bytes) = decryptWithDek env dek bytes := by
  unfold Encoded.decryptWithDek decryptWithDek
  rw [encoded_parseDekCiphertextEnvelope]
  cases parseDekCiphertextEnvelope bytes with
  | error thrown => rfl
  | ok envelope =>
    simp only [Except.map, bind, Except.bind, encoded_decryptWithKey, fromBase64_toBase64]

end Bytes

/-- `aes-256-gcm` opens what it has sealed under a key and a nonce of the lengths it takes. -/
structure GcmCorrect (env : CryptoEnv) : Prop where
  tag : ∀ key iv plaintext, key.length = dekLengthBytes → iv.length = gcmIvLength →
    (env.aesGcmSeal key iv plaintext).2.length = gcmAuthTagLength
  opens : ∀ key iv plaintext, key.length = dekLengthBytes → iv.length = gcmIvLength →
    env.aesGcmOpen key iv (env.aesGcmSeal key iv plaintext).2 (env.aesGcmSeal key iv plaintext).1 = some plaintext

def Envelops (env : CryptoEnv) (dek iv : Buffer) (keyVersion : Int) (plaintext e : String) : Prop :=
  (Encoded.encryptWithDek env dek keyVersion plaintext).Follows [⟨.randomBytes gcmIvLength, .ok iv⟩] (.done (.ok e))

section RoundTrip

variable {env : CryptoEnv} {dek iv versionPrefix : Buffer} {plaintext e : String}

theorem envelops_iff {keyVersion : Nat} (written : writeUInt16BE keyVersion = .ok versionPrefix) :
    Envelops env dek iv keyVersion plaintext e ↔
    e = toBase64 (versionPrefix ++ sealed env dek iv (utf8 plaintext)) := by
  have code : Encoded.encryptWithDek env dek keyVersion plaintext = Keys.randomBytes gcmIvLength >>= fun iv =>
      pure (toBase64 (versionPrefix ++ sealed env dek iv (utf8 plaintext))) := by
    rw [encoded_encryptWithDek, encryptWithDek, written]
    simp only [encryptWithKey, Program.bind_eq, Program.done_ok_bind, Program.bind_assoc, Program.pure_eq]
  rw [Envelops, code]
  constructor
  · intro h
    obtain ⟨reply, later, same, follows⟩ := Program.follows_await.mp h
    cases same
    exact Except.ok.inj (Program.done.inj (Program.follows_done.mp follows).2)
  · intro h
    rw [h]
    exact Program.follows_await.mpr ⟨.ok iv, [], rfl, .here _⟩

theorem encryptWithDek_outside {keyVersion : Int} (outside : ¬ (0 ≤ keyVersion ∧ keyVersion ≤ 65535)) :
    Encoded.encryptWithDek env dek keyVersion plaintext = .done (.error (.error "ERR_OUT_OF_RANGE")) := by
  rw [Encoded.encryptWithDek, Encoded.writeUInt16BE, if_neg outside]
  rfl

theorem envelops_inside {keyVersion : Int} (made : Envelops env dek iv keyVersion plaintext e) :
    ∃ version : Nat, keyVersion = version ∧ version ≤ 65535 := by
  by_cases inside : 0 ≤ keyVersion ∧ keyVersion ≤ 65535
  · exact ⟨keyVersion.toNat, by omega, by omega⟩
  · rw [Envelops, encryptWithDek_outside inside] at made
    cases (Program.follows_done.mp made).1

theorem writeUInt16BE_small {keyVersion : Nat} (small : keyVersion ≤ 65535) :
    ∃ versionPrefix, writeUInt16BE keyVersion = .ok versionPrefix := ⟨_, if_pos small⟩

theorem envelops_opens (gcm : GcmCorrect env) {keyVersion : Nat} (small : keyVersion ≤ 65535)
    (key : dek.length = dekLengthBytes) (nonce : iv.length = gcmIvLength)
    (made : Envelops env dek iv keyVersion plaintext e) :
    Encoded.parseDekCiphertextEnvelope e = .ok ⟨keyVersion, toBase64 (sealed env dek iv (utf8 plaintext))⟩ ∧
      Encoded.decryptWithDek env dek e = .ok plaintext := by
  obtain ⟨versionPrefix, written⟩ := writeUInt16BE_small small
  have same := (envelops_iff written).mp made
  subst same
  have tag := gcm.tag dek iv (utf8 plaintext) key nonce
  have opens := gcm.opens dek iv (utf8 plaintext) key nonce
  constructor
  · rw [encoded_parseDekCiphertextEnvelope, parseEnvelope_written _ written]
    rfl
  · rw [encoded_decryptWithDek, decryptWithDek_written _ written, decryptWithKey_parts dek nonce tag, opens]
    simp only [Except.map, utf8Text_utf8]

theorem envelops_parts {dek' iv' : Buffer} {keyVersion keyVersion' : Nat} {plaintext' : String}
    (small : keyVersion ≤ 65535) (small' : keyVersion' ≤ 65535)
    (nonce : iv.length = gcmIvLength) (nonce' : iv'.length = gcmIvLength)
    (tag : (env.aesGcmSeal dek iv (utf8 plaintext)).2.length = gcmAuthTagLength)
    (tag' : (env.aesGcmSeal dek' iv' (utf8 plaintext')).2.length = gcmAuthTagLength)
    (made : Envelops env dek iv keyVersion plaintext e) (made' : Envelops env dek' iv' keyVersion' plaintext' e) :
    keyVersion = keyVersion' ∧ iv = iv' ∧
      env.aesGcmSeal dek iv (utf8 plaintext) = env.aesGcmSeal dek' iv' (utf8 plaintext') := by
  obtain ⟨versionPrefix, written⟩ := writeUInt16BE_small small
  obtain ⟨versionPrefix', written'⟩ := writeUInt16BE_small small'
  have same := toBase64_inj (((envelops_iff written).mp made).symm.trans ((envelops_iff written').mp made'))
  have parsed := parseEnvelope_written (sealed env dek iv (utf8 plaintext)) written
  rw [same, parseEnvelope_written _ written'] at parsed
  have version := congrArg DekCiphertextEnvelope.keyVersion (Except.ok.inj parsed)
  have body := congrArg DekCiphertextEnvelope.body (Except.ok.inj parsed)
  simp only [sealed] at version body
  have outer := List.append_inj body (by simp [nonce, nonce', tag, tag'])
  have inner := List.append_inj outer.1 (by rw [nonce, nonce'])
  exact ⟨version.symm, inner.1.symm, (Prod.ext outer.2 inner.2).symm⟩

end RoundTrip

/-- Envelopes are read back as they were made, whatever the length of the text; no two tuples share one, and a
    version that does not fit two bytes makes none. -/
theorem envelope_roundTrip {env : CryptoEnv} (gcm : GcmCorrect env) :
    (∀ dek iv : Buffer, dek.length = 32 → iv.length = 12 → ∀ (keyVersion : Int) (p : String),
      0 ≤ keyVersion → keyVersion ≤ 65535 →
        ∃ e body ciphertext tag, Envelops env dek iv keyVersion p e ∧
          Encoded.parseDekCiphertextEnvelope e = .ok ⟨keyVersion.toNat, body⟩ ∧
          env.aesGcmSeal dek iv (utf8 p) = (ciphertext, tag) ∧ tag.length = 16 ∧
          fromBase64 body = iv ++ tag ++ ciphertext ∧
          Encoded.decryptWithDek env dek e = .ok p) ∧
    (∀ dek iv dek' iv' : Buffer, dek.length = 32 → iv.length = 12 → dek'.length = 32 → iv'.length = 12 →
      ∀ (keyVersion keyVersion' : Int) (p p' e : String),
        Envelops env dek iv keyVersion p e → Envelops env dek' iv' keyVersion' p' e →
          keyVersion = keyVersion' ∧ iv = iv' ∧ env.aesGcmSeal dek iv (utf8 p) = env.aesGcmSeal dek' iv' (utf8 p')) ∧
    ∀ (dek : Buffer) (keyVersion : Int) (p : String), ¬ (0 ≤ keyVersion ∧ keyVersion ≤ 65535) →
      ∀ events outcome, (Encoded.encryptWithDek env dek keyVersion p).Follows events (.done outcome) →
        ∃ thrown, outcome = .error thrown := by
  refine ⟨?_, ?_, ?_⟩
  · intro dek iv key nonce keyVersion p low high
    obtain ⟨version, rfl⟩ := Int.eq_ofNat_of_zero_le low
    have small : version ≤ 65535 := by omega
    obtain ⟨versionPrefix, written⟩ := writeUInt16BE_small small
    have made : Envelops env dek iv version p (toBase64 (versionPrefix ++ sealed env dek iv (utf8 p))) :=
      (envelops_iff written).mpr rfl
    have opened := envelops_opens gcm small key nonce made
    exact ⟨_, _, _, _, made, opened.1, rfl, gcm.tag dek iv (utf8 p) key nonce, fromBase64_toBase64 _, opened.2⟩
  · intro dek iv dek' iv' key nonce key' nonce' keyVersion keyVersion' p p' e made made'
    obtain ⟨version, rfl, small⟩ := envelops_inside made
    obtain ⟨version', rfl, small'⟩ := envelops_inside made'
    have parts := envelops_parts small small' nonce nonce' (gcm.tag _ _ _ key nonce)
      (gcm.tag _ _ _ key' nonce') made made'
    exact ⟨by rw [parts.1], parts.2⟩
  · intro dek keyVersion p outside events outcome follows
    rw [encryptWithDek_outside outside] at follows
    have ended := Program.follows_done.mp follows
    exact ⟨_, Program.done.inj ended.2⟩

theorem AesGcm.correct {env : CryptoEnv} (aes : AesGcm env) : GcmCorrect env where
  tag := fun key iv plaintext _ _ => aes.tag key iv plaintext
  opens := fun key iv plaintext _ _ => aes.opens key iv plaintext

theorem envelope_roundTrip_ideal :
    ∃ e body ciphertext tag, Envelops idealCipher (List.replicate 32 7) (List.replicate 12 1) 258 "" e ∧
      Encoded.parseDekCiphertextEnvelope e = .ok ⟨258, body⟩ ∧
      idealCipher.aesGcmSeal (List.replicate 32 7) (List.replicate 12 1) (utf8 "") = (ciphertext, tag) ∧
      tag.length = 16 ∧ fromBase64 body = List.replicate 12 1 ++ tag ++ ciphertext ∧
      Encoded.decryptWithDek idealCipher (List.replicate 32 7) e = .ok "" :=
  (envelope_roundTrip idealCipher_aes.correct).1 (List.replicate 32 7) (List.replicate 12 1) rfl rfl 258 ""
    (by decide) (by decide)

end GatewayProof
