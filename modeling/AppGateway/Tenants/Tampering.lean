import AppGateway.Tenants.KeyOrigins

namespace GatewayProof

open Async GatewayModel
open Async.System (Reaches anyStep)

/-! Tags that are shorter than the one of the encryption -/

/-- The lengths that `setAuthTag` of `node:crypto` accepts. -/
def authTagLengths : List Nat := [4, 8, 12, 13, 14, 15, 16]

/-- `final` checks the bytes of the tag it has been given. -/
structure TagAccepted (authTag full : Buffer) : Prop where
  bytes : authTag <+: full
  length : authTag.length ∈ authTagLengths

inductive Encrypted (env : CryptoEnv) (thread : KeyThread) (key iv plaintext : Buffer) : Prop where
  | email (process : Nat) (text : String) (tenantId : Option String) (keyVersion : Nat) (versionPrefix : Buffer)
      (call : thread.call = .encryptEmail process text tenantId) (bytes : plaintext = utf8 text)
      (fetched : Fetched env process thread.past thread.call.tenantKeyId keyVersion key)
      (version : writeUInt16BE keyVersion = .ok versionPrefix)
      (nonce : ⟨.randomBytes gcmIvLength, .ok iv⟩ ∈ thread.past)
      (answered : thread.answered (.ok (.ciphertext (versionPrefix ++ sealed env key iv plaintext))))

def SealedInRun (env : CryptoEnv) (config : KeyConfig) (key iv plaintext : Buffer) : Prop :=
  ∃ thread ∈ config.threads, Encrypted env thread key iv plaintext

/-- An ideal `aes-256-gcm` behind `setAuthTag`: a DEK opens what has been encrypted under it and nothing else. -/
structure IdealGcm (env : CryptoEnv) (produced : Buffer → Buffer → Buffer → Prop) : Prop where
  tag : ∀ key iv plaintext, (env.aesGcmSeal key iv plaintext).2.length = gcmAuthTagLength
  unwraps : ∀ iv dek, env.aesGcmOpen env.tenantKekKey iv (env.aesGcmSeal env.tenantKekKey iv dek).2
    (env.aesGcmSeal env.tenantKekKey iv dek).1 = some dek
  opens : ∀ key, key ≠ env.tenantKekKey → ∀ iv authTag ciphertext plaintext,
    env.aesGcmOpen key iv authTag ciphertext = some plaintext ↔ produced key iv plaintext ∧
      (env.aesGcmSeal key iv plaintext).1 = ciphertext ∧ TagAccepted authTag (env.aesGcmSeal key iv plaintext).2

def emptyEnvelopeLength : Nat := 2 + gcmIvLength + gcmAuthTagLength

/-- The envelope without the last bytes of its tag, where nothing follows the tag. -/
structure Shortens (whole encoded : Buffer) : Prop where
  empty : whole.length = emptyEnvelopeLength
  bytes : encoded <+: whole
  length : encoded.length ∈ [18, 22, 26, 27, 28, 29]

def Returned (config : KeyConfig) (tenantKeyId : String) (encoded : Buffer) : Prop :=
  ∃ thread ∈ config.threads, thread.call.tenantKeyId = tenantKeyId ∧ thread.answered (.ok (.ciphertext encoded))

section Bytes

variable {env : CryptoEnv} {key dek encoded body : Buffer} {keyVersion : Nat}

theorem IdealGcm.unwrapsKeys {produced : Buffer → Buffer → Buffer → Prop} (ideal : IdealGcm env produced) :
    Unwraps env := by
  intro iv dek nonce
  rw [unwrapDek, decryptWithKey_parts _ nonce (ideal.tag ..), ideal.unwraps]

theorem parsed_written {envelope : DekCiphertextEnvelope} (parsed : parseDekCiphertextEnvelope encoded = .ok envelope) :
    ∃ versionPrefix, writeUInt16BE envelope.keyVersion = .ok versionPrefix ∧
      encoded = versionPrefix ++ envelope.body := by
  match encoded, parsed with
  | high :: low :: body, parsed =>
    cases parsed
    have highBound := high.toNat_lt
    have lowBound := low.toNat_lt
    have small : high.toNat * 256 + low.toNat ≤ 65535 := by omega
    have first : (high.toNat * 256 + low.toNat) / 256 = high.toNat := by omega
    have second : (high.toNat * 256 + low.toNat) % 256 = low.toNat := by omega
    refine ⟨[high, low], ?_, rfl⟩
    rw [writeUInt16BE, if_pos small, first, second, UInt8.ofNat_toNat, UInt8.ofNat_toNat]

theorem decryptWithKey_ok {plaintext : Buffer} (decrypted : decryptWithKey env key encoded = .ok plaintext) :
    env.aesGcmOpen key (encoded.take gcmIvLength) ((encoded.drop gcmIvLength).take gcmAuthTagLength)
      (encoded.drop (gcmIvLength + gcmAuthTagLength)) = some plaintext := by
  simp only [decryptWithKey] at decrypted
  split at decrypted
  · rename_i opened
    cases decrypted
    exact opened
  · cases decrypted

theorem decryptWithDek_ok {text : String} (decrypted : decryptWithDek env dek encoded = .ok text)
    {envelope : DekCiphertextEnvelope} (parsed : parseDekCiphertextEnvelope encoded = .ok envelope) :
    ∃ plaintext, decryptWithKey env dek envelope.body = .ok plaintext := by
  rw [decryptWithDek, parsed] at decrypted
  simp only [bind, Except.bind] at decrypted
  split at decrypted
  · cases decrypted
  · rename_i plaintext opened
    exact ⟨plaintext, opened⟩

theorem cut_sealed {iv authTag ciphertext : Buffer} (tag : authTag.length = gcmAuthTagLength)
    (nonce : iv.length = gcmIvLength) (first : body.take gcmIvLength = iv)
    (accepted : TagAccepted ((body.drop gcmIvLength).take gcmAuthTagLength) authTag)
    (rest : body.drop (gcmIvLength + gcmAuthTagLength) = ciphertext) :
    body = iv ++ authTag ++ ciphertext ∨
      ciphertext = [] ∧ body <+: iv ++ authTag ∧ body.length ∈ [16, 20, 24, 25, 26, 27] := by
  have split : body = iv ++ ((body.drop gcmIvLength).take gcmAuthTagLength ++ ciphertext) := by
    rw [← rest, ← List.drop_drop, List.take_append_drop, ← first, List.take_append_drop]
  have size : ((body.drop gcmIvLength).take gcmAuthTagLength).length =
    min gcmAuthTagLength (body.length - gcmIvLength) := by
    rw [List.length_take, List.length_drop]
  have lengths := accepted.length
  generalize (body.drop gcmIvLength).take gcmAuthTagLength = given at split accepted lengths size
  by_cases full : given.length = gcmAuthTagLength
  · refine .inl ?_
    rw [split, accepted.bytes.eq_of_length (full.trans tag.symm), List.append_assoc]
  · have nothing : ciphertext = [] := by
      rw [← rest]
      apply List.drop_eq_nil_of_le
      simp only [gcmAuthTagLength, gcmIvLength] at full size ⊢
      omega
    have whole : body = iv ++ given := by rw [split, nothing, List.append_nil]
    refine .inr ⟨nothing, by rw [whole]; exact (List.prefix_append_right_inj iv).mpr accepted.bytes, ?_⟩
    rw [whole, List.length_append, nonce]
    simp only [authTagLengths, gcmAuthTagLength, gcmIvLength, List.mem_cons, List.not_mem_nil,
      or_false] at lengths full ⊢
    omega

theorem Shortens.cut {iv authTag ciphertext versionPrefix : Buffer} (two : versionPrefix.length = 2)
    (nonce : iv.length = gcmIvLength) (tag : authTag.length = gcmAuthTagLength)
    (shortens : Shortens (versionPrefix ++ (iv ++ authTag ++ ciphertext)) encoded) :
    ∃ given, encoded = versionPrefix ++ (iv ++ given) ∧ ciphertext = [] ∧ TagAccepted given authTag := by
  have nothing : ciphertext = [] := by
    have length := shortens.empty
    simp only [List.length_append, two, nonce, tag, emptyEnvelopeLength] at length
    exact List.length_eq_zero_iff.mp (by omega)
  have bytes := shortens.bytes
  rw [nothing, List.append_nil, ← List.append_assoc] at bytes
  have lengths := shortens.length
  simp only [List.mem_cons, List.not_mem_nil, or_false] at lengths
  have front : (versionPrefix ++ iv).length = 14 := by rw [List.length_append, two, nonce]; rfl
  obtain ⟨given, rfl⟩ : versionPrefix ++ iv <+: encoded :=
    List.prefix_of_prefix_length_le (List.prefix_append ..) bytes (by omega)
  refine ⟨given, List.append_assoc .., nothing, (List.prefix_append_right_inj _).mp bytes, ?_⟩
  rw [List.length_append, front] at lengths
  simp only [authTagLengths, List.mem_cons, List.not_mem_nil, or_false]
  omega

theorem decryptWithKey_short {iv authTag full : Buffer} (nonce : iv.length = gcmIvLength)
    (accepted : TagAccepted authTag full) : decryptWithKey env key (iv ++ authTag) =
      match env.aesGcmOpen key iv authTag [] with
      | some opened => .ok opened
      | none => .error .decryptionFailed := by
  have bound : authTag.length ≤ gcmAuthTagLength := by
    have lengths := accepted.length
    simp only [authTagLengths, gcmAuthTagLength, List.mem_cons, List.not_mem_nil, or_false] at lengths ⊢
    omega
  have first : (iv ++ authTag).take gcmIvLength = iv := by rw [← nonce, List.take_left]
  have second : ((iv ++ authTag).drop gcmIvLength).take gcmAuthTagLength = authTag := by
    rw [← nonce, List.drop_left, List.take_of_length_le bound]
  have rest : (iv ++ authTag).drop (gcmIvLength + gcmAuthTagLength) = [] := by
    apply List.drop_eq_nil_of_le
    rw [List.length_append, nonce]
    omega
  cases opened : env.aesGcmOpen key iv authTag [] <;> simp only [decryptWithKey, first, second, rest, opened]

end Bytes

section Runs

variable {env : CryptoEnv} {clock : Nat} {config : KeyConfig}

theorem writeUInt16BE_length {keyVersion : Nat} {versionPrefix : Buffer}
    (written : writeUInt16BE keyVersion = .ok versionPrefix) : versionPrefix.length = 2 := by
  unfold writeUInt16BE at written
  split at written <;> cases written
  rfl

theorem decrypted_returned (reached : Reaches (gateways env) anyStep (freshGateways clock) config)
    (ideal : IdealGcm env (SealedInRun env config)) (secret : env.tenantKekKey ∉ config.state.drawn)
    {tenantKeyId : String} {dek encoded : Buffer} {text : String} {envelope : DekCiphertextEnvelope}
    (parsed : parseDekCiphertextEnvelope encoded = .ok envelope)
    (drawn : DrawnAs config tenantKeyId envelope.keyVersion dek)
    (decrypted : decryptWithDek env dek encoded = .ok text) :
    ∃ whole, Returned config tenantKeyId whole ∧ (encoded = whole ∨ Shortens whole encoded) := by
  obtain ⟨plaintext, opened⟩ := decryptWithDek_ok decrypted parsed
  have other : dek ≠ env.tenantKekKey := by
    rintro rfl
    obtain ⟨thread, member, _, _, draws⟩ := drawn
    exact secret (draws_known reached member draws)
  obtain ⟨⟨thread, member, encrypted⟩, same, accepted⟩ := (ideal.opens dek other _ _ _ _).mp (decryptWithKey_ok opened)
  obtain ⟨process, email, tenantId, keyVersion, versionPrefix, call, bytes, fetched, version, nonce, answered⟩ :=
    encrypted
  obtain ⟨index, found⟩ := List.getElem?_of_mem member
  have length := ((keysHold_run reached).each index thread found).told _ nonce
  obtain ⟨own, sameVersion⟩ := drawnAs_unique reached drawn (fetched.drawnAs ideal.unwrapsKeys reached member)
  obtain ⟨written, version', split⟩ := parsed_written parsed
  rw [sameVersion, version] at version'
  cases version'
  refine ⟨_, ⟨thread, member, own.symm, answered⟩, ?_⟩
  generalize sealing : env.aesGcmSeal dek (envelope.body.take gcmIvLength) plaintext = result at same accepted
  have tag : result.2.length = gcmAuthTagLength := by
    rw [← sealing]
    exact ideal.tag ..
  have whole : sealed env dek (envelope.body.take gcmIvLength) plaintext =
      envelope.body.take gcmIvLength ++ result.2 ++ result.1 := by
    rw [sealed, sealing]
  rw [split, whole]
  rcases cut_sealed tag length rfl accepted same.symm with all | ⟨nothing, short, lengths⟩
  · exact .inl (congrArg (versionPrefix ++ ·) all)
  · rw [nothing, List.append_nil]
    have two := writeUInt16BE_length version
    refine .inr ⟨?_, (List.prefix_append_right_inj _).mpr short, ?_⟩
    · rw [List.length_append, List.length_append, two, length, tag]
      rfl
    · rw [List.length_append, two]
      simp only [List.mem_cons, List.not_mem_nil, or_false] at lengths ⊢
      omega

theorem shortened_decrypts (reached : Reaches (gateways env) anyStep (freshGateways clock) config)
    (ideal : IdealGcm env (SealedInRun env config)) (secret : env.tenantKekKey ∉ config.state.drawn)
    {thread : KeyThread}
    (member : thread ∈ config.threads) {process : Nat} {text : String} {tenantId : Option String}
    {whole encoded : Buffer} (call : thread.call = .encryptEmail process text tenantId)
    (answered : thread.answered (.ok (.ciphertext whole))) (shortens : Shortens whole encoded) :
    ∃ keyVersion dek, Fetched env process thread.past (resolveTenantKeyId tenantId) keyVersion dek ∧
      decryptWithDek env dek encoded = .ok text := by
  obtain ⟨index, found⟩ := List.getElem?_of_mem member
  have ledger := (keysHold_run reached).each index thread found
  have ended := ledger.disciplined.ended answered
  rw [call] at ended
  obtain ⟨resolved, iv, versionPrefix, resolves, version, nonce, rfl⟩ := ended
  have fetched := resolves.fetched
  refine ⟨resolved.keyVersion, resolved.dek, fetched, ?_⟩
  have own : thread.call.tenantKeyId = resolveTenantKeyId tenantId := by rw [call]; rfl
  have known : Fetched env process thread.past thread.call.tenantKeyId resolved.keyVersion resolved.dek := by
    rw [own]
    exact fetched
  have other : resolved.dek ≠ env.tenantKekKey := by
    intro same
    obtain ⟨drawing, member', _, _, draws⟩ := known.drawnAs ideal.unwrapsKeys reached member
    rw [same] at draws
    exact secret (draws_known reached member' draws)
  have produced : SealedInRun env config resolved.dek iv (utf8 text) :=
    ⟨thread, member, .email process text tenantId resolved.keyVersion versionPrefix call rfl known
      version nonce answered⟩
  have length : iv.length = gcmIvLength := ledger.told _ nonce
  obtain ⟨authTag, rfl, nothing, accepted⟩ := shortens.cut (writeUInt16BE_length version) length (ideal.tag ..)
  have opened := (ideal.opens resolved.dek other iv authTag [] (utf8 text)).mpr ⟨produced, nothing, accepted⟩
  rw [decryptWithDek_written _ version, decryptWithKey_short length accepted, opened]
  exact congrArg Except.ok (utf8Text_utf8 text)

end Runs

/-- No byte string decrypts for a tenant but the envelopes that have been returned for it, and those of
    them without ciphertext with a shortened tag, which do. -/
theorem tampering_rejected {env : CryptoEnv} {clock : Nat} {config : KeyConfig}
    (reached : Reaches (gateways env) anyStep (freshGateways clock) config)
    (ideal : IdealGcm env (SealedInRun env config)) (secret : env.tenantKekKey ∉ config.state.drawn) :
    (∀ thread ∈ config.threads, ∀ process encoded tenantId, thread.call = .decryptEmail process encoded tenantId →
      ¬ Returned config (resolveTenantKeyId tenantId) encoded →
      (∀ whole, Returned config (resolveTenantKeyId tenantId) whole → ¬ Shortens whole encoded) →
      ∀ value, ¬ thread.answered (.ok value)) ∧
    ∀ thread ∈ config.threads, ∀ process text tenantId whole encoded,
      thread.call = .encryptEmail process text tenantId → thread.answered (.ok (.ciphertext whole)) →
      Shortens whole encoded → ∃ keyVersion dek,
        Fetched env process thread.past (resolveTenantKeyId tenantId) keyVersion dek ∧
        decryptWithDek env dek encoded = .ok text := by
  refine ⟨?_, ?_⟩
  · intro thread member process encoded tenantId call foreign unshortened value answered
    obtain ⟨index, found⟩ := List.getElem?_of_mem member
    have ended := ((keysHold_run reached).each index thread found).disciplined.ended answered
    rw [call] at ended
    cases value with
    | ciphertext | resolved | dek => exact ended.elim
    | plaintext text =>
    obtain ⟨envelope, dek, parsed, fetched, decrypted⟩ := ended
    have own : thread.call.tenantKeyId = resolveTenantKeyId tenantId := by rw [call]; rfl
    have known : Fetched env process thread.past thread.call.tenantKeyId envelope.keyVersion dek := by
      rw [own]
      exact fetched
    have drawn := known.drawnAs ideal.unwrapsKeys reached member
    rw [own] at drawn
    obtain ⟨whole, returned, same | shortens⟩ := decrypted_returned reached ideal secret parsed drawn decrypted
    · exact foreign (same ▸ returned)
    · exact unshortened whole returned shortens
  · intro thread member process text tenantId whole encoded call answered shortens
    exact shortened_decrypts reached ideal secret member call answered shortens

/-! A run that encrypts the empty text once -/

instance (authTag full : Buffer) : Decidable (TagAccepted authTag full) :=
  decidable_of_iff (authTag <+: full ∧ authTag.length ∈ authTagLengths)
    ⟨fun both => ⟨both.1, both.2⟩, fun accepted => ⟨accepted.bytes, accepted.length⟩⟩

def singleUseGcm : CryptoEnv where
  tenantKekKey := [7]
  aesGcmSeal _ _ plaintext := (plaintext, List.replicate gcmAuthTagLength 0)
  aesGcmOpen key iv authTag ciphertext :=
    if key = [7] ∨ key = List.replicate dekLengthBytes 1 ∧ iv = List.replicate gcmIvLength 3 ∧ ciphertext = [] ∧
      TagAccepted authTag (List.replicate gcmAuthTagLength 0) then some ciphertext else none

def emptyEnvelope : Buffer :=
  [0, 1] ++ sealed singleUseGcm (List.replicate dekLengthBytes 1) (List.replicate gcmIvLength 3) []

/-- The first 18 bytes of the envelope, and the envelope with another last byte, are sent back. -/
def sendBack : List KeyLabel :=
  .call (.encryptEmail 0 "" none) :: onThread 0 (provisioning 1 2 ++ [nonce 3]) ++
    [.call (.decryptEmail 0 (emptyEnvelope.take 18) none), .step 1 {},
      .call (.decryptEmail 0 (emptyEnvelope.take 29 ++ [255]) none), .step 2 {}]

def tellsOnly (dek : Buffer) : KeyEvent → Bool
  | ⟨.dekGet .., .ok (some _)⟩ | ⟨.selectActive _, .ok (some _)⟩ | ⟨.selectVersion .., .ok (some _)⟩ => false
  | ⟨.randomBytes size, .ok bytes⟩ => size ≠ dekLengthBytes || bytes = dek
  | _ => true

theorem Fetched.only {env : CryptoEnv} {process keyVersion : Nat} {past : List KeyEvent} {tenantKeyId : String}
    {dek only : Buffer} (told : past.all (tellsOnly only) = true)
    (fetched : Fetched env process past tenantKeyId keyVersion dek) : dek = only := by
  rw [List.all_eq_true] at told
  have drawn : ⟨.randomBytes dekLengthBytes, .ok dek⟩ ∈ past → dek = only := fun member => by
    simpa [tellsOnly] using told _ member
  cases fetched with
  | cached hit => exact absurd (told _ hit) (by simp [tellsOnly])
  | held holds =>
    cases holds with
    | stored wrappedDek read =>
      rcases read with active | version
      · exact absurd (told _ active) (by simp [tellsOnly])
      · exact absurd (told _ version) (by simp [tellsOnly])
    | provisioned _ candidate | rotated _ _ candidate => exact drawn candidate.1

def sendBackResults : List (KeyCall × Option (Except Thrown KeyAnswer)) :=
  [(.encryptEmail 0 "" none, some (.ok (.ciphertext emptyEnvelope))),
    (.decryptEmail 0 (emptyEnvelope.take 18) none, some (.ok (.plaintext ""))),
    (.decryptEmail 0 (emptyEnvelope.take 29 ++ [255]) none, some (.error .decryptionFailed))]

theorem sendBack_index {index : Nat} {result : KeyCall × Option (Except Thrown KeyAnswer)}
    (listed : sendBackResults[index]? = some result) : index = 0 ∨ index = 1 ∨ index = 2 := by
  have inside : index < 3 := (List.getElem?_eq_some_iff.mp listed).1
  omega

theorem sendBack_encrypts {config : KeyConfig} (results : config.results = sendBackResults) {thread : KeyThread}
    (member : thread ∈ config.threads) {process : Nat} {text : String} {tenantId : Option String}
    (call : thread.call = .encryptEmail process text tenantId) :
    config.threads[0]? = some thread ∧ text = "" ∧ thread.answered (.ok (.ciphertext emptyEnvelope)) := by
  obtain ⟨index, found⟩ := List.getElem?_of_mem member
  have listed : sendBackResults[index]? = some (thread.call, thread.program.outcome) := by
    rw [← results, Config.results, List.getElem?_map, found]
    rfl
  rw [call] at listed
  rcases sendBack_index listed with rfl | rfl | rfl
  · simp only [sendBackResults, List.getElem?_cons_zero, Option.some.injEq, Prod.mk.injEq,
      KeyCall.encryptEmail.injEq] at listed
    exact ⟨found, listed.1.2.1.symm, Program.outcome_eq_some.mp listed.2.symm⟩
  · simp [sendBackResults] at listed
  · simp [sendBackResults] at listed

theorem sendBack_returns {config : KeyConfig} (results : config.results = sendBackResults) {tenantKeyId : String}
    {encoded : Buffer} (returned : Returned config tenantKeyId encoded) : encoded = emptyEnvelope := by
  obtain ⟨thread, member, _, answered⟩ := returned
  obtain ⟨index, found⟩ := List.getElem?_of_mem member
  have listed : sendBackResults[index]? = some (thread.call, thread.program.outcome) := by
    rw [← results, Config.results, List.getElem?_map, found]
    rfl
  rw [Program.outcome_eq_some.mpr answered] at listed
  rcases sendBack_index listed with rfl | rfl | rfl
  · simp only [sendBackResults, List.getElem?_cons_zero, Option.some.injEq, Prod.mk.injEq, Except.ok.injEq,
      KeyAnswer.ciphertext.injEq] at listed
    exact listed.2.symm
  · simp [sendBackResults] at listed
  · simp [sendBackResults] at listed

theorem singleUseGcm_ideal {config : KeyConfig}
    (reached : Reaches (gateways singleUseGcm) anyStep (freshGateways 0) config)
    (results : config.results = sendBackResults)
    (told : ∀ thread, config.threads[0]? = some thread →
      thread.past.all (tellsOnly (List.replicate dekLengthBytes 1)) = true) :
    IdealGcm singleUseGcm (SealedInRun singleUseGcm config) := by
  -- the one envelope of the run says what was encrypted, and with which iv
  have produced : ∀ key iv plaintext, SealedInRun singleUseGcm config key iv plaintext ↔
      key = List.replicate dekLengthBytes 1 ∧ iv = List.replicate gcmIvLength 3 ∧ plaintext = [] := by
    intro key iv plaintext
    constructor
    · rintro ⟨thread, member, process, text, tenantId, keyVersion, versionPrefix, call, rfl, fetched, version, nonce,
        answered⟩
      obtain ⟨index, found⟩ := List.getElem?_of_mem member
      obtain ⟨first, rfl, envelope⟩ := sendBack_encrypts results member call
      have length : iv.length = gcmIvLength := ((keysHold_run reached).each index thread found).told _ nonce
      have equal : (Program.done (.ok (.ciphertext (versionPrefix ++ sealed singleUseGcm key iv (utf8 "")))) :
          Keys KeyAnswer) = .done (.ok (.ciphertext emptyEnvelope)) := answered.symm.trans envelope
      simp only [Program.done.injEq, Except.ok.injEq, KeyAnswer.ciphertext.injEq] at equal
      obtain ⟨_, body⟩ := List.append_inj equal (writeUInt16BE_length version)
      have start : iv ++ (List.replicate gcmAuthTagLength 0 ++ utf8 "") =
          List.replicate gcmIvLength 3 ++ (List.replicate gcmAuthTagLength 0 ++ []) := by
        simpa [sealed, singleUseGcm] using body
      exact ⟨fetched.only (told thread first), (List.append_inj start (by simpa using length)).1, rfl⟩
    · rintro ⟨rfl, rfl, rfl⟩
      have first : config.results[0]? = some (.encryptEmail 0 "" none, some (.ok (.ciphertext emptyEnvelope))) := by
        rw [results]
        rfl
      obtain ⟨thread, found, call, answered⟩ := Config.of_results first
      have ended := ((keysHold_run reached).each 0 thread found).disciplined.ended answered
      rw [call] at ended
      obtain ⟨resolved, iv, versionPrefix, resolves, version, nonce, same⟩ := ended
      have length : iv.length = gcmIvLength := ((keysHold_run reached).each 0 thread found).told _ nonce
      obtain ⟨rfl, body⟩ := List.append_inj same (writeUInt16BE_length version).symm
      have start : List.replicate gcmIvLength 3 ++ (List.replicate gcmAuthTagLength 0 ++ []) =
          iv ++ (List.replicate gcmAuthTagLength 0 ++ utf8 "") := by
        simpa [sealed, singleUseGcm] using body
      obtain ⟨rfl, _⟩ := List.append_inj start (by simpa using length.symm)
      have fetched := resolves.fetched
      rw [fetched.only (told thread found)] at fetched
      have own : thread.call.tenantKeyId = resolveTenantKeyId none := by rw [call]; rfl
      refine ⟨thread, List.mem_of_getElem? found, 0, "", none, resolved.keyVersion, [0, 1], call,
        rfl, ?_, version, nonce,
        answered⟩
      rw [own]
      exact fetched
  have unwraps : ∀ iv dek, singleUseGcm.aesGcmOpen [7] iv (singleUseGcm.aesGcmSeal [7] iv dek).2
      (singleUseGcm.aesGcmSeal [7] iv dek).1 = some dek := by simp [singleUseGcm]
  refine ⟨fun _ _ _ => List.length_replicate, unwraps, ?_⟩
  intro key other iv authTag ciphertext plaintext
  have foreign : key ≠ [7] := other
  rw [produced]
  simp only [singleUseGcm, foreign, false_or]
  constructor
  · intro opened
    split at opened
    · rename_i listed
      cases opened
      exact ⟨⟨listed.1, listed.2.1, listed.2.2.1⟩, rfl, listed.2.2.2⟩
    · cases opened
  · rintro ⟨⟨rfl, rfl, rfl⟩, rfl, accepted⟩
    exact if_pos ⟨rfl, rfl, rfl, accepted⟩

theorem sendBack_run : ∃ config, Reaches (gateways singleUseGcm) anyStep (freshGateways 0) config ∧
    config.results = sendBackResults ∧ IdealGcm singleUseGcm (SealedInRun singleUseGcm config) ∧
    singleUseGcm.tenantKekKey ∉ config.state.drawn := by
  have passed : ((gateways singleUseGcm).run sendBack (freshGateways 0)).any (fun config =>
      decide (config.results = sendBackResults) && decide (singleUseGcm.tenantKekKey ∉ config.state.drawn) &&
      config.threads[0]?.all fun thread => thread.past.all (tellsOnly (List.replicate dekLengthBytes 1))) = true := by
    decide +kernel
  obtain ⟨config, reached, checked⟩ := Reaches.of_check passed
  simp only [Bool.and_eq_true, decide_eq_true_eq] at checked
  obtain ⟨⟨results, secret⟩, told⟩ := checked
  refine ⟨config, reached, results, singleUseGcm_ideal reached results ?_, secret⟩
  intro thread found
  rw [found] at told
  exact told

theorem changed_envelope_refused : ∃ config, Reaches (gateways singleUseGcm) anyStep (freshGateways 0) config ∧
    ∃ thread ∈ config.threads, thread.call = .decryptEmail 0 (emptyEnvelope.take 29 ++ [255]) none ∧
    thread.program.running = false ∧ ∀ value, ¬ thread.answered (.ok value) := by
  obtain ⟨config, reached, results, ideal, secret⟩ := sendBack_run
  have third : config.results[2]? = some (.decryptEmail 0 (emptyEnvelope.take 29 ++ [255]) none,
      some (.error .decryptionFailed)) := by
    rw [results]
    rfl
  obtain ⟨thread, found, call, answered⟩ := Config.of_results third
  have member := List.mem_of_getElem? found
  refine ⟨config, reached, thread, member, call, by rw [answered]; rfl, ?_⟩
  refine (tampering_rejected reached ideal secret).1 thread member 0 _ none call ?_ ?_
  · exact fun returned => absurd (sendBack_returns results returned) (by decide)
  · intro whole returned shortens
    rw [sendBack_returns results returned] at shortens
    exact absurd shortens.length (by decide)

/-- The first 18 bytes of the envelope of the empty text are decrypted. -/
theorem shortened_tag_accepted : ¬ ∀ env clock config, Reaches (gateways env) anyStep (freshGateways clock) config →
    IdealGcm env (SealedInRun env config) → env.tenantKekKey ∉ config.state.drawn → ∀ thread ∈ config.threads,
    ∀ process encoded tenantId, thread.call = .decryptEmail process encoded tenantId →
      ¬ Returned config (resolveTenantKeyId tenantId) encoded → ∀ value, ¬ thread.answered (.ok value) := by
  intro claim
  obtain ⟨config, reached, results, ideal, secret⟩ := sendBack_run
  have second : config.results[1]? =
      some (.decryptEmail 0 (emptyEnvelope.take 18) none, some (.ok (.plaintext ""))) := by
    rw [results]
    rfl
  obtain ⟨thread, found, call, answered⟩ := Config.of_results second
  refine claim singleUseGcm 0 config reached ideal secret thread
    (List.mem_of_getElem? found) 0 _ none call ?_ _ answered
  exact fun returned => absurd (sendBack_returns results returned) (by decide)

end GatewayProof
