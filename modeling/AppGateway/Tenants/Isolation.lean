import AppGateway.Tenants.Ownership
import AppGateway.Tenants.Provisioning

namespace GatewayProof

open Async GatewayModel
open Async.System (Modular Reaches Guarded anyStep advance_cases)

/-! Rows that are right when they are inserted -/

def KeyEffect.inserts : KeyEffect → Option (String × Nat × Buffer)
  | .insertFirst tenantKeyId wrappedDek => some (tenantKeyId, 1, wrappedDek)
  | .insertIn _ tenantKeyId keyVersion wrappedDek => some (tenantKeyId, keyVersion, wrappedDek)
  | _ => none

structure RowsRight (right : String → Nat → Buffer → Prop) (state : KeyState) : Prop where
  stored : ∀ row ∈ state.rows, right row.tenantId row.keyVersion row.wrappedDek
  pending : ∀ transaction ∈ state.transactions, ∀ row ∈ transaction.inserted,
    right row.tenantId row.keyVersion row.wrappedDek

section Rows

variable {right : String → Nat → Buffer → Prop} {state later : KeyState}

theorem RowsRight.step {effect : KeyEffect} (rows : RowsRight right state)
    (inserted : ∀ tenantKeyId keyVersion wrappedDek,
      KeyEffect.inserts effect = some (tenantKeyId, keyVersion, wrappedDek) → right tenantKeyId keyVersion wrappedDek)
    (step : KeyStep state later effect) : RowsRight right later := by
  have others : ∀ id, ∀ transaction ∈ state.others id, ∀ row ∈ transaction.inserted,
      right row.tenantId row.keyVersion row.wrappedDek :=
    fun id transaction member => rows.pending transaction (mem_others.mp member).1
  cases step with
  | keep same transactions => exact ⟨same ▸ rows.stored, transactions ▸ rows.pending⟩
  | abort id same transactions => exact ⟨same ▸ rows.stored, transactions ▸ others id⟩
  | begin same transactions =>
    refine ⟨same ▸ rows.stored, fun transaction member => ?_⟩
    rw [transactions] at member
    rcases List.mem_cons.mp member with rfl | earlier
    · exact nofun
    · exact rows.pending transaction earlier
  | first tenantKeyId wrappedDek _ added transactions =>
    refine ⟨fun row member => ?_, transactions ▸ rows.pending⟩
    rw [added] at member
    rcases List.mem_append.mp member with earlier | new
    · exact rows.stored row earlier
    · rw [List.mem_singleton.mp new]
      exact inserted tenantKeyId 1 wrappedDek rfl
  | @retire id transaction tenantKeyId keyVersion retiredAt found _ same transactions =>
    refine ⟨same ▸ rows.stored, fun other member row there => ?_⟩
    rw [transactions] at member
    rcases List.mem_cons.mp member with rfl | elsewhere
    · obtain ⟨old, present, rfl⟩ := List.mem_map.mp there
      simpa using rows.pending transaction (transaction_found found).1 old present
    · exact others id other elsewhere row there
  | @insert id transaction tenantKeyId keyVersion wrappedDek found _ same transactions =>
    refine ⟨same ▸ rows.stored, fun other member row there => ?_⟩
    rw [transactions] at member
    rcases List.mem_cons.mp member with rfl | elsewhere
    · rcases List.mem_append.mp there with earlier | new
      · exact rows.pending transaction (transaction_found found).1 row earlier
      · rw [List.mem_singleton.mp new]
        exact inserted tenantKeyId keyVersion wrappedDek rfl
    · exact others id other elsewhere row there
  | @commit id transaction found viewed transactions =>
    refine ⟨fun row member => ?_, transactions ▸ others id⟩
    rw [viewed] at member
    rcases List.mem_append.mp member with kept | there
    · obtain ⟨old, present, rfl⟩ := List.mem_map.mp kept
      simpa using rows.stored old present
    · exact rows.pending transaction (transaction_found found).1 row there

theorem rowsRight_modular (env : CryptoEnv) {guards : KeyState → KeyThread → Prop}
    (sound : ∀ state thread effect tenantKeyId keyVersion wrappedDek, guards state thread →
      thread.program.pending = some effect →
      KeyEffect.inserts effect = some (tenantKeyId, keyVersion, wrappedDek) → right tenantKeyId keyVersion wrappedDek) :
    Modular (gateways env) guards (RowsRight right) (fun _ _ => True) fun _ _ => True where
  call := fun _ _ _ => trivial
  step := by
    intro choice state thread moved later guard rows _ advanced
    obtain ⟨effect, resume, reply, _, program, executed, _⟩ := advance_cases advanced
    have pending : thread.program.pending = some effect := by rw [program]; rfl
    exact ⟨rows.step (fun _ _ _ => sound state thread effect _ _ _ guard pending) (execKey_step executed), trivial,
      trivial⟩
  external := by
    intro event state rows
    exact ⟨rows.step (fun _ _ _ absent => by cases absent) (externalKey_step event state .dateNow), trivial⟩
  stable := fun _ _ _ _ _ => trivial
  crash := fun _ _ _ => trivial

end Rows

/-! Owners of rows -/

def RowOwned (env : CryptoEnv) (owns : String → Buffer → Prop) (row : TenantKeyRow) : Prop := ∃ iv dek,
  iv.length = gcmIvLength ∧ row.wrappedDek = sealed env env.tenantKekKey iv dek ∧ owns row.tenantId dek

structure RowsOwned (env : CryptoEnv) (owns : String → Buffer → Prop) (state : KeyState) : Prop where
  stored : ∀ row ∈ state.rows, RowOwned env owns row
  pending : ∀ transaction ∈ state.transactions, ∀ row ∈ transaction.inserted, RowOwned env owns row

structure OwnsDraws (env : CryptoEnv) (owns : String → Buffer → Prop) (state : KeyState)
    (thread : KeyThread) : Prop where
  ledger : Ledger env state thread
  draws : ∀ bytes, Draws thread bytes → owns thread.call.tenantKeyId bytes

section Rows

variable {env : CryptoEnv} {owns : String → Buffer → Prop} {state later : KeyState} {thread : KeyThread}

theorem Candidate.owned {wrappedDek dek : Buffer} {keyVersion : Nat} (known : OwnsDraws env owns state thread)
    (candidate : Candidate env thread.past wrappedDek dek) :
    RowOwned env owns (activeRow thread.call.tenantKeyId keyVersion wrappedDek) := by
  obtain ⟨drawn, iv, nonce, wrapped⟩ := candidate
  exact ⟨iv, dek, known.ledger.told _ nonce, wrapped, known.draws dek ⟨_, drawn⟩⟩

theorem RowsOwned.step {effect : KeyEffect} (owned : RowsOwned env owns state) (known : OwnsDraws env owns state thread)
    (permitted : KeyPermits env thread.call thread.past effect) (step : KeyStep state later effect) :
    RowsOwned env owns later := by
  have inserted : ∀ tenantKeyId keyVersion wrappedDek,
      KeyEffect.inserts effect = some (tenantKeyId, keyVersion, wrappedDek) →
      RowOwned env owns (activeRow tenantKeyId keyVersion wrappedDek) := by
    intro tenantKeyId keyVersion wrappedDek inserts
    cases effect with
    | insertFirst =>
      cases inserts
      obtain ⟨rfl, _, dek, candidate⟩ := permitted
      exact candidate.owned known
    | insertIn =>
      cases inserts
      obtain ⟨rfl, _, ⟨dek, candidate⟩, _⟩ := permitted
      exact candidate.owned known
    | _ => cases inserts
  have rows : RowsRight (fun tenantId keyVersion wrappedDek =>
      RowOwned env owns (activeRow tenantId keyVersion wrappedDek)) state := ⟨owned.stored, owned.pending⟩
  have moved := rows.step inserted step
  exact ⟨moved.stored, moved.pending⟩

theorem rows_modular (env : CryptoEnv) (owns : String → Buffer → Prop) :
    Modular (gateways env) (OwnsDraws env owns) (RowsOwned env owns) (fun _ _ => True) fun _ _ => True where
  call := fun _ _ _ => trivial
  step := by
    intro choice state thread moved later known owned _ advanced
    obtain ⟨effect, resume, reply, _, program, executed, _⟩ := advance_cases advanced
    have permitted := known.ledger.disciplined.permitted program
    exact ⟨owned.step known permitted (execKey_step executed), trivial, trivial⟩
  external := by
    intro event state owned
    cases event with
    | elapse ms => exact ⟨⟨owned.stored, owned.pending⟩, trivial⟩
    | terminate id =>
      exact ⟨⟨owned.stored, fun transaction member => owned.pending transaction (mem_others.mp member).1⟩, trivial⟩
  stable := fun _ _ _ _ _ => trivial
  crash := fun _ _ _ => trivial

theorem Holds.owned (aes : AesGcm env) (known : OwnsDraws env owns state thread) (owned : RowsOwned env owns state)
    {keyVersion : Nat} {dek : Buffer} (holds : Holds env thread.past thread.call.tenantKeyId keyVersion dek) :
    owns thread.call.tenantKeyId dek := by
  cases holds with
  | stored wrappedDek read unwrapped =>
    have persisted : Persisted state.rows thread.call.tenantKeyId keyVersion wrappedDek := by
      rcases read with active | version
      · exact known.ledger.told _ active
      · exact known.ledger.told _ version
    obtain ⟨row, member, tenant, _, same⟩ := persisted
    obtain ⟨iv, own, nonce, wrapped, owner⟩ := owned.stored row member
    rw [← same, wrapped, unwrapDek, decryptWithKey_sealed aes nonce] at unwrapped
    cases unwrapped
    rw [← tenant]
    exact owner
  | provisioned _ candidate | rotated _ _ candidate => exact known.draws dek ⟨_, candidate.1⟩

end Rows

section Runs

variable {env : CryptoEnv} {allowed : KeyConfig → KeyLabel → Prop} {clock : Nat} {config final : KeyConfig}

def DrawnFor (config : KeyConfig) (tenantKeyId : String) (bytes : Buffer) : Prop :=
  ∃ thread ∈ config.threads, thread.call.tenantKeyId = tenantKeyId ∧ Draws thread bytes

theorem drawnFor_unique (reached : Reaches (gateways env) allowed (freshGateways clock) config)
    {tenantKeyId other : String} {bytes : Buffer} (drawn : DrawnFor config tenantKeyId bytes)
    (drawn' : DrawnFor config other bytes) : tenantKeyId = other := by
  obtain ⟨first, member, rfl, draws⟩ := drawn
  obtain ⟨second, member', rfl, draws'⟩ := drawn'
  obtain ⟨index, here⟩ := List.getElem?_of_mem member
  obtain ⟨place, there⟩ := List.getElem?_of_mem member'
  have same := draws_unique reached here there draws draws'
  rw [same, there] at here
  cases here
  rfl

theorem ownsDraws_toward (holds : KeysHold env config) (onward : Reaches (gateways env) allowed config final)
    {index : Nat} {thread : KeyThread} (found : config.threads[index]? = some thread) :
    OwnsDraws env (DrawnFor final) config.state thread := by
  refine ⟨holds.each index thread found, fun bytes draws => ?_⟩
  obtain ⟨later, there, extended⟩ := onward.extends found
  obtain ⟨size, member⟩ := draws
  exact ⟨later, List.mem_of_getElem? there, congrArg KeyCall.tenantKeyId extended.call, size,
    extended.past.subset member⟩

/-- At the end of a run every DEK in the table, in an open transaction, in a cache or with a call is
    of the tenant it was drawn for. -/
theorem deks_owned (aes : AesGcm env) (reached : Reaches (gateways env) allowed (freshGateways clock) final) :
    RowsOwned env (DrawnFor final) final.state ∧
    Modular.Holds (CachesHold fun _ tenantKeyId _ => DrawnFor final tenantKeyId)
      (HitsHold fun _ tenantKeyId _ => DrawnFor final tenantKeyId) final := by
  have onward : Reaches (gateways env) (fun config label =>
      (allowed config label ∧ Reaches (gateways env) allowed config final) ∧ KeysHold env config)
      (freshGateways clock) final := reached.toward.along fun _ => keysHold_run
  have draws : ∀ config label,
      ((allowed config label ∧ Reaches (gateways env) allowed config final) ∧ KeysHold env config) →
      Guarded (OwnsDraws env (DrawnFor final)) config label := by
    rintro config label ⟨⟨_, towards⟩, holds⟩ index choice thread _ found
    exact ownsDraws_toward holds towards found
  have rows : ∀ config, Reaches (gateways env) _ (freshGateways clock) config →
      RowsOwned env (DrawnFor final) config.state := fun config reached =>
    ((rows_modular env (DrawnFor final)).run draws reached ⟨⟨nofun, nofun⟩, fun _ _ => trivial⟩).1
  have guarded : ∀ config label, (((allowed config label ∧ Reaches (gateways env) allowed config final) ∧
      KeysHold env config) ∧ RowsOwned env (DrawnFor final) config.state) →
      Guarded (fun state thread => OwnsDraws env (DrawnFor final) state thread ∧ RowsOwned env (DrawnFor final) state)
        config label := by
    rintro config label ⟨before, owned⟩ index choice thread same found
    exact ⟨draws config label before index choice thread same found, owned⟩
  have caches : Modular (gateways env)
      (fun state thread => OwnsDraws env (DrawnFor final) state thread ∧ RowsOwned env (DrawnFor final) state)
      (CachesHold fun _ tenantKeyId _ => DrawnFor final tenantKeyId) KeysGrow
      (HitsHold fun _ tenantKeyId _ => DrawnFor final tenantKeyId) := by
    refine caches_modular (fun _ _ _ _ owned => owned) (fun _ _ known => known.1.ledger.disciplined) ?_
    rintro state thread tenantKeyId keyVersion dek ⟨known, owned⟩ holds rfl
    exact holds.owned aes known owned
  refine ⟨rows final onward, caches.run guarded (onward.along rows) ⟨?_, nofun⟩⟩
  intro process entry absent
  cases absent

theorem obtains_drawnFor (aes : AesGcm env) (reached : Reaches (gateways env) allowed (freshGateways clock) config)
    {thread : KeyThread} (member : thread ∈ config.threads) {dek : Buffer} (obtains : Obtains env thread dek) :
    DrawnFor config thread.call.tenantKeyId dek := by
  obtain ⟨owned, _, hits⟩ := deks_owned aes reached
  obtain ⟨index, found⟩ := List.getElem?_of_mem member
  have known : OwnsDraws env (DrawnFor config) config.state thread :=
    @ownsDraws_toward env allowed config config (keysHold_run reached) .refl index thread found
  have fetched : ∀ keyVersion, Fetched env thread.call.process thread.past thread.call.tenantKeyId keyVersion dek →
      DrawnFor config thread.call.tenantKeyId dek := by
    intro keyVersion fetched
    cases fetched with
    | cached hit => exact hits thread member _ _ _ _ hit
    | held holds => exact holds.owned aes known owned
  rcases obtains.cases known.ledger with ⟨keyVersion, got⟩ | ⟨_, draws⟩
  · exact fetched keyVersion got
  · exact known.draws dek draws

end Runs

/-- No DEK serves two tenants, and no tenant's ciphertext is decrypted for another. -/
theorem tenant_isolation {env : CryptoEnv} (aes : AesGcm env) {clock : Nat} {config : KeyConfig}
    (reached : Reaches (gateways env) anyStep (freshGateways clock) config) :
    (∀ first ∈ config.threads, ∀ second ∈ config.threads, ∀ dek, Obtains env first dek → Obtains env second dek →
      first.call.tenantKeyId = second.call.tenantKeyId) ∧
    ∀ encrypting ∈ config.threads, ∀ decrypting ∈ config.threads,
      ∀ process plaintext tenantId encoded process' tenantId',
      encrypting.call = .encryptEmail process plaintext tenantId → encrypting.answered (.ok (.ciphertext encoded)) →
      decrypting.call = .decryptEmail process' encoded tenantId' →
      resolveTenantKeyId tenantId ≠ resolveTenantKeyId tenantId' → ∀ value, ¬ decrypting.answered (.ok value) := by
  have shared : ∀ first ∈ config.threads, ∀ second ∈ config.threads, ∀ dek, Obtains env first dek →
      Obtains env second dek → first.call.tenantKeyId = second.call.tenantKeyId := by
    intro first member second member' dek obtains obtains'
    exact drawnFor_unique reached (obtains_drawnFor aes reached member obtains)
      (obtains_drawnFor aes reached member' obtains')
  refine ⟨shared, ?_⟩
  intro encrypting member decrypting member' process plaintext tenantId encoded process' tenantId' encrypts ciphertext
    decrypts differs value answered
  have holds : KeysHold env config := keysHold_run reached
  obtain ⟨index, found⟩ := List.getElem?_of_mem member
  obtain ⟨place, found'⟩ := List.getElem?_of_mem member'
  have ledger := holds.each index encrypting found
  have ended := ledger.disciplined.ended ciphertext
  have ended' := (holds.each place decrypting found').disciplined.ended answered
  rw [encrypts] at ended
  rw [decrypts] at ended'
  obtain ⟨resolved, iv, versionPrefix, resolves, version, nonce, rfl⟩ := ended
  cases value with
  | ciphertext | resolved | dek => exact ended'.elim
  | plaintext text =>
  obtain ⟨envelope, dek, _, fetched, opened⟩ := ended'
  have own : Obtains env encrypting resolved.dek :=
    .fetched resolved.keyVersion (by rw [encrypts]; exact resolves.fetched)
  have other : Obtains env decrypting dek := .fetched envelope.keyVersion (by rw [decrypts]; exact fetched)
  have apart : dek ≠ resolved.dek := by
    rintro rfl
    have same := shared encrypting member decrypting member' _ own other
    rw [encrypts, decrypts] at same
    exact differs same
  rw [decryptWithDek_other aes version (ledger.told _ nonce) apart] at opened
  cases opened

def firstCiphertext : Buffer :=
  [0, 1] ++ sealed idealCipher (List.replicate dekLengthBytes 1) (List.replicate gcmIvLength 3) (utf8 "x")

def crossTenantRead : List KeyLabel :=
  .call (.encryptEmail 0 "x" (some "a")) :: onThread 0 (provisioning 1 2 ++ [nonce 3]) ++
    .call (.getActiveDek 0 (some "b")) :: onThread 1 (provisioning 4 5) ++
    [.call (.decryptEmail 0 firstCiphertext (some "b")), .step 2 {}]

theorem cross_tenant_read_refused : ∃ config,
    Reaches (gateways idealCipher) anyStep (freshGateways 0) config ∧
    ∃ encrypting ∈ config.threads, encrypting.answered (.ok (.ciphertext firstCiphertext)) ∧
    ∃ decrypting ∈ config.threads, decrypting.call = .decryptEmail 0 firstCiphertext (some "b") ∧
    decrypting.program.running = false ∧ ∀ value, ¬ decrypting.answered (.ok value) := by
  have passed : ((gateways idealCipher).run crossTenantRead (freshGateways 0)).any (fun config =>
      decide (config.results[0]? = some (.encryptEmail 0 "x" (some "a"), some (.ok (.ciphertext firstCiphertext)))) &&
      decide (config.results[2]? = some (.decryptEmail 0 firstCiphertext (some "b"),
        some (.error .decryptionFailed)))) = true := by decide +kernel
  obtain ⟨config, reached, checked⟩ := Reaches.of_check passed
  rw [Bool.and_eq_true, decide_eq_true_eq, decide_eq_true_eq] at checked
  obtain ⟨encrypting, here, encrypts, ciphertext⟩ := Config.of_results checked.1
  obtain ⟨decrypting, there, decrypts, refused⟩ := Config.of_results checked.2
  refine ⟨config, reached, encrypting, List.mem_of_getElem? here, ciphertext, decrypting, List.mem_of_getElem? there,
    decrypts, by rw [refused]; rfl, ?_⟩
  exact (tenant_isolation idealCipher_aes reached).2 encrypting (List.mem_of_getElem? here) decrypting
    (List.mem_of_getElem? there) 0 "x" (some "a") firstCiphertext 0 (some "b") encrypts ciphertext decrypts (by decide)

end GatewayProof
