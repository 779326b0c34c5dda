import AppGateway.Async.Execution
import AppGateway.Tenants.Agreement

namespace GatewayProof

open Async GatewayModel
open Async.Program (Completes completes_await completes_done)
open Async.System (Modular Reaches Guarded anyStep advance_cases)

def Faultless (choice : KeyChoice) : Prop := choice.fault = .none

def Recovers (env : CryptoEnv) (rows : List TenantKeyRow) (tenantId : Option String) (encoded : Buffer)
    (plaintext : String) : Prop :=
  ∀ state process, state.rows = rows → state.caches process = {} →
    (∃ after, Completes execKey Faultless (decryptEmail env process encoded tenantId) state (.ok plaintext) after) ∧
    ∀ outcome after, Completes execKey Faultless (decryptEmail env process encoded tenantId) state outcome after →
      outcome = .ok plaintext

/-- An encryption that looks a DEK up in the cache finds none, or that of a committed row. -/
def LooksUpCommitted (env : CryptoEnv) (state : KeyState) (thread : KeyThread) : Prop :=
  ∀ process plaintext tenantId, thread.call = .encryptEmail process plaintext tenantId →
    ∀ owner tenantKeyId keyVersion dek, thread.program.pending = some (.dekGet owner tenantKeyId keyVersion) →
      (state.caches owner).dekCache.find (cacheKey tenantKeyId keyVersion) = some dek →
      Committed env state.rows tenantKeyId keyVersion dek

section Decryption

variable {env : CryptoEnv}

theorem execKey_settled {effect : KeyEffect} {choice choice' : KeyChoice} (state : KeyState)
    (settled : ∀ size, effect ≠ .randomBytes size) (good : Faultless choice) (good' : Faultless choice') :
    execKey effect choice state = execKey effect choice' state := by
  unfold execKey
  rw [good, good']
  cases effect with
  | randomBytes size => exact absurd rfl (settled size)
  | _ => rfl

theorem dekGet_empty {state : KeyState} {process : Nat} (empty : state.caches process = {}) (tenantKeyId : String)
    (keyVersion : Nat) : ∃ after, execKey (.dekGet process tenantKeyId keyVersion) {} state = some (.ok none, after) ∧
      after.rows = state.rows ∧ after.caches process = {} := by
  have missing : (state.caches process).dekCache.get (cacheKey tenantKeyId keyVersion) =
      (none, (state.caches process).dekCache) := by
    apply Store.BoundedLru.get_of_find_none
    rw [empty]
    rfl
  refine ⟨state.setCaches process (state.caches process), ?_, rfl, ?_⟩
  · show respondKey {} state (.dekGet process tenantKeyId keyVersion) = _
    rw [respondKey, missing]
  · exact (Function.update_self ..).trans empty

theorem unwrapAndCache_completes {state : KeyState} {process : Nat} (empty : state.caches process = {})
    (tenantKeyId : String) (keyVersion : Nat) {wrappedDek dek : Buffer}
    (unwrapped : unwrapDek env wrappedDek = .ok dek) :
    ∃ after, Completes execKey Faultless (unwrapAndCache env process tenantKeyId keyVersion wrappedDek) state
      (.ok { dek, keyVersion }) after := by
  obtain ⟨missed, lookup, _⟩ := dekGet_empty empty tenantKeyId keyVersion
  obtain ⟨last, stored⟩ : ∃ last, execKey (.dekSet process tenantKeyId keyVersion dek) {} missed =
    some (.ok (), last) :=
    ⟨_, rfl⟩
  refine ⟨last, .await {} rfl lookup ?_⟩
  simp only [Program.done_ok_bind, unwrapped]
  exact .await {} rfl stored (.done _ _)

theorem getDekForVersion_completes {state : KeyState} {process : Nat} (empty : state.caches process = {})
    {tenantId : Option String} {keyVersion : Nat} {row : TenantKeyRow} {dek : Buffer}
    (found : state.rows.find? (fun row => row.named (resolveTenantKeyId tenantId) keyVersion) = some row)
    (unwrapped : unwrapDek env row.wrappedDek = .ok dek) :
    ∃ after, Completes execKey Faultless (getDekForVersion env process tenantId keyVersion) state (.ok dek) after := by
  obtain ⟨missed, lookup, rows, still⟩ := dekGet_empty empty (resolveTenantKeyId tenantId) keyVersion
  have select : execKey (.selectVersion (resolveTenantKeyId tenantId) keyVersion) {} missed =
      some (.ok (some row.wrappedDek), missed) := by
    show respondKey {} missed (.selectVersion (resolveTenantKeyId tenantId) keyVersion) = _
    rw [respondKey, rows, found]
    rfl
  obtain ⟨last, resolved⟩ := unwrapAndCache_completes still (resolveTenantKeyId tenantId) keyVersion unwrapped
  refine ⟨last, .await {} rfl lookup (.await {} rfl select (Completes.bind (.done _ _) ?_))⟩
  exact Completes.bind resolved (.done _ _)

theorem Committed.find {state : KeyState} (valid : KeysValid state) {tenantKeyId : String} {keyVersion : Nat}
    {dek : Buffer} (committed : Committed env state.rows tenantKeyId keyVersion dek) : ∃ row,
    state.rows.find? (fun row => row.named tenantKeyId keyVersion) = some row ∧
    unwrapDek env row.wrappedDek = .ok dek := by
  obtain ⟨_, ⟨row, member, owned, version, rfl⟩, unwrapped⟩ := committed
  have named : row.named tenantKeyId keyVersion = true := named_iff.mpr ⟨owned, version⟩
  cases found : state.rows.find? fun row => row.named tenantKeyId keyVersion with
  | none => exact absurd named (List.find?_eq_none.mp found row member)
  | some other =>
    obtain ⟨_, member', owned', version', same⟩ := find_named_persisted found
    obtain ⟨n, chain⟩ := valid.chain tenantKeyId
    rw [← chain.row_unique member member' owned owned' (version.trans version'.symm)] at same
    exact ⟨other, rfl, by rw [← same]; exact unwrapped⟩

theorem Committed.recovers (aes : AesGcm env) {state : KeyState} (valid : KeysValid state) {tenantId : Option String}
    {keyVersion : Nat} {dek iv versionPrefix : Buffer} {plaintext : String}
    (committed : Committed env state.rows (resolveTenantKeyId tenantId) keyVersion dek)
    (written : writeUInt16BE keyVersion = .ok versionPrefix) (nonce : iv.length = gcmIvLength) :
    Recovers env state.rows tenantId (versionPrefix ++ sealed env dek iv (utf8 plaintext)) plaintext := by
  obtain ⟨row, found, unwrapped⟩ := committed.find valid
  intro fresh process rows empty
  rw [← rows] at found
  have decrypted : ∃ after, Completes execKey Faultless (decryptEmail env process
      (versionPrefix ++ sealed env dek iv (utf8 plaintext)) tenantId) fresh (.ok plaintext) after := by
    obtain ⟨after, resolved⟩ := getDekForVersion_completes empty found unwrapped
    unfold decryptEmail
    rw [parseEnvelope_written _ written]
    refine ⟨after, Completes.bind (.done _ _) (Completes.bind resolved ?_)⟩
    rw [decryptWithDek_sealed aes written nonce]
    exact .done _ _
  refine ⟨decrypted, fun outcome after completes => ?_⟩
  obtain ⟨last, own⟩ := decrypted
  refine (Completes.unique own completes (decryptEmail_looksUp ..) ?_).1
  intro effect choice choice' state looksUp good good'
  refine execKey_settled state (fun size drawn => ?_) good good'
  rw [drawn] at looksUp
  exact looksUp

end Decryption

def Encrypts (call : KeyCall) : Prop := ∃ process plaintext tenantId, call = .encryptEmail process plaintext tenantId

def EncryptsCommitted (env : CryptoEnv) (state : KeyState) (thread : KeyThread) : Prop :=
  Encrypts thread.call → ∀ process tenantKeyId keyVersion dek,
    ⟨.dekGet process tenantKeyId keyVersion, .ok (some dek)⟩ ∈ thread.past →
    Committed env state.rows tenantKeyId keyVersion dek

theorem encrypts_modular (env : CryptoEnv) : Modular (gateways env) (LooksUpCommitted env) (fun _ => True) KeysGrow
    (EncryptsCommitted env) where
  call := fun _ _ _ _ => by simp [Thread.start]
  step := by
    intro choice state thread moved later guard _ hits advanced
    obtain ⟨effect, resume, reply, _, program, executed, rfl⟩ := advance_cases advanced
    have growth : KeysGrow state later := (execKey_step executed).grow
    refine ⟨trivial, growth, fun encrypts process tenantKeyId keyVersion dek hit => ?_⟩
    rcases List.mem_append.mp hit with earlier | last
    · exact (hits encrypts process tenantKeyId keyVersion dek earlier).grow growth
    · obtain ⟨owner, plaintext, tenantId, call⟩ := encrypts
      cases List.mem_singleton.mp last
      have found : (state.caches process).dekCache.find (cacheKey tenantKeyId keyVersion) = some dek := by
        have responded := execKey_ok executed
        simp only [respondKey, Option.some.injEq, Prod.mk.injEq, Except.ok.injEq, Store.BoundedLru.get_fst] at responded
        exact responded.1
      have pending : thread.program.pending = some (.dekGet process tenantKeyId keyVersion) := by rw [program]; rfl
      exact (guard owner plaintext tenantId call process tenantKeyId keyVersion dek pending found).grow growth
  external := fun event state _ => ⟨trivial, (externalKey_step event state .dateNow).grow⟩
  stable := fun _ _ _ growth hits encrypts process tenantKeyId keyVersion dek hit =>
    (hits encrypts process tenantKeyId keyVersion dek hit).grow growth
  crash := fun _ _ hits => hits

/-- In a run whose encryptions find only DEKs of committed rows in the caches, every ciphertext that has
    been returned is recovered from the rows. -/
theorem no_ciphertext_orphaned {env : CryptoEnv} (aes : AesGcm env) {clock : Nat} {config : KeyConfig}
    (reached : Reaches (gateways env) (Guarded (LooksUpCommitted env)) (freshGateways clock) config)
    {thread : KeyThread} (member : thread ∈ config.threads) {process : Nat} {plaintext : String}
    {tenantId : Option String} {encoded : Buffer} (call : thread.call = .encryptEmail process plaintext tenantId)
    (answered : thread.answered (.ok (.ciphertext encoded))) :
    Recovers env config.state.rows tenantId encoded plaintext := by
  have holds : KeysHold env config := keysHold_run reached
  obtain ⟨index, found⟩ := List.getElem?_of_mem member
  have ledger := holds.each index thread found
  have hits := ((encrypts_modular env).run (fun _ _ guarded => guarded) reached ⟨trivial, nofun⟩).2 thread member
    ⟨process, plaintext, tenantId, call⟩
  have steady : ¬ RotatesKey thread.call := by
    rintro ⟨_, _, rotates⟩
    rw [call] at rotates
    cases rotates
  have ended := ledger.disciplined.ended answered
  rw [call] at ended
  obtain ⟨resolved, iv, versionPrefix, resolves, version, nonce, rfl⟩ := ended
  have committed : Committed env config.state.rows (resolveTenantKeyId tenantId) resolved.keyVersion resolved.dek := by
    cases resolves.fetched with
    | cached hit => exact hits _ _ _ _ hit
    | held known => exact known.committed aes ledger steady
  exact committed.recovers aes holds.valid version (ledger.told _ nonce)

def looksUpCommitted (env : CryptoEnv) (config : KeyConfig) : KeyLabel → Bool
  | .step index _ =>
    match config.threads[index]? with
    | none => true
    | some thread =>
      match thread.program.pending with
      | some (.dekGet owner tenantKeyId keyVersion) =>
        match (config.state.caches owner).dekCache.find (cacheKey tenantKeyId keyVersion) with
        | none => true
        | some dek => config.state.rows.any fun row =>
          row.named tenantKeyId keyVersion && decide (unwrapDek env row.wrappedDek = .ok dek)
      | _ => true
  | _ => true

theorem looksUpCommitted_sound (env : CryptoEnv) (config : KeyConfig) (label : KeyLabel)
    (checked : looksUpCommitted env config label = true) : Guarded (LooksUpCommitted env) config label := by
  rintro index choice thread rfl found process plaintext tenantId _ owner tenantKeyId keyVersion dek pending cached
  simp only [looksUpCommitted, found, pending, cached, List.any_eq_true, Bool.and_eq_true, named_iff,
    decide_eq_true_eq] at checked
  obtain ⟨row, member, ⟨owned, version⟩, unwrapped⟩ := checked
  exact ⟨row.wrappedDek, ⟨row, member, owned, version, rfl⟩, unwrapped⟩

def encryptRotateEncrypt : List KeyLabel :=
  .call (.encryptEmail 0 "x" none) :: onThread 0 (provisioning 1 2 ++ [nonce 3]) ++
    .call (.rotateTenantKey 0 none) :: onThread 1 (rotating 4 5 ++ calmly 1) ++
    .call (.encryptEmail 0 "y" none) :: onThread 2 (calmly 2 ++ [nonce 6])

def secondCiphertext : Buffer :=
  [0, 2] ++ sealed idealCipher (List.replicate dekLengthBytes 4) (List.replicate gcmIvLength 6) (utf8 "y")

theorem rotated_ciphertext_recovered : ∃ config,
    Reaches (gateways idealCipher) (Guarded (LooksUpCommitted idealCipher)) (freshGateways 0) config ∧
    Recovers idealCipher config.state.rows none secondCiphertext "y" := by
  have passed : ((gateways idealCipher).runChecked (looksUpCommitted idealCipher) encryptRotateEncrypt
      (freshGateways 0)).any (fun config => config.results[2]? =
        some (.encryptEmail 0 "y" none, some (.ok (.ciphertext secondCiphertext)))) = true := by decide +kernel
  obtain ⟨config, reached, checked⟩ := Reaches.of_checks (looksUpCommitted_sound idealCipher) passed
  obtain ⟨thread, found, call, answered⟩ := Config.of_results (of_decide_eq_true checked)
  exact ⟨config, reached, no_ciphertext_orphaned idealCipher_aes reached (List.mem_of_getElem? found) call answered⟩

/-- The COMMIT of a rotation is lost, and the process goes on with the DEK in its caches. -/
def encryptAfterLostCommit : List KeyLabel :=
  .call (.getActiveDek 0 none) :: onThread 0 (provisioning 1 2) ++
    .call (.rotateTenantKey 0 none) :: onThread 1 (rotating 4 5 ++ [{ fault := .lost }] ++ calmly 1) ++
    .call (.encryptEmail 0 "y" none) :: onThread 2 (calmly 2 ++ [nonce 6])

/-- Its ciphertext names a version that the table does not have. -/
theorem lost_commit_orphans_ciphertext : ¬ ∀ env, AesGcm env → ∀ clock config,
    Reaches (gateways env) anyStep (freshGateways clock) config → ∀ thread ∈ config.threads,
    ∀ process plaintext tenantId encoded, thread.call = .encryptEmail process plaintext tenantId →
      thread.answered (.ok (.ciphertext encoded)) → Recovers env config.state.rows tenantId encoded plaintext := by
  intro claim
  have passed : ((gateways idealCipher).run encryptAfterLostCommit (freshGateways 0)).any (fun config =>
      decide (config.results[2]? = some (.encryptEmail 0 "y" none, some (.ok (.ciphertext secondCiphertext)))) &&
      (Program.evaluate execKey (calmly 2) (decryptEmail idealCipher 1 secondCiphertext none)
        { freshKeys 0 with rows := config.state.rows }).any fun ended => decide (ended.1 ≠ .ok "y")) = true := by
    decide +kernel
  obtain ⟨config, reached, checked⟩ := Reaches.of_check passed
  rw [Bool.and_eq_true, decide_eq_true_eq] at checked
  obtain ⟨thread, found, call, answered⟩ := Config.of_results checked.1
  have calm : ∀ choice ∈ calmly 2, Faultless choice := by simp [calmly, Faultless]
  obtain ⟨outcome, after, completes, failed⟩ := Completes.of_check calm checked.2
  have recovers := claim idealCipher idealCipher_aes 0 config reached thread (List.mem_of_getElem? found) 0 "y" none
    secondCiphertext call answered
  exact of_decide_eq_true failed ((recovers { freshKeys 0 with rows := config.state.rows } 1 rfl rfl).2 _ _ completes)

end GatewayProof
