import AppGateway.Tenants.Ownership
import AppGateway.Tenants.Provisioning

namespace GatewayProof

open Async GatewayModel
open Async.System (Modular Reaches Guarded next_cases next_extends advance_cases)

def NoRotation (_ : KeyConfig) (label : KeyLabel) : Prop := ∀ call, label = .call call → ¬ RotatesKey call

def Committed (env : CryptoEnv) (rows : List TenantKeyRow) (tenantKeyId : String) (keyVersion : Nat)
    (dek : Buffer) : Prop :=
  ∃ wrappedDek, Persisted rows tenantKeyId keyVersion wrappedDek ∧ unwrapDek env wrappedDek = .ok dek

section Committed

variable {env : CryptoEnv} {state : KeyState} {thread : KeyThread} {tenantKeyId : String} {keyVersion : Nat}
  {wrappedDek dek : Buffer}

theorem Committed.grow {before after : KeyState} (growth : KeysGrow before after)
    (committed : Committed env before.rows tenantKeyId keyVersion dek) :
    Committed env after.rows tenantKeyId keyVersion dek := by
  obtain ⟨wrappedDek, persisted, unwrapped⟩ := committed
  exact ⟨wrappedDek, growth _ _ _ persisted, unwrapped⟩

theorem Candidate.unwraps (aes : AesGcm env) (ledger : Ledger env state thread)
    (candidate : Candidate env thread.past wrappedDek dek) : unwrapDek env wrappedDek = .ok dek := by
  obtain ⟨_, iv, nonce, wrapped⟩ := candidate
  rw [wrapped]
  exact decryptWithKey_sealed aes (ledger.told _ nonce)

theorem ReadRow.persisted (ledger : Ledger env state thread)
    (read : ReadRow thread.past tenantKeyId keyVersion wrappedDek) :
    Persisted state.rows tenantKeyId keyVersion wrappedDek := by
  rcases read with active | version
  · exact ledger.told _ active
  · exact ledger.told _ version

theorem Ledger.inserts_began (ledger : Ledger env state thread) {id : Nat} {reply : Except Thrown Unit}
    (inserted : ⟨.insertIn id tenantKeyId keyVersion wrappedDek, reply⟩ ∈ thread.past) : Began thread.past id := by
  obtain ⟨before, after, split, permitted⟩ := ledger.disciplined.1.of_mem inserted
  rw [split]
  exact permitted.2.1.grow (List.prefix_append ..)

theorem Ledger.began_rotates (ledger : Ledger env state thread) {id : Nat} (began : Began thread.past id) :
    RotatesKey thread.call := by
  have first : ⟨.begin, .ok id⟩ ∈ thread.past := List.mem_of_mem_head? began
  obtain ⟨_, _, _, permitted⟩ := ledger.disciplined.1.of_mem first
  exact permitted.2

theorem Holds.committed (aes : AesGcm env) (ledger : Ledger env state thread) (steady : ¬ RotatesKey thread.call)
    (holds : Holds env thread.past tenantKeyId keyVersion dek) :
    Committed env state.rows tenantKeyId keyVersion dek := by
  cases holds with
  | stored wrappedDek read unwrapped => exact ⟨wrappedDek, read.persisted ledger, unwrapped⟩
  | provisioned wrappedDek candidate first inserted =>
    rw [first]
    exact ⟨wrappedDek, ledger.told _ inserted, candidate.unwraps aes ledger⟩
  | rotated wrappedDek id _ inserted => exact absurd (ledger.began_rotates (ledger.inserts_began inserted)) steady

theorem Committed.unique (valid : KeysValid state) {dek' : Buffer}
    (committed : Committed env state.rows tenantKeyId keyVersion dek)
    (committed' : Committed env state.rows tenantKeyId keyVersion dek') : dek = dek' := by
  obtain ⟨_, ⟨row, member, owned, version, rfl⟩, unwrapped⟩ := committed
  obtain ⟨_, ⟨other, member', owned', version', rfl⟩, unwrapped'⟩ := committed'
  obtain ⟨n, chain⟩ := valid.chain tenantKeyId
  have same := chain.row_unique member member' owned owned' (version.trans version'.symm)
  rw [same, unwrapped'] at unwrapped
  exact (Except.ok.inj unwrapped).symm

end Committed

section Runs

variable {env : CryptoEnv} {clock : Nat} {config : KeyConfig}

structure NonRotating (env : CryptoEnv) (state : KeyState) (thread : KeyThread) : Prop where
  ledger : Ledger env state thread
  steady : ¬ RotatesKey thread.call

theorem nonRotating_run (reached : Reaches (gateways env) NoRotation (freshGateways clock) config) :
    ∀ thread ∈ config.threads, NonRotating env config.state thread := by
  have calls : ∀ thread ∈ config.threads, ¬ RotatesKey thread.call :=
    reached.calls (fun _ _ only => only _ rfl) nofun
  intro thread member
  obtain ⟨index, found⟩ := List.getElem?_of_mem member
  exact ⟨(keysHold_run reached).each index thread found, calls thread member⟩

theorem nonRotating_guarded (config : KeyConfig) (label : KeyLabel)
    (allowed : NoRotation config label ∧ ∀ thread ∈ config.threads, NonRotating env config.state thread) :
    Guarded (NonRotating env) config label :=
  fun _ _ thread _ found => allowed.2 thread (List.mem_of_getElem? found)

theorem first_keys_only (reached : Reaches (gateways env) NoRotation (freshGateways clock) config) :
    ∀ row ∈ config.state.rows, row.keyVersion = 1 := by
  have modular : Modular (gateways env) (NonRotating env) (fun state => ∀ row ∈ state.rows, row.keyVersion = 1)
      (fun _ _ => True) (fun _ _ => True) := by
    refine ⟨fun _ _ _ => trivial, ?_, ?_, fun _ _ _ _ _ => trivial, fun _ _ _ => trivial⟩
    · intro choice state thread moved later steady first _ advanced
      obtain ⟨effect, resume, reply, _, program, executed, _⟩ := advance_cases advanced
      have permitted := steady.ledger.disciplined.permitted program
      refine ⟨?_, trivial, trivial⟩
      cases execKey_step executed with
      | keep rows | abort _ rows | begin rows | retire _ _ _ _ _ rows | insert _ _ _ _ _ rows => rwa [rows]
      | first tenantKeyId wrappedDek _ rows =>
        rw [rows]
        intro row member
        rcases List.mem_append.mp member with earlier | new
        · exact first row earlier
        · rw [List.mem_singleton.mp new]
          rfl
      | commit => exact absurd (steady.ledger.began_rotates permitted.1) steady.steady
    · intro event state first
      refine ⟨?_, trivial⟩
      cases event <;> exact first
  exact (modular.run nonRotating_guarded (reached.along fun _ => nonRotating_run) ⟨nofun, nofun⟩).1

theorem committed_run (aes : AesGcm env) (reached : Reaches (gateways env) NoRotation (freshGateways clock) config) :
    Modular.Holds (CachesHold (Committed env)) (HitsHold (Committed env)) config := by
  have modular : Modular (gateways env) (NonRotating env) (CachesHold (Committed env)) KeysGrow
      (HitsHold (Committed env)) := by
    refine caches_modular (fun growth _ _ _ => Committed.grow growth) (fun _ _ steady => steady.ledger.disciplined) ?_
    intro state thread tenantKeyId keyVersion dek steady holds _
    exact holds.committed aes steady.ledger steady.steady
  refine modular.run nonRotating_guarded (reached.along fun _ => nonRotating_run) ⟨?_, nofun⟩
  intro process entry absent
  cases absent

def Sourced (config : KeyConfig) (row : TenantKeyRow) : Prop :=
  ∃ (index : Nat) (thread : KeyThread) (reply : Except Thrown Bool), config.threads[index]? = some thread ∧
    reply ≠ .ok false ∧ ⟨.insertFirst row.tenantId row.wrappedDek, reply⟩ ∈ thread.past

theorem Sourced.next {after : KeyConfig} {label : KeyLabel} {row : TenantKeyRow} (sourced : Sourced config row)
    (moved : (gateways env).next config label = some after) : Sourced after row := by
  obtain ⟨index, thread, reply, found, won, member⟩ := sourced
  obtain ⟨later, there, extended⟩ := next_extends moved found
  exact ⟨index, later, reply, there, won, extended.past.subset member⟩

theorem execKey_insertFirst {choice : KeyChoice} {before after : KeyState} {tenantKeyId : String}
    {wrappedDek : Buffer} {reply : Except Thrown Bool}
    (executed : execKey (.insertFirst tenantKeyId wrappedDek) choice before = some (reply, after)) :
    after.rows = before.rows ∨ after.rows = before.rows ++ [activeRow tenantKeyId 1 wrappedDek] ∧
    reply ≠ .ok false := by
  cases execKey_step executed with
  | keep rows | abort _ rows => exact .inl rows
  | first _ _ fits rows =>
    refine .inr ⟨rows, ?_⟩
    rintro rfl
    have responded := execKey_ok executed
    simp [respondKey, fits] at responded

theorem KeyStep.rows_cases {before after : KeyState} {effect : KeyEffect} (step : KeyStep before after effect) :
    after.rows = before.rows ∨ (∃ tenantKeyId wrappedDek, effect = .insertFirst tenantKeyId wrappedDek) ∨
      ∃ id, effect = .commit id := by
  cases step with
  | keep rows | abort _ rows | begin rows | retire _ _ _ _ _ rows | insert _ _ _ _ _ rows => exact .inl rows
  | first tenantKeyId wrappedDek => exact .inr (.inl ⟨tenantKeyId, wrappedDek, rfl⟩)
  | @commit id => exact .inr (.inr ⟨id, rfl⟩)

def EachSourced (config : KeyConfig) : Prop := ∀ row ∈ config.state.rows, Sourced config row

theorem rows_sourced (reached : Reaches (gateways env) NoRotation (freshGateways clock) config) :
    EachSourced config := by
  have initial : EachSourced (freshGateways clock) := fun _ absent => nomatch absent
  refine (reached.along fun _ => nonRotating_run).invariant initial ?_
  intro config label after sourced allowed moved
  have kept : after.state.rows = config.state.rows → EachSourced after := by
    intro same row member
    rw [same] at member
    exact (sourced row member).next moved
  rcases next_cases moved with ⟨call, _, rfl⟩ | ⟨place, choice, old, advanced, state, _, there, stepped, rfl⟩ |
    ⟨_, _, _, _, rfl⟩ | ⟨event, _, rfl⟩
  · exact kept rfl
  · obtain ⟨effect, resume, reply, _, program, executed, rfl⟩ := advance_cases stepped
    have steady := allowed.2 old (List.mem_of_getElem? there)
    have permitted := steady.ledger.disciplined.permitted program
    rcases (execKey_step executed).rows_cases with same | ⟨tenantKeyId, wrappedDek, rfl⟩ | ⟨id, rfl⟩
    · exact kept same
    · rcases execKey_insertFirst executed with same | ⟨added, won⟩
      · exact kept same
      intro row member
      rw [added] at member
      rcases List.mem_append.mp member with earlier | new
      · exact (sourced row earlier).next moved
      · rw [List.mem_singleton.mp new]
        have bound := (List.getElem?_eq_some_iff.mp there).1
        exact ⟨place, _, reply, List.getElem?_set_self bound, won, List.mem_append_right _ (List.mem_singleton_self _)⟩
    · exact absurd (steady.ledger.began_rotates permitted.1) steady.steady
  · exact kept rfl
  · refine kept ?_
    cases event <;> rfl

theorem obtains_committed (aes : AesGcm env) (reached : Reaches (gateways env) NoRotation (freshGateways clock) config)
    {thread : KeyThread} (member : thread ∈ config.threads) {dek : Buffer} (obtains : Obtains env thread dek) :
    ∃ tenantKeyId keyVersion, Committed env config.state.rows tenantKeyId keyVersion dek := by
  have steady := nonRotating_run reached thread member
  rcases obtains.cases steady.ledger with ⟨keyVersion, fetched⟩ | ⟨rotates, _⟩
  · cases fetched with
    | cached hit => exact ⟨_, _, (committed_run aes reached).2 thread member _ _ _ _ hit⟩
    | held holds => exact ⟨_, _, holds.committed aes steady.ledger steady.steady⟩
  · exact absurd rotates steady.steady

theorem Ledger.provisions_once {state : KeyState} {thread : KeyThread} (ledger : Ledger env state thread)
    {tenantKeyId tenantKeyId' : String} {wrappedDek wrappedDek' : Buffer} {reply reply' : Except Thrown Bool}
    (first : ⟨.insertFirst tenantKeyId wrappedDek, reply⟩ ∈ thread.past)
    (second : ⟨.insertFirst tenantKeyId' wrappedDek', reply'⟩ ∈ thread.past) :
    (⟨.insertFirst tenantKeyId wrappedDek, reply⟩ : KeyEvent) = ⟨.insertFirst tenantKeyId' wrappedDek', reply'⟩ := by
  obtain ⟨before, after, split, permitted⟩ := ledger.disciplined.1.of_mem first
  obtain ⟨before', after', split', permitted'⟩ := ledger.disciplined.1.of_mem second
  rcases List.append_eq_append_iff.mp (split.symm.trans split') with ⟨middle, longer, rest⟩ | ⟨middle, longer, rest⟩
  · cases middle with
    | nil => exact (List.cons.inj rest).1
    | cons event middle =>
      rw [longer, ← (List.cons.inj rest).1] at permitted'
      exact absurd rfl (permitted'.2.1 _ (List.mem_append_right _ (List.mem_cons_self ..)) _ _)
  · cases middle with
    | nil => exact (List.cons.inj rest).1.symm
    | cons event middle =>
      rw [longer, ← (List.cons.inj rest).1] at permitted
      exact absurd rfl (permitted.2.1 _ (List.mem_append_right _ (List.mem_cons_self ..)) _ _)

theorem loser_uncommitted (aes : AesGcm env) (reached : Reaches (gateways env) NoRotation (freshGateways clock) config)
    {thread : KeyThread} (member : thread ∈ config.threads) {tenantKeyId : String} {wrappedDek dek : Buffer}
    (lost : ⟨.insertFirst tenantKeyId wrappedDek, .ok false⟩ ∈ thread.past)
    (candidate : Candidate env thread.past wrappedDek dek) (tenantKeyId' : String) (keyVersion : Nat) :
    ¬ Committed env config.state.rows tenantKeyId' keyVersion dek := by
  rintro ⟨_, ⟨row, stored, _, _, rfl⟩, unwrapped⟩
  obtain ⟨index, winner, reply, found, won, inserted⟩ := rows_sourced reached row stored
  have steady := nonRotating_run reached winner (List.mem_of_getElem? found)
  obtain ⟨before, after, split, _, _, own, drawn⟩ := steady.ledger.disciplined.1.of_mem inserted
  have candidate' : Candidate env winner.past row.wrappedDek own := by
    rw [split]
    exact drawn.grow (List.subset_append_left ..)
  have same : own = dek := Except.ok.inj ((candidate'.unwraps aes steady.ledger).symm.trans unwrapped)
  obtain ⟨place, there⟩ := List.getElem?_of_mem member
  have together : place = index := draws_unique reached there found ⟨_, candidate.1⟩ ⟨_, same ▸ candidate'.1⟩
  rw [together, found] at there
  cases there
  have once := steady.ledger.provisions_once inserted lost
  cases once
  exact won rfl

end Runs

/-- Without rotations all calls resolve a tenant's DEK to the one in its row, and a DEK drawn by a call
    that lost the race is never resolved or cached. -/
theorem provisioning_agreement {env : CryptoEnv} (aes : AesGcm env) {clock : Nat} {config : KeyConfig}
    (reached : Reaches (gateways env) NoRotation (freshGateways clock) config) :
    (∀ thread ∈ config.threads, ∀ process tenantId resolved, thread.call = .getActiveDek process tenantId →
      thread.answered (.ok (.resolved resolved)) → resolved.keyVersion = 1 ∧
      Committed env config.state.rows (resolveTenantKeyId tenantId) 1 resolved.dek) ∧
    (∀ first ∈ config.threads, ∀ second ∈ config.threads, ∀ process tenantId process' tenantId' resolved resolved',
      first.call = .getActiveDek process tenantId → second.call = .getActiveDek process' tenantId' →
      resolveTenantKeyId tenantId = resolveTenantKeyId tenantId' →
      first.answered (.ok (.resolved resolved)) → second.answered (.ok (.resolved resolved')) →
      resolved = resolved') ∧
    ∀ thread ∈ config.threads, ∀ tenantKeyId wrappedDek dek,
      ⟨.insertFirst tenantKeyId wrappedDek, .ok false⟩ ∈ thread.past → Candidate env thread.past wrappedDek dek →
      (∀ other ∈ config.threads, ¬ Obtains env other dek) ∧
      ∀ process, ∀ entry ∈ (config.state.caches process).dekCache.store, entry.2 ≠ dek := by
  have row : ∀ thread ∈ config.threads, ∀ process tenantId resolved, thread.call = .getActiveDek process tenantId →
      thread.answered (.ok (.resolved resolved)) → resolved.keyVersion = 1 ∧
      Committed env config.state.rows (resolveTenantKeyId tenantId) 1 resolved.dek := by
    intro thread member process tenantId resolved call answered
    have steady := nonRotating_run reached thread member
    have ended := steady.ledger.disciplined.ended answered
    rw [call] at ended
    have committed : Committed env config.state.rows (resolveTenantKeyId tenantId) resolved.keyVersion
      resolved.dek := by
      cases Resolves.fetched ended with
      | cached hit => exact (committed_run aes reached).2 thread member _ _ _ _ hit
      | held holds => exact holds.committed aes steady.ledger steady.steady
    have first : resolved.keyVersion = 1 := by
      obtain ⟨_, ⟨row, stored, _, version, _⟩, _⟩ := committed
      rw [← version]
      exact first_keys_only reached row stored
    rw [first] at committed
    exact ⟨first, committed⟩
  refine ⟨row, ?_, ?_⟩
  · intro first member second member' process tenantId process' tenantId' resolved resolved' call call' same answered
      answered'
    obtain ⟨version, committed⟩ := row first member process tenantId resolved call answered
    obtain ⟨version', committed'⟩ := row second member' process' tenantId' resolved' call' answered'
    rw [← same] at committed'
    have deks := committed.unique (keysHold_run reached).valid committed'
    cases resolved
    cases resolved'
    simp only at version version' deks
    rw [version, version', deks]
  · intro thread member tenantKeyId wrappedDek dek lost candidate
    have absent := loser_uncommitted aes reached member lost candidate
    refine ⟨fun other member' obtains => ?_, fun process entry cached same => ?_⟩
    · obtain ⟨tenantKeyId', keyVersion, committed⟩ := obtains_committed aes reached member' obtains
      exact absent tenantKeyId' keyVersion committed
    · obtain ⟨tenantKeyId', keyVersion, _, committed⟩ := (committed_run aes reached).1 process entry cached
      rw [same] at committed
      exact absent tenantKeyId' keyVersion committed

/-- Two processes find no key, both draw one, and the second loses. -/
def provisioningRace : List KeyLabel :=
  [.call (.getActiveDek 0 none), .call (.getActiveDek 1 none)] ++ onThread 0 [{}, {}] ++
    onThread 1 [{}, {}, newDek 3, nonce 4] ++ onThread 0 [newDek 1, nonce 2, {}, {}, {}] ++
    onThread 1 [{}, {}, {}, {}, {}]

def allowsNoRotation (_ : KeyConfig) : KeyLabel → Bool
  | .call (.rotateTenantKey ..) => false
  | _ => true

theorem allowsNoRotation_sound (config : KeyConfig) (label : KeyLabel)
    (allowed : allowsNoRotation config label = true) :
    NoRotation config label := by
  rintro call rfl ⟨process, tenantId, rfl⟩
  cases allowed

theorem race_agrees : ∃ config, Reaches (gateways idealCipher) NoRotation (freshGateways 0) config ∧
    config.results = [(.getActiveDek 0 none, some (.ok (.resolved ⟨List.replicate dekLengthBytes 1, 1⟩))),
      (.getActiveDek 1 none, some (.ok (.resolved ⟨List.replicate dekLengthBytes 1, 1⟩)))] ∧
    Committed idealCipher config.state.rows defaultTenantKeyId 1 (List.replicate dekLengthBytes 1) := by
  have passed : ((gateways idealCipher).runChecked allowsNoRotation provisioningRace (freshGateways 0)).any
    (fun config =>
      config.results = [(.getActiveDek 0 none, some (.ok (.resolved ⟨List.replicate dekLengthBytes 1, 1⟩))),
        (.getActiveDek 1 none, some (.ok (.resolved ⟨List.replicate dekLengthBytes 1, 1⟩)))]) = true := by
    decide +kernel
  obtain ⟨config, reached, checked⟩ := Reaches.of_checks allowsNoRotation_sound passed
  have results := of_decide_eq_true checked
  have second : config.results[1]? =
      some (.getActiveDek 1 none, some (.ok (.resolved ⟨List.replicate dekLengthBytes 1, 1⟩))) := by rw [results]; rfl
  obtain ⟨thread, found, call, answered⟩ := Config.of_results second
  exact ⟨config, reached, results, ((provisioning_agreement idealCipher_aes reached).1 thread
    (List.mem_of_getElem? found) 1 none _ call answered).2⟩

end GatewayProof
