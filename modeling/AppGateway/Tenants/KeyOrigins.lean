import AppGateway.Tenants.Agreement
import AppGateway.Tenants.Isolation

namespace GatewayProof

open Async GatewayModel
open Async.Program (Uses)
open Async.System (Modular Reaches Guarded Disciplined anyStep advance_cases)

/-! A call that inserts does so under one version -/

def InsertsNext (effect : KeyEffect) : Prop := ∀ tenantKeyId wrappedDek, effect ≠ .insertFirst tenantKeyId wrappedDek

theorem rotateIn_uses (env : CryptoEnv) (process : Nat) (tenantKeyId : String) (transaction : Nat) :
    (rotateIn env process tenantKeyId transaction).Uses InsertsNext := by
  have next : ∀ (keyVersion : Nat), (do
      let rawDek ← Keys.randomBytes dekLengthBytes
      let wrappedDek ← wrapDek env rawDek
      Keys.insertIn transaction tenantKeyId keyVersion wrappedDek
      Keys.dekSet process tenantKeyId keyVersion rawDek
      Keys.activeVersionSet process tenantKeyId keyVersion
      return { dek := rawDek, keyVersion } : Keys ResolvedDek).Uses InsertsNext := by
    intro keyVersion
    refine ⟨fun _ => nofun, fun drawn => ?_⟩
    rcases drawn with thrown | dek
    · trivial
    refine ⟨fun _ => nofun, fun nonce => ?_⟩
    rcases nonce with thrown | iv
    · trivial
    refine ⟨fun _ => nofun, fun inserted => ?_⟩
    rcases inserted with thrown | _
    · trivial
    refine ⟨fun _ => nofun, fun stored => ?_⟩
    rcases stored with thrown | _
    · trivial
    · exact ⟨fun _ => nofun, fun pointed => by cases pointed <;> trivial⟩
  refine ⟨fun _ => nofun, fun read => ?_⟩
  rcases read with thrown | active
  · trivial
  cases active with
  | none => exact next _
  | some keyVersion =>
    refine ⟨fun _ => nofun, fun clock => ?_⟩
    rcases clock with thrown | retiredAt
    · trivial
    refine ⟨fun _ => nofun, fun retired => ?_⟩
    rcases retired with thrown | _
    · trivial
    · exact next _

theorem rotateTenantKey_uses (env : CryptoEnv) (process : Nat) (tenantId : Option String) :
    (rotateTenantKey env process tenantId).Uses InsertsNext := by
  refine ⟨fun _ => nofun, fun began => ?_⟩
  rcases began with thrown | transaction
  · trivial
  refine Uses.handle ((rotateIn_uses env process _ transaction).bind fun _ => ?_) fun thrown => ?_
  · exact ⟨fun _ => nofun, fun committed => by cases committed <;> trivial⟩
  · exact ⟨fun _ => nofun, fun rolled => by cases rolled <;> trivial⟩

theorem rotations_obey (env : CryptoEnv) (call : KeyCall) :
    (call.code env).Obeys (fun _ effect => RotatesKey call → InsertsNext effect) (fun _ _ => True) [] := by
  by_cases rotates : RotatesKey call
  · obtain ⟨process, tenantId, rfl⟩ := rotates
    have uses : (KeyCall.code env (.rotateTenantKey process tenantId)).Uses InsertsNext :=
      (rotateTenantKey_uses env process tenantId).bind fun _ => trivial
    exact (uses.obeys fun _ _ allowed _ => allowed).weaken (fun _ _ permit => permit) fun _ _ _ => trivial
  · have uses : (call.code env).Uses fun _ => True :=
      (keyCall_obeys env call).uses fun _ _ _ => trivial
    exact (uses.obeys fun _ _ _ rotating => absurd rotating rotates).weaken (fun _ _ permit => permit)
      fun _ _ _ => trivial

inductive Assigned (thread : KeyThread) (keyVersion : Nat) : Prop where
  | first (steady : ¬ RotatesKey thread.call) (one : keyVersion = 1)
  | next (transaction : Nat) (active : Option Nat)
      (read : ⟨.selectActiveIn transaction thread.call.tenantKeyId, .ok active⟩ ∈ thread.past)
      (version : keyVersion = active.getD 0 + 1)

section Versions

variable {env : CryptoEnv} {state : KeyState} {thread : KeyThread} {keyVersion : Nat}

theorem Assigned.grow {later : KeyThread} (assigned : Assigned thread keyVersion) (extended : thread.Extends later) :
    Assigned later keyVersion := by
  cases assigned with
  | first steady one => exact .first (by rw [extended.call]; exact steady) one
  | next transaction active read version =>
    exact .next transaction active (by rw [extended.call]; exact extended.past.subset read) version

theorem Ledger.reads_second (ledger : Ledger env state thread) {id : Nat} {tenantKeyId : String} {active : Option Nat}
    (read : ⟨.selectActiveIn id tenantKeyId, .ok active⟩ ∈ thread.past) :
    Began thread.past id ∧ thread.past[1]? = some ⟨.selectActiveIn id tenantKeyId, .ok active⟩ := by
  obtain ⟨before, after, split, _, begun⟩ := ledger.disciplined.1.of_mem read
  rw [split, begun]
  exact ⟨rfl, rfl⟩

theorem Assigned.unique (ledger : Ledger env state thread) {other : Nat} (assigned : Assigned thread keyVersion)
    (assigned' : Assigned thread other) : keyVersion = other := by
  have rotates : ∀ {id active}, ⟨.selectActiveIn id thread.call.tenantKeyId, .ok active⟩ ∈ thread.past →
      RotatesKey thread.call := fun read => ledger.began_rotates (ledger.reads_second read).1
  cases assigned with
  | first steady one =>
    cases assigned' with
    | first _ one' => rw [one, one']
    | next _ _ read => exact absurd (rotates read) steady
  | next _ active read version =>
    cases assigned' with
    | first steady => exact absurd (rotates read) steady
    | next _ active' read' version' =>
      have same := (ledger.reads_second read).2.symm.trans (ledger.reads_second read').2
      cases same
      rw [version, version']

end Versions

def DrawnAs (config : KeyConfig) (tenantKeyId : String) (keyVersion : Nat) (bytes : Buffer) : Prop :=
  ∃ thread ∈ config.threads, thread.call.tenantKeyId = tenantKeyId ∧ Assigned thread keyVersion ∧ Draws thread bytes

def WrappedAs (env : CryptoEnv) (config : KeyConfig) (tenantKeyId : String) (keyVersion : Nat)
    (wrappedDek : Buffer) : Prop :=
  ∃ thread ∈ config.threads, thread.call.tenantKeyId = tenantKeyId ∧ Assigned thread keyVersion ∧
    ∃ dek, Candidate env thread.past wrappedDek dek

def Unwraps (env : CryptoEnv) : Prop := ∀ iv dek, iv.length = gcmIvLength →
  unwrapDek env (sealed env env.tenantKekKey iv dek) = .ok dek

section Runs

variable {env : CryptoEnv} {allowed : KeyConfig → KeyLabel → Prop} {clock : Nat} {config final : KeyConfig}

theorem drawnAs_unique (reached : Reaches (gateways env) allowed (freshGateways clock) config)
    {tenantKeyId other : String} {keyVersion version : Nat} {bytes : Buffer}
    (drawn : DrawnAs config tenantKeyId keyVersion bytes) (drawn' : DrawnAs config other version bytes) :
    tenantKeyId = other ∧ keyVersion = version := by
  obtain ⟨first, member, rfl, assigned, draws⟩ := drawn
  obtain ⟨second, member', rfl, assigned', draws'⟩ := drawn'
  obtain ⟨index, here⟩ := List.getElem?_of_mem member
  obtain ⟨place, there⟩ := List.getElem?_of_mem member'
  have same := draws_unique reached here there draws draws'
  rw [same, there] at here
  cases here
  exact ⟨rfl, assigned.unique ((keysHold_run reached).each place _ there) assigned'⟩

structure Onward (env : CryptoEnv) (final : KeyConfig) (state : KeyState) (thread : KeyThread) : Prop where
  ledger : Ledger env state thread
  later : ∃ last ∈ final.threads, thread.Extends last
  grows : KeysGrow state final.state
  rotating : Disciplined (fun call _ effect => RotatesKey call → InsertsNext effect) (fun _ _ _ => True) thread

theorem onward_run (reached : Reaches (gateways env) allowed (freshGateways clock) config)
    (onward : Reaches (gateways env) allowed config final) {thread : KeyThread} (member : thread ∈ config.threads) :
    Onward env final config.state thread := by
  obtain ⟨index, found⟩ := List.getElem?_of_mem member
  obtain ⟨last, there, extended⟩ := onward.extends found
  exact ⟨(keysHold_run reached).each index thread found, ⟨last, List.mem_of_getElem? there, extended⟩,
    keysGrow_run onward, reached.disciplined (rotations_obey env) rfl thread member⟩

theorem Onward.wraps {state : KeyState} {thread : KeyThread} (known : Onward env final state thread)
    {effect : KeyEffect} (pending : thread.program.pending = some effect) {tenantKeyId : String} {keyVersion : Nat}
    {wrappedDek : Buffer} (inserts : KeyEffect.inserts effect = some (tenantKeyId, keyVersion, wrappedDek)) :
    WrappedAs env final tenantKeyId keyVersion wrappedDek := by
  obtain ⟨last, member, extended⟩ := known.later
  have permitted : KeyPermits env thread.call thread.past effect ∧ (RotatesKey thread.call → InsertsNext effect) := by
    cases program : thread.program with
    | done outcome =>
      rw [program] at pending
      cases pending
    | await op resume =>
      rw [program] at pending
      cases pending
      exact ⟨known.ledger.disciplined.permitted program, known.rotating.permitted program⟩
  obtain ⟨permitted, rotating⟩ := permitted
  have found : tenantKeyId = thread.call.tenantKeyId ∧ Assigned thread keyVersion ∧
      ∃ dek, Candidate env thread.past wrappedDek dek := by
    cases effect with
    | insertFirst owner wrapped =>
      cases inserts
      obtain ⟨own, _, candidate⟩ := permitted
      refine ⟨own, .first (fun rotates => ?_) rfl, candidate⟩
      exact rotating rotates _ _ rfl
    | insertIn id owner version wrapped =>
      cases inserts
      obtain ⟨own, _, candidate, active, read, next⟩ := permitted
      rw [own] at read
      exact ⟨own, .next id active read next, candidate⟩
    | _ => cases inserts
  obtain ⟨own, assigned, dek, candidate⟩ := found
  exact ⟨last, member, (congrArg KeyCall.tenantKeyId extended.call).trans own.symm, assigned.grow extended, dek,
    candidate.grow extended.past.subset⟩

theorem WrappedAs.drawn (unwraps : Unwraps env)
    (reached : Reaches (gateways env) allowed (freshGateways clock) config) {tenantKeyId : String} {keyVersion : Nat}
    {wrappedDek dek : Buffer} (wrapped : WrappedAs env config tenantKeyId keyVersion wrappedDek)
    (unwrapped : unwrapDek env wrappedDek = .ok dek) : DrawnAs config tenantKeyId keyVersion dek := by
  obtain ⟨thread, member, own, assigned, raw, drawn, iv, nonce, rfl⟩ := wrapped
  obtain ⟨index, found⟩ := List.getElem?_of_mem member
  have length : iv.length = gcmIvLength := ((keysHold_run reached).each index thread found).told _ nonce
  rw [unwraps iv raw length] at unwrapped
  cases unwrapped
  exact ⟨thread, member, own, assigned, _, drawn⟩

theorem Onward.guarded (reached : Reaches (gateways env) allowed (freshGateways clock) final) :
    Reaches (gateways env) (Guarded (Onward env final)) (freshGateways clock) final := by
  have along : Reaches (gateways env) (fun config label =>
      (allowed config label ∧ Reaches (gateways env) allowed config final) ∧
        Reaches (gateways env) allowed (freshGateways clock) config) (freshGateways clock) final :=
    reached.toward.along fun config since => since.weaken fun _ _ taken => taken.1
  refine along.weaken ?_
  rintro config label ⟨⟨_, onward⟩, since⟩ index choice thread _ found
  exact onward_run since onward (List.mem_of_getElem? found)

/-- At the end of a run every row, in the table or in an open transaction, wraps a DEK drawn for it. -/
theorem rows_wrapped (reached : Reaches (gateways env) allowed (freshGateways clock) final) :
    RowsRight (WrappedAs env final) final.state := by
  have modular : Modular (gateways env) (Onward env final) (RowsRight (WrappedAs env final)) (fun _ _ => True)
      fun _ _ => True := by
    refine rowsRight_modular env ?_
    intro state thread effect tenantKeyId keyVersion wrappedDek known pending inserts
    exact known.wraps pending inserts
  exact (modular.run (fun _ _ guard => guard) (Onward.guarded reached) ⟨⟨nofun, nofun⟩, fun _ _ => trivial⟩).1

theorem Holds.drawnAs (unwraps : Unwraps env) (reached : Reaches (gateways env) allowed (freshGateways clock) final)
    {state : KeyState} {thread : KeyThread} (known : Onward env final state thread) {keyVersion : Nat} {dek : Buffer}
    (holds : Holds env thread.past thread.call.tenantKeyId keyVersion dek) :
    DrawnAs final thread.call.tenantKeyId keyVersion dek := by
  obtain ⟨last, member, extended⟩ := known.later
  have own : last.call.tenantKeyId = thread.call.tenantKeyId := congrArg KeyCall.tenantKeyId extended.call
  cases holds with
  | stored wrappedDek read unwrapped =>
    obtain ⟨row, present, tenant, version, same⟩ := known.grows _ _ _ (read.persisted known.ledger)
    have wrapped := (rows_wrapped reached).stored row present
    rw [tenant, version, same] at wrapped
    exact wrapped.drawn unwraps reached unwrapped
  | provisioned wrappedDek candidate first inserted =>
    obtain ⟨_, _, _, rotating⟩ := known.rotating.1.of_mem inserted
    have assigned : Assigned thread keyVersion := .first (fun rotates => rotating rotates _ _ rfl) first
    exact ⟨last, member, own, assigned.grow extended, _, extended.past.subset candidate.1⟩
  | rotated wrappedDek id candidate inserted =>
    obtain ⟨_, _, split, _, _, _, active, read, next⟩ := known.ledger.disciplined.1.of_mem inserted
    have earlier : ⟨.selectActiveIn id thread.call.tenantKeyId, .ok active⟩ ∈ thread.past := by
      rw [split]
      exact List.mem_append_left _ read
    have assigned : Assigned thread keyVersion := .next id active earlier next
    exact ⟨last, member, own, assigned.grow extended, _, extended.past.subset candidate.1⟩

theorem Fetched.drawnAs (unwraps : Unwraps env) (reached : Reaches (gateways env) allowed (freshGateways clock) final)
    {thread : KeyThread} (member : thread ∈ final.threads) {process keyVersion : Nat} {dek : Buffer}
    (fetched : Fetched env process thread.past thread.call.tenantKeyId keyVersion dek) :
    DrawnAs final thread.call.tenantKeyId keyVersion dek := by
  cases fetched with
  | cached hit =>
    have modular : Modular (gateways env) (Onward env final) (CachesHold fun _ => DrawnAs final) KeysGrow
        (HitsHold fun _ => DrawnAs final) := by
      refine caches_modular (fun _ _ _ _ drawn => drawn) (fun _ _ known => known.ledger.disciplined) ?_
      rintro state thread tenantKeyId keyVersion dek known holds rfl
      exact holds.drawnAs unwraps reached known
    have empty : CachesHold (fun _ => DrawnAs final) (freshGateways clock).state := by
      intro process entry absent
      cases absent
    exact (modular.run (fun _ _ guard => guard) (Onward.guarded reached) ⟨empty, nofun⟩).2 thread member _ _ _ _ hit
  | held holds => exact holds.drawnAs unwraps reached (onward_run reached .refl member)

end Runs

end GatewayProof
