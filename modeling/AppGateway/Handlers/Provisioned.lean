import AppGateway.Handlers.AuditTrail

namespace GatewayProof

open Async GatewayModel
open Async.System (Reaches Modular)

def Provisioned (users : List UserRow) (row : UserRow) : Prop :=
  ∃ user ∈ users, UserRow.identity user = UserRow.identity row

/-- What a call has read of users is of provisioned ones, what it has decrypted was theirs, and the clock is not behind
    what it has read off it. -/
structure ReadsProvisioned (env : Env) (users : List UserRow) (clock : Nat) (past : List SessionEvent) : Prop where
  byId : ∀ id row, ReadUser past id row → row.id = id ∧ Provisioned users row
  byEmail : ∀ emailHash row, FoundUser past emailHash row → row.emailHash = emailHash ∧ Provisioned users row
  opened : ∀ encoded tenantId email, ⟨.decryptEmail encoded tenantId, .ok email⟩ ∈ past →
    env.decryptEmail encoded tenantId = some email
  now : ∀ now, ⟨.dateNow, .ok now⟩ ∈ past → now ≤ clock

section Reads

variable {env : Env} {users : List UserRow} {choice : Choice} {state after : GatewayState}

theorem find?_provisioned {holds : UserRow → Prop} [DecidablePred holds] {row : UserRow}
    (kept : state.users.map UserRow.identity = users.map UserRow.identity)
    (found : state.users.find? (fun user => decide (holds user)) = some row) : holds row ∧ Provisioned users row := by
  have own := @List.find?_some _ (fun user : UserRow => decide (holds user)) _ _ found
  exact ⟨of_decide_eq_true own, identity_kept kept (List.mem_of_find?_eq_some found)⟩

theorem exec_byId {id : String} {row : UserRow}
    (kept : state.users.map UserRow.identity = users.map UserRow.identity)
    (executed : exec env (.selectUserById id) choice state = some (.ok (some row), after)) :
    row.id = id ∧ Provisioned users row := by
  have responded := exec_ok executed
  simp only [respond, Option.some.injEq, Prod.mk.injEq, Except.ok.injEq] at responded
  exact @find?_provisioned _ _ (fun user => user.id = id) _ _ kept responded.1

theorem exec_byEmail {emailHash : String} {row : UserRow}
    (kept : state.users.map UserRow.identity = users.map UserRow.identity)
    (executed : exec env (.selectUserByEmailHash emailHash) choice state = some (.ok (some row), after)) :
    row.emailHash = emailHash ∧ Provisioned users row := by
  have responded := exec_ok executed
  simp only [respond, Option.some.injEq, Prod.mk.injEq, Except.ok.injEq] at responded
  exact @find?_provisioned _ _ (fun user => user.emailHash = emailHash) _ _ kept responded.1

theorem exec_decrypted {encoded email : String} {tenantId : Option String}
    (executed : exec env (.decryptEmail encoded tenantId) choice state = some (.ok email, after)) :
    env.decryptEmail encoded tenantId = some email := by
  have responded := exec_ok executed
  simp only [respond] at responded
  split at responded
  · rename_i decrypted known
    cases responded
    exact known
  · cases responded

theorem exec_dateNow {now : Nat} (executed : exec env .dateNow choice state = some (.ok now, after)) :
    now = after.clock := by
  have responded := exec_ok executed
  simp only [respond, Option.some.injEq, Prod.mk.injEq, Except.ok.injEq] at responded
  rw [← responded.1, responded.2]

end Reads

theorem readsProvisioned_modular (env : Env) (users : List UserRow) {Call Out : Type} (code : Call → Gateway Out) :
    Modular (processes env code) (fun _ _ => True)
      (fun state => state.users.map UserRow.identity = users.map UserRow.identity) Grows
      fun state thread => ReadsProvisioned env users state.clock thread.past where
  call := fun _ _ _ => ⟨nofun, nofun, nofun, nofun⟩
  step := by
    intro choice state thread moved later _ kept earlier advanced
    obtain ⟨effect, resume, reply, _, _, executed, rfl⟩ := System.advance_cases advanced
    have growth : Grows state later := (exec_tableStep executed).grows
    refine ⟨(exec_users executed).trans kept, growth, ?_, ?_, ?_, ?_⟩
    · intro id row awaited
      rcases List.mem_append.mp awaited with before | now
      · exact earlier.byId id row before
      · cases List.mem_singleton.mp now
        exact exec_byId kept executed
    · intro emailHash row awaited
      rcases List.mem_append.mp awaited with before | now
      · exact earlier.byEmail emailHash row before
      · cases List.mem_singleton.mp now
        exact exec_byEmail kept executed
    · intro encoded tenantId email awaited
      rcases List.mem_append.mp awaited with before | now
      · exact earlier.opened encoded tenantId email before
      · cases List.mem_singleton.mp now
        exact exec_decrypted executed
    · intro read awaited
      rcases List.mem_append.mp awaited with before | now
      · exact Nat.le_trans (earlier.now read before) growth.clock
      · cases List.mem_singleton.mp now
        exact Nat.le_of_eq (exec_dateNow executed)
  external := fun event state kept => ⟨(external_users event state).trans kept, external_grows event state⟩
  stable := fun _ _ _ growth own =>
    ⟨own.byId, own.byEmail, own.opened, fun now read => Nat.le_trans (own.now now read) growth.clock⟩
  crash := fun _ _ own => own

theorem reads_provisioned {env : Env} {Call Out : Type} {code : Call → Gateway Out}
    {allowed : GatewayConfig Call Out → GatewayLabel Call → Prop} {config : GatewayConfig Call Out} {clock : Nat}
    {users : List UserRow} (reached : Reaches (processes env code) allowed (freshGateway clock users) config)
    {thread : GatewayThread Call Out} (member : thread ∈ config.threads) :
    ReadsProvisioned env users config.state.clock thread.past :=
  ((readsProvisioned_modular env users code).run (fun _ _ _ _ _ _ _ _ => trivial) reached
    ⟨rfl, by simp [freshGateway]⟩).2 thread member

end GatewayProof
