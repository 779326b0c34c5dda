import AppGateway.Async.Detachment
import AppGateway.Handlers.Provisioned

namespace GatewayProof

open Async GatewayModel
open Async.System (Detached Apart)

variable {env : Env} {users : List UserRow}

def GuessAllows : Effect → Prop
  | .selectUserByEmailHash _ | .decryptEmail .. => True
  | .insertAuditLog entry => entry.event_type = "auth.login_failed"
  | _ => False

/-- The states differ in entries of the audit log about failed logins at most. -/
structure AgreeButLog (first second : GatewayState) : Prop where
  same : second = { first with auditLog := second.auditLog }
  log : first.auditLog.filter (·.event_type ≠ "auth.login_failed") =
    second.auditLog.filter (·.event_type ≠ "auth.login_failed")

theorem respond_log (choice : Choice) (state : GatewayState) (effect : Effect) (log : List AuditLogEntry) :
    respond env choice { state with auditLog := log } effect = (respond env choice state effect).map fun answer =>
      (answer.1, { answer.2 with auditLog := log ++ (auditEntryOf effect).toList }) := by
  have nothing : log ++ [] = log := List.append_nil log
  cases effect with
  | selectLatestActiveByUser userId =>
    simp only [respond, auditEntryOf, Option.toList_none, nothing]
    split
    · rfl
    · rw [Option.map_map]
      rfl
  | insertRefreshToken values =>
    simp only [respond, GatewayState.insert, auditEntryOf, Option.toList_none, nothing]
    split_ifs <;> rfl
  | decryptEmail encoded tenantId =>
    simp only [respond, auditEntryOf, Option.toList_none, nothing]
    split <;> rfl
  | sleepUntil wakeAt =>
    simp only [respond, auditEntryOf, Option.toList_none, nothing]
    split_ifs <;> rfl
  | randomString =>
    simp only [respond, auditEntryOf, Option.toList_none, nothing]
    split_ifs <;> rfl
  | insertAuditLog entry => rfl
  | _ => simp only [respond, auditEntryOf, Option.toList_none, nothing, GatewayState.updateRevoked,
      GatewayState.expiry, Option.map_some]

theorem AgreeButLog.respond {choice : Choice} {first second after : GatewayState} {effect : Effect}
    {reply : Except Thrown effect.Reply} (agree : AgreeButLog first second)
    (responded : respond env choice first effect = some (reply, after)) :
    ∃ after', respond env choice second effect = some (reply, after') ∧ AgreeButLog after after' := by
  have written := respond_auditLog responded
  rw [agree.same, respond_log, responded]
  refine ⟨_, rfl, rfl, ?_⟩
  simp only [written, List.filter_append, agree.log]

theorem AgreeButLog.exec {choice : Choice} {first second after : GatewayState} {effect : Effect}
    {reply : Except Thrown effect.Reply} (agree : AgreeButLog first second)
    (executed : exec env effect choice first = some (reply, after)) :
    ∃ after', exec env effect choice second = some (reply, after') ∧ AgreeButLog after after' := by
  unfold GatewayModel.exec at executed ⊢
  split at executed
  · exact agree.respond executed
  · split at executed
    · cases executed
    · cases executed
      exact ⟨second, if_neg ‹_›, agree⟩
  · split at executed
    · cases executed
    · obtain ⟨⟨answer, later⟩, responded, same⟩ := Option.map_eq_some_iff.mp executed
      cases same
      obtain ⟨after', responded', agree'⟩ := agree.respond responded
      exact ⟨after', (if_neg ‹_›).trans (congrArg (Option.map _) responded'), agree'⟩

theorem GuessAllows.exec {choice : Choice} {state second after : GatewayState} {effect : Effect}
    {reply : Except Thrown effect.Reply} (allowed : GuessAllows effect) (agree : AgreeButLog state second)
    (executed : GatewayModel.exec env effect choice state = some (reply, after)) : AgreeButLog after second := by
  cases effect with
  | selectUserByEmailHash | decryptEmail =>
    rw [exec_observing (by trivial) executed]
    exact agree
  | insertAuditLog entry =>
    have failed : entry.event_type = "auth.login_failed" := allowed
    have written : AgreeButLog { state with auditLog := state.auditLog ++ [entry] } second :=
      ⟨agree.same, by rw [List.filter_append, List.filter_cons_of_neg (by simp [failed]), List.filter_nil,
        List.append_nil, agree.log]⟩
    unfold GatewayModel.exec at executed
    split at executed
    · cases executed
      exact written
    · split at executed <;> cases executed
      exact agree
    · split at executed <;> cases executed
      exact written
  | _ => exact allowed.elim

end GatewayProof
