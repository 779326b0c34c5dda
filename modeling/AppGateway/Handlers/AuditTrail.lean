import AppGateway.Async.Journal
import AppGateway.Handlers.AuditRules
import AppGateway.Handlers.Provenance

namespace GatewayProof

open Async GatewayModel
open Async.System (Reaches Journal Accounts Disciplined)

theorem respond_auditLog {env : Env} {choice : Choice} {before after : GatewayState} {effect : Effect}
    {reply : Except Thrown effect.Reply} (responded : respond env choice before effect = some (reply, after)) :
    after.auditLog = before.auditLog ++ (auditEntryOf effect).toList := by
  cases effect with
  | insertAuditLog entry =>
    cases responded
    rfl
  | selectLatestActiveByUser userId =>
    simp only [respond] at responded
    split at responded
    · cases responded
      exact (List.append_nil _).symm
    · obtain ⟨row, _, same⟩ := Option.map_eq_some_iff.mp responded
      cases same
      exact (List.append_nil _).symm
  | insertRefreshToken values =>
    simp only [respond, GatewayState.insert] at responded
    split_ifs at responded <;> cases responded <;> exact (List.append_nil _).symm
  | decryptEmail encoded tenantId =>
    simp only [respond] at responded
    split at responded <;> cases responded <;> exact (List.append_nil _).symm
  | sleepUntil wakeAt =>
    simp only [respond] at responded
    split_ifs at responded
    cases responded
    exact (List.append_nil _).symm
  | randomString =>
    simp only [respond] at responded
    split_ifs at responded
    cases responded
    exact (List.append_nil _).symm
  | _ =>
    cases responded
    exact (List.append_nil _).symm

theorem auditLog_journal (env : Env) {Call Out : Type} (code : Call → Gateway Out) :
    Journal (processes env code) GatewayState.auditLog auditEntryOf where
  appends := by
    intro effect choice state reply after executed
    have executed : exec env effect choice state = some (reply, after) := executed
    unfold exec at executed
    split at executed
    · exact .inl (respond_auditLog executed)
    · split at executed <;> cases executed
      exact .inr ⟨rfl, _, rfl⟩
    · split at executed
      · cases executed
      · obtain ⟨⟨answer, later⟩, responded, same⟩ := Option.map_eq_some_iff.mp executed
        cases same
        exact .inl (respond_auditLog responded)
  external := by
    intro event state
    cases event <;> rfl

section Trail

variable {env : Env} {allowed : HandlerConfig → HandlerLabel → Prop} {config : HandlerConfig}

theorem audit_disciplined (reachable : HandlersReachable env allowed config) :
    ∀ thread ∈ config.threads, Disciplined (HandlerCall.AuditPermits env) HandlerCall.AuditEnds thread := by
  obtain ⟨clock, users, reached⟩ := reachable
  exact System.Reaches.disciplined (HandlerCall.code_audits env) reached rfl

theorem audit_accounts (reachable : HandlersReachable env allowed config) :
    Accounts GatewayState.auditLog auditEntryOf config := by
  obtain ⟨clock, users, reached⟩ := reachable
  exact (auditLog_journal env (HandlerCall.code env)).accounts reached rfl rfl

theorem mem_audits {past : List SessionEvent} {entry : AuditLogEntry} (sent : entry ∈ audits past) :
    ∃ reply, ⟨.insertAuditLog entry, reply⟩ ∈ past := by
  obtain ⟨⟨op, reply⟩, member, same⟩ := List.mem_filterMap.mp sent
  cases op with
  | insertAuditLog other =>
    cases same
    exact ⟨reply, member⟩
  | _ => cases same

theorem HandlerCall.Backs.grow {call : HandlerCall} {past whole : List SessionEvent} {entry : AuditLogEntry}
    (backs : call.Backs env past entry) (grown : past ⊆ whole) (sent : ∀ values, Sent whole values → Sent past values) :
    call.Backs env whole entry := by
  cases call with
  | login client email password =>
    cases backs with
    | success found active stored verified inserted owner =>
      exact .success (grown found) active stored verified (grown inserted) owner
    | refused unsent known =>
      refine .refused (fun values earlier => unsent values (sent values earlier)) fun id same => ?_
      obtain ⟨row, hash, found, rest⟩ := known id same
      exact ⟨row, hash, grown found, rest⟩
  | refresh client refreshToken idempotencyKey =>
    cases backs with
    | rotated selected active consumed inserted family owner read =>
      exact .rotated (grown selected) active (consumed.grow grown) (grown inserted) family owner (grown read)
    | reused selected revoked => exact .reused (grown selected) revoked
    | refused unsent => exact .refused fun values earlier => unsent values (sent values earlier)
  | logout bearer refreshToken => exact backs

theorem audits_single {call : HandlerCall} {past : List SessionEvent} {entry : AuditLogEntry}
    (lawful : Lawful (call.AuditPermits env) past) (sent : entry ∈ audits past) :
    audits past = [entry] ∧ call.Backs env past entry := by
  obtain ⟨reply, member⟩ := mem_audits sent
  obtain ⟨before, after, rfl, silent, backs⟩ := lawful.of_mem member
  have later : ∀ event ∈ after, auditEntryOf event.op = none ∧ ∀ values, event.op ≠ .insertRefreshToken values := by
    rintro ⟨op, answer⟩ follows
    obtain ⟨middle, rest, rfl⟩ := List.append_of_mem follows
    have permit := lawful (before ++ ⟨.insertAuditLog entry, reply⟩ :: middle) ⟨op, answer⟩ rest (by simp)
    have written : audits (before ++ ⟨.insertAuditLog entry, reply⟩ :: middle) ≠ [] := by
      rw [audits_append]
      simp [auditEntryOf]
    cases op with
    | insertAuditLog other => exact absurd permit.1 written
    | insertRefreshToken values => exact absurd permit written
    | _ => exact ⟨rfl, fun _ same => by cases same⟩
  constructor
  · have rest : audits after = [] := List.filterMap_eq_nil_iff.mpr fun event member => (later event member).1
    rw [audits_append, silent]
    show entry :: audits after = [entry]
    rw [rest]
  · apply backs.grow (List.subset_append_left _ _)
    intro values sent
    apply sent_append _ sent
    intro event follows
    rcases List.mem_cons.mp follows with rfl | follows
    · intro made same
      cases same
    · exact (later event follows).2

theorem Backs.session {call : HandlerCall} {past : List SessionEvent} {entry : AuditLogEntry}
    (backs : call.Backs env past entry) (knows : Knows config.state past)
    (issued : entry.event_type = "auth.login" ∨ entry.event_type = "auth.token_refresh") :
    ∃ values, Inserted past values ∧ entry.user_id = some values.userId := by
  cases call with
  | login client email password =>
    cases backs with
    | success found active stored verified inserted owner => exact ⟨_, inserted, by simp [loginAudit, owner]⟩
    | refused => simp [loginAudit] at issued
  | refresh client refreshToken idempotencyKey =>
    cases backs with
    | rotated selected active consumed inserted family owner read =>
      exact ⟨_, inserted, by simp [refreshAudit, knows.user _ _ read, owner]⟩
    | reused => simp [reuseAudit] at issued
    | refused => simp [refusedAudit] at issued
  | logout bearer refreshToken =>
    cases backs with
    | loggedOut => simp [logoutAudit] at issued

/-- The audit log never lies. Each entry was written by a call that wrote no other and has seen and done what it says;
    for a login or a refresh, the refresh token that the call has inserted for the entry's user is in the table. -/
theorem audit_log_truthful (reachable : HandlersReachable env allowed config) {entry : AuditLogEntry}
    (logged : entry ∈ config.state.auditLog) :
    ∃ thread ∈ config.threads, audits thread.past = [entry] ∧ thread.call.Backs env thread.past entry ∧
      (entry.event_type = "auth.login" ∨ entry.event_type = "auth.token_refresh" →
        ∃ row ∈ config.state.refreshTokens, entry.user_id = some row.userId ∧
          ∃ values, Inserted thread.past values ∧ row.tokenHash = values.tokenHash ∧
            row.sessionFamily = values.sessionFamily) := by
  obtain ⟨thread, member, sent⟩ := (audit_accounts reachable).mem logged
  obtain ⟨single, backs⟩ := audits_single (audit_disciplined reachable thread member).1 sent
  have knows : Knows config.state thread.past := ((handlers_valid reachable).2 thread member).2
  refine ⟨thread, member, single, backs, fun issued => ?_⟩
  obtain ⟨values, inserted, owner⟩ := Backs.session backs knows issued
  obtain ⟨id, issuedAt, row, stored, later⟩ := knows.inserted values inserted
  exact ⟨row, stored, by rw [owner, later.userId]; rfl, values, inserted, later.tokenHash, later.sessionFamily⟩

/-- The audit log is complete. When none of its INSERTs has failed, it holds the entries of the calls, each as often as
    it was written, and nothing else; and a call that has answered has written the entry that goes with its answer. -/
theorem audit_log_complete (reachable : HandlersReachable env allowed config)
    (written : ∀ thread ∈ config.threads, ∀ entry thrown, ⟨.insertAuditLog entry, .error thrown⟩ ∉ thread.past) :
    config.state.auditLog.Perm (config.threads.flatMap fun thread => audits thread.past) ∧
    ∀ thread ∈ config.threads, ∀ outcome, thread.answered outcome → thread.call.AuditEnds thread.past outcome := by
  constructor
  · apply (audit_accounts reachable).perm
    intro thread member
    apply List.filterMap_congr
    rintro ⟨op, reply⟩ event
    cases reply with
    | ok value => rfl
    | error thrown =>
      cases op with
      | insertAuditLog entry => exact absurd event (written thread member entry thrown)
      | _ => rfl
  · intro thread member outcome answered
    exact (audit_disciplined reachable thread member).ended answered

end Trail

def recordsRefresh (config : HandlerConfig) : Bool :=
  config.state.auditLog.any fun entry => entry.event_type = "auth.token_refresh"

theorem audit_log_truthful_refreshed : ∃ config entry, HandlersReachable sampleEnv System.anyStep config ∧
    entry ∈ config.state.auditLog ∧ ∃ row ∈ config.state.refreshTokens, entry.user_id = some row.userId := by
  have passed : ((handlers sampleEnv).run retriedRefresh
      (freshGateway 0 [sampleUser "u" "u@example.com"])).any recordsRefresh = true := by decide +kernel
  obtain ⟨config, reached, checked⟩ := Reaches.of_check passed
  obtain ⟨entry, logged, event⟩ := List.any_eq_true.mp checked
  have reachable : HandlersReachable sampleEnv System.anyStep config := ⟨_, _, reached⟩
  obtain ⟨_, _, _, _, session⟩ := audit_log_truthful reachable logged
  obtain ⟨row, stored, owner, _⟩ := session (.inr (of_decide_eq_true event))
  exact ⟨config, entry, reachable, logged, row, stored, owner⟩

def auditsWritten (past : List SessionEvent) : Bool :=
  past.all fun event =>
    match event with
    | ⟨.insertAuditLog _, .error _⟩ => false
    | _ => true

theorem auditsWritten_spec {past : List SessionEvent} (written : auditsWritten past = true) (entry : AuditLogEntry)
    (thrown : Thrown) : ⟨.insertAuditLog entry, .error thrown⟩ ∉ past := by
  intro member
  have own := List.all_eq_true.mp written _ member
  cases own

theorem audit_log_complete_retried : ∃ config, HandlersReachable sampleEnv System.anyStep config ∧
    config.state.auditLog.length = 2 ∧
    config.state.auditLog.Perm (config.threads.flatMap fun thread => audits thread.past) := by
  have passed : ((handlers sampleEnv).run retriedRefresh (freshGateway 0 [sampleUser "u" "u@example.com"])).any
      (fun config => config.threads.all (auditsWritten ·.past) && config.state.auditLog.length = 2) = true := by
    decide +kernel
  obtain ⟨config, reached, checked⟩ := Reaches.of_check passed
  obtain ⟨written, two⟩ := Bool.and_eq_true_iff.mp checked
  have reachable : HandlersReachable sampleEnv System.anyStep config := ⟨_, _, reached⟩
  exact ⟨config, reachable, of_decide_eq_true two,
    (audit_log_complete reachable fun thread member =>
      auditsWritten_spec (List.all_eq_true.mp written thread member)).1⟩

/-! What no run takes back -/

def UserRow.identity (user : UserRow) : UserRow := { user with isActive := true, updatedAt := 0, lastLoginAt := none }

theorem map_identity {users : List UserRow} {change : UserRow → UserRow}
    (same : ∀ user, UserRow.identity (change user) = UserRow.identity user) :
    (users.map change).map UserRow.identity = users.map UserRow.identity := by
  rw [List.map_map]
  exact List.map_congr_left fun user _ => same user

theorem identity_kept {users provisioned : List UserRow} {row : UserRow}
    (kept : users.map UserRow.identity = provisioned.map UserRow.identity) (stored : row ∈ users) :
    ∃ user ∈ provisioned, UserRow.identity user = UserRow.identity row := by
  have inside : UserRow.identity row ∈ provisioned.map UserRow.identity := kept ▸ List.mem_map_of_mem stored
  obtain ⟨user, there, same⟩ := List.mem_map.mp inside
  exact ⟨user, there, same⟩

theorem respond_users {env : Env} {choice : Choice} {before after : GatewayState} {effect : Effect}
    {reply : Except Thrown effect.Reply} (responded : respond env choice before effect = some (reply, after)) :
    after.users.map UserRow.identity = before.users.map UserRow.identity := by
  cases effect with
  | updateLastLogin id lastLoginAt updatedAt =>
    cases responded
    apply map_identity
    intro user
    split <;> rfl
  | selectLatestActiveByUser userId =>
    simp only [respond] at responded
    split at responded
    · cases responded
      rfl
    · obtain ⟨row, _, same⟩ := Option.map_eq_some_iff.mp responded
      cases same
      rfl
  | insertRefreshToken values =>
    simp only [respond, GatewayState.insert] at responded
    split_ifs at responded <;> cases responded <;> rfl
  | decryptEmail encoded tenantId =>
    simp only [respond] at responded
    split at responded <;> cases responded <;> rfl
  | sleepUntil wakeAt =>
    simp only [respond] at responded
    split_ifs at responded
    cases responded
    rfl
  | randomString =>
    simp only [respond] at responded
    split_ifs at responded
    cases responded
    rfl
  | _ =>
    cases responded
    rfl

theorem exec_users {env : Env} {choice : Choice} {before after : GatewayState} {effect : Effect}
    {reply : Except Thrown effect.Reply} (executed : exec env effect choice before = some (reply, after)) :
    after.users.map UserRow.identity = before.users.map UserRow.identity := by
  unfold exec at executed
  split at executed
  · exact respond_users executed
  · split at executed <;> cases executed
    rfl
  · split at executed
    · cases executed
    · obtain ⟨⟨answer, later⟩, responded, same⟩ := Option.map_eq_some_iff.mp executed
      cases same
      exact respond_users responded

def Observing : Effect → Prop
  | .selectRefreshTokenByHash _ | .selectActiveByFamily _ | .selectLatestActiveByUser _ |
    .selectUserByEmailHash _ => True
  | .selectUserById _ | .decryptEmail .. | .redisGet _ | .loadSigningKeys | .dateNow => True
  | _ => False

theorem respond_observing {env : Env} {choice : Choice} {state after : GatewayState} {effect : Effect}
    {reply : Except Thrown effect.Reply} (observing : Observing effect)
    (responded : respond env choice state effect = some (reply, after)) : after = state := by
  cases effect with
  | selectLatestActiveByUser userId =>
    simp only [respond] at responded
    split at responded
    · cases responded
      rfl
    · obtain ⟨row, _, same⟩ := Option.map_eq_some_iff.mp responded
      cases same
      rfl
  | decryptEmail encoded tenantId =>
    simp only [respond] at responded
    split at responded <;> cases responded <;> rfl
  | selectRefreshTokenByHash | selectActiveByFamily | selectUserByEmailHash | selectUserById | redisGet |
    loadSigningKeys
  | dateNow =>
    cases responded
    rfl
  | _ => exact observing.elim

theorem exec_observing {env : Env} {choice : Choice} {state after : GatewayState} {effect : Effect}
    {reply : Except Thrown effect.Reply} (observing : Observing effect)
    (executed : exec env effect choice state = some (reply, after)) : after = state := by
  unfold exec at executed
  split at executed
  · exact respond_observing observing executed
  · split at executed <;> cases executed
    rfl
  · split at executed
    · cases executed
    · obtain ⟨⟨answer, later⟩, responded, same⟩ := Option.map_eq_some_iff.mp executed
      cases same
      exact respond_observing observing responded

theorem external_users (event : External) (state : GatewayState) :
    (external event state).users.map UserRow.identity = state.users.map UserRow.identity := by
  cases event with
  | elapse ms => rfl
  | setActive userId isActive =>
    apply map_identity
    intro user
    split <;> rfl

end GatewayProof
