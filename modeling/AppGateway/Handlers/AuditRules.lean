import AppGateway.Handlers.Calls
import AppGateway.Handlers.LogoutAtomicity

namespace GatewayProof

open Async GatewayModel
open Async.Program (Obeys obeys_grow)

def auditEntryOf : Effect → Option AuditLogEntry
  | .insertAuditLog entry => some entry
  | _ => none

abbrev audits (past : List SessionEvent) : List AuditLogEntry := past.filterMap fun event => auditEntryOf event.op

def Unrecorded : Effect → Prop
  | .insertAuditLog _ | .insertRefreshToken _ => False
  | _ => True

def Unchanged (past whole : List SessionEvent) : Prop :=
  past ⊆ whole ∧ audits whole = audits past ∧ ∀ values, Sent whole values → Sent past values

theorem Unchanged.trans {first second third : List SessionEvent} (before : Unchanged first second)
    (after : Unchanged second third) : Unchanged first third :=
  ⟨fun _ member => after.1 (before.1 member), after.2.1.trans before.2.1,
    fun values sent => before.2.2 values (after.2.2 values sent)⟩

theorem audits_append (past events : List SessionEvent) : audits (past ++ events) = audits past ++ audits events :=
  List.filterMap_append

theorem audits_unrecorded {events : List SessionEvent} (unrecorded : ∀ event ∈ events, Unrecorded event.op) :
    audits events = [] := by
  rw [List.filterMap_eq_nil_iff]
  rintro ⟨op, reply⟩ member
  have own : Unrecorded op := unrecorded _ member
  cases op <;> first | rfl | exact own.elim

theorem unchanged_append {past events : List SessionEvent} (unrecorded : ∀ event ∈ events, Unrecorded event.op) :
    Unchanged past (past ++ events) := by
  refine ⟨List.subset_append_left _ _, ?_, fun values sent => sent_append ?_ sent⟩
  · rw [audits_append, audits_unrecorded unrecorded, List.append_nil]
  · rintro ⟨op, reply⟩ member values rfl
    exact unrecorded _ member

def refreshAudit (userId : String) : AuditLogEntry :=
  { event_type := "auth.token_refresh", user_id := some userId, resource := some "/v1/auth/refresh",
    outcome := .success }

def refusedAudit (code : String) : AuditLogEntry :=
  { event_type := "auth.token_refresh_failed", resource := some "/v1/auth/refresh", outcome := .denied
    failure_reason := some code }

def reuseAudit (row : RefreshTokenRow) : AuditLogEntry :=
  { event_type := "auth.token_refresh_failed", user_id := some row.userId, outcome := .denied
    failure_reason := some "token_reuse_detected", metadata := [("session_family", row.sessionFamily)] }

/-- What a login has seen and done when it writes an audit entry. -/
inductive LoginBacks (env : Env) (client : Client) (email password : String) (past : List SessionEvent) :
    AuditLogEntry → Prop where
  | success {row : UserRow} {hash : String} {values : NewRefreshToken}
      (found : FoundUser past (env.hashEmail email) row) (active : row.isActive = true)
      (stored : row.passwordHash = some hash) (verified : env.bcryptCompare password hash = true)
      (inserted : Inserted past values) (owner : values.userId = row.id) :
      LoginBacks env client email password past
        (loginAudit (requestMeta client) "auth.login" (some row.id) .success none)
  | refused {userId : Option String} (unsent : ∀ values, ¬ Sent past values)
      (known : ∀ id, userId = some id → ∃ row hash, FoundUser past (env.hashEmail email) row ∧ row.id = id ∧
        row.passwordHash = some hash ∧ env.bcryptCompare password hash = false) :
      LoginBacks env client email password past
        (loginAudit (requestMeta client) "auth.login_failed" userId .failure (some "invalid_credentials"))

inductive RefreshBacks (env : Env) (refreshToken : String) (past : List SessionEvent) : AuditLogEntry → Prop where
  | rotated {row : RefreshTokenRow} {values : NewRefreshToken} {user : UserRow}
      (selected : Selected past (env.sha256Hex refreshToken) row) (active : row.revokedAt = none)
      (consumed : Consumed past row.id) (inserted : Inserted past values)
      (family : values.sessionFamily = row.sessionFamily) (owner : values.userId = row.userId)
      (read : ReadUser past row.userId user) :
      RefreshBacks env refreshToken past (refreshAudit user.id)
  | reused {row : RefreshTokenRow} (selected : Selected past (env.sha256Hex refreshToken) row)
      (revoked : row.revokedAt.isSome = true) : RefreshBacks env refreshToken past (reuseAudit row)
  | refused (unsent : ∀ values, ¬ Sent past values) : RefreshBacks env refreshToken past (refusedAudit "unauthorized")

inductive LogoutBacks (env : Env) (bearer : Option PresentedToken) : AuditLogEntry → Prop where
  | loggedOut {jwt : SignedJwt} {now : Nat} (presented : bearer = some (.signed jwt))
      (accepted : jwtVerify env (.signed jwt) now = .ok jwt.claims) :
      LogoutBacks env bearer (logoutAudit jwt.claims.sub)

def HandlerCall.Backs (env : Env) : HandlerCall → List SessionEvent → AuditLogEntry → Prop
  | .login client email password => LoginBacks env client email password
  | .refresh _ refreshToken _ => RefreshBacks env refreshToken
  | .logout bearer _ => fun _ => LogoutBacks env bearer

def HandlerCall.AuditPermits (env : Env) (call : HandlerCall) (past : List SessionEvent) : Effect → Prop
  | .insertAuditLog entry => audits past = [] ∧ call.Backs env past entry
  | .insertRefreshToken _ => audits past = []
  | _ => True

/-- The entry that goes with an answer. A refresh answered from an idempotency slot has none, nor has one whose user has
    been deleted. -/
def HandlerCall.AuditEnds : HandlerCall → List SessionEvent → Except Thrown Answer → Prop
  | .login client .., past, .ok (.tokens body) =>
    audits past = [loginAudit (requestMeta client) "auth.login" (some body.access_token.claims.sub) .success none]
  | .login client .., past, .ok (.failed error) => error = invalidCredentialsError ∧ ∃ userId, audits past =
    [loginAudit (requestMeta client) "auth.login_failed" userId .failure (some "invalid_credentials")]
  | .refresh .., past, .ok (.tokens body) => audits past = [refreshAudit body.access_token.claims.sub] ∨
    audits past = [] ∧ ∃ result, Seen past result ∧ body.access_token = result.accessToken
  | .refresh .., past, .ok (.failed error) =>
    audits past = [] ∧ error = unauthorizedError "User no longer exists" ∨
    (∃ row, audits past = [reuseAudit row]) ∧ error = tokenReuseDetectedError ∨
    audits past = [refusedAudit error.code] ∧ error.code = "unauthorized"
  | .logout bearer _, past, .ok .noContent => ∃ jwt, bearer = some (.signed jwt) ∧
    audits past = [logoutAudit jwt.claims.sub]
  | .logout .., past, .ok (.failed _) => audits past = []
  | _, _, .ok _ => False
  | _, _, .error _ => True

theorem Passive.unrecorded {effect : Effect} (passive : Passive effect) : Unrecorded effect := by
  cases effect <;> trivial

theorem Polls.unrecorded {effect : Effect} (polls : Polls effect) : Unrecorded effect := by
  cases effect <;> trivial

theorem Marks.unrecorded {effect : Effect} (marks : Marks effect) : Unrecorded effect := by
  cases effect <;> trivial

theorem ListsJti.unrecorded {effect : Effect} (lists : ListsJti effect) : Unrecorded effect := by
  cases effect <;> trivial

theorem Revokes.unrecorded {effect : Effect} (revokes : Revokes effect) : Unrecorded effect := by
  cases effect <;> trivial

/-! The handlers -/

section Rules

variable {env : Env} {call : HandlerCall} {past : List SessionEvent}

theorem AuditPermits.unrecorded {effect : Effect} (unrecorded : Unrecorded effect) :
    call.AuditPermits env past effect := by
  cases effect <;> trivial

theorem quietly {α : Type} {program : Gateway α} {permits : List SessionEvent → Effect → Prop}
    {ends : List SessionEvent → Except Thrown α → Prop} (uses : program.Uses Unrecorded)
    (obeys : program.Obeys permits ends past) :
    program.Obeys (call.AuditPermits env) (fun whole outcome => Unchanged past whole ∧ ends whole outcome) past := by
  have quiet : program.Obeys (call.AuditPermits env) (fun whole _ => Unchanged past whole) past := by
    refine (uses.obeys fun _ _ unrecorded => AuditPermits.unrecorded unrecorded).weaken (fun _ _ permit => permit) ?_
    rintro whole _ ⟨events, rfl, unrecorded⟩
    exact unchanged_append unrecorded
  exact quiet.also obeys

theorem writeAuditEvent_audits (call : HandlerCall) {entry : AuditLogEntry} (silent : audits past = [])
    (backs : call.Backs env past entry) :
    (writeAuditEvent entry).Obeys (call.AuditPermits env)
      (fun whole _ => past ⊆ whole ∧ audits whole = [entry] ∧ ∀ values, Sent whole values → Sent past values) past := by
  refine ⟨⟨silent, backs⟩, fun inserted => ?_⟩
  have other : ∀ event ∈ [(⟨.insertAuditLog entry, inserted⟩ : SessionEvent)], ∀ values,
      event.op ≠ .insertRefreshToken values := by
    intro event member values
    rw [List.mem_singleton.mp member]
    exact nofun
  have ended : past ⊆ past ++ [⟨.insertAuditLog entry, inserted⟩] ∧
      audits (past ++ [⟨.insertAuditLog entry, inserted⟩]) = [entry] ∧
      ∀ values, Sent (past ++ [⟨.insertAuditLog entry, inserted⟩]) values → Sent past values := by
    refine ⟨List.subset_append_left _ _, ?_, fun values sent => sent_append other sent⟩
    rw [audits_append, silent]
    rfl
  cases inserted <;> exact ended

theorem findUserByEmail_row (email : String) :
    (findUserByEmail env email).Obeys (fun _ _ => True) (fun whole outcome => ∀ user passwordHash,
      outcome = .ok (some (user, passwordHash)) → ∃ row, FoundUser whole (env.hashEmail email) row ∧ user.id = row.id ∧
        user.isActive = row.isActive ∧ passwordHash = row.passwordHash) past := by
  refine ⟨trivial, fun selected => ?_⟩
  cases selected with
  | error thrown => exact nofun
  | ok found =>
    cases found with
    | none => exact nofun
    | some row =>
      refine ⟨trivial, fun decrypted => ?_⟩
      cases decrypted with
      | error thrown => exact nofun
      | ok decoded =>
        intro user passwordHash same
        cases same
        exact ⟨row, by simp [FoundUser], rfl, rfl, rfl⟩

theorem issueRefreshToken_audits (userId : String) (metadata : RefreshTokenMetadata) (family : String)
    (silent : audits past = []) :
    (issueRefreshToken env userId metadata (some family)).Obeys (call.AuditPermits env)
      (fun whole outcome => past ⊆ whole ∧ audits whole = [] ∧ ∀ issued, outcome = .ok issued →
        ∃ values, Inserted whole values ∧ values.userId = userId) past := by
  have quiet : ∀ events : List SessionEvent, (∀ event ∈ events, auditEntryOf event.op = none) →
      audits (past ++ events) = [] := by
    intro events none
    rw [audits_append, silent, List.nil_append, List.filterMap_eq_nil_iff]
    exact none
  refine ⟨trivial, fun drawn => ?_⟩
  cases drawn with
  | error thrown => exact ⟨by simp, quiet _ (by simp [auditEntryOf]), nofun⟩
  | ok plaintext =>
    refine ⟨trivial, fun clock => ?_⟩
    cases clock with
    | error thrown =>
      rw [List.append_assoc]
      exact ⟨by simp, quiet _ (by simp [auditEntryOf]), nofun⟩
    | ok now =>
      rw [List.append_assoc]
      refine ⟨quiet _ (by simp [auditEntryOf]), fun stored => ?_⟩
      rw [List.append_assoc]
      cases stored with
      | error thrown => exact ⟨by simp, quiet _ (by simp [auditEntryOf]), nofun⟩
      | ok done =>
        refine ⟨by simp, quiet _ (by simp [auditEntryOf]), fun issued _ => ?_⟩
        exact ⟨_, List.mem_append_right _ (List.mem_append_right _ (List.mem_singleton.mpr rfl)), rfl⟩

theorem login_audits (client : Client) (email password : String) :
    (login env client email password).Obeys ((HandlerCall.login client email password).AuditPermits env)
      (HandlerCall.login client email password).AuditEnds [] := by
  have refuse : ∀ before userId, audits before = [] →
      LoginBacks env client email password before
        (loginAudit (requestMeta client) "auth.login_failed" userId .failure (some "invalid_credentials")) →
      (writeAuditEvent (loginAudit (requestMeta client) "auth.login_failed" userId .failure "invalid_credentials") >>=
        fun _ => pure (.failed invalidCredentialsError) : Gateway Answer).Obeys
        ((HandlerCall.login client email password).AuditPermits env)
        (HandlerCall.login client email password).AuditEnds before := by
    intro before userId silent backs
    apply (writeAuditEvent_audits (.login client email password) silent backs).bind (fun _ _ _ => trivial)
    rintro whole _ ⟨_, written, _⟩
    exact ⟨rfl, userId, written⟩
  unfold login
  have finds := (findUserByEmail_passive env email).weaken fun _ passive => passive.unrecorded
  apply (quietly finds (findUserByEmail_row email)).bind (fun _ _ _ => trivial)
  rintro past found ⟨⟨_, silent, unsent⟩, known⟩
  have silent : audits past = [] := silent
  have unsent : ∀ values, ¬ Sent past values := fun values sent => by simpa [Sent] using unsent values sent
  cases found with
  | none => exact refuse _ _ silent (.refused unsent (by simp))
  | some found =>
    obtain ⟨user, passwordHash⟩ := found
    obtain ⟨row, seen, id, active, stored⟩ := known user passwordHash rfl
    simp only
    split
    · rename_i hash truthyHash isActive
      have kept := Option.filter_eq_some_iff.mp truthyHash
      split
      · rename_i wrong
        apply refuse _ _ silent
        refine .refused unsent fun other same => ?_
        cases same
        exact ⟨row, hash, seen, id.symm, stored ▸ kept.1, by simpa [verifyPassword] using wrong⟩
      · rename_i verified
        have verified : env.bcryptCompare password hash = true := by simpa [verifyPassword] using verified
        have sign := @signAccessToken_obeys env (fun _ _ => True) past (fun _ _ _ => trivial)
          (accessTokenSubject env user)
        have signs := (signAccessToken_passive env (accessTokenSubject env user)).weaken fun _ passive =>
          passive.unrecorded
        apply (quietly signs sign).bind (fun _ _ _ => trivial)
        rintro signing signed ⟨⟨grown, still, _⟩, _, made⟩
        obtain ⟨sub, _⟩ := made signed rfl
        rw [silent] at still
        simp only [issueRefreshToken_new]
        rw [Program.bind_eq, Program.bind_eq, Program.bind_assoc]
        refine ⟨trivial, fun drawn => ?_⟩
        cases drawn with
        | error thrown => trivial
        | ok family =>
          simp only [Program.done_ok_bind]
          have quiet : audits (signing ++ [⟨.randomString, .ok family⟩]) = [] := by
            rw [audits_append, still]
            rfl
          apply (issueRefreshToken_audits user.id _ family quiet).bind (fun _ _ _ => trivial)
          rintro issuing refresh ⟨since, still, issued⟩
          obtain ⟨values, inserted, owner⟩ := issued refresh rfl
          have marks : (markLastLogin user.id).Obeys (fun _ _ => True) (fun _ _ => True) issuing :=
            (obeys_grow _ _).weaken (fun _ _ permit => permit) fun _ _ _ => trivial
          have updates := (markLastLogin_uses user.id).weaken fun _ marks => marks.unrecorded
          apply (quietly updates marks).bind (fun _ _ _ => trivial)
          rintro marked _ ⟨⟨later, quiet, _⟩, _⟩
          rw [still] at quiet
          have all : past ⊆ marked := fun _ member => later (since (List.mem_append_left _ (grown member)))
          have backs : LoginBacks env client email password marked
              (loginAudit (requestMeta client) "auth.login" user.id .success none) := by
            rw [id]
            exact .success (all seen) (by rw [← active, isActive]) (stored ▸ kept.1) verified (later inserted)
              (owner.trans id)
          apply (writeAuditEvent_audits (.login client email password) quiet backs).bind (fun _ _ _ => trivial)
          rintro whole _ ⟨_, written, _⟩
          have subject : (tokenResponse env signed.token refresh.plaintext).access_token.claims.sub = user.id := sub
          show audits whole = _
          rw [subject]
          exact written
    · exact refuse _ _ silent (.refused unsent (by simp))

def RotationAudits (past : List SessionEvent) : Except Thrown (Except AppError RotationResult) → Prop
  | .ok (.ok _) => audits past = []
  | .ok (.error error) => (∃ row, audits past = [reuseAudit row]) ∧ error = tokenReuseDetectedError ∨
    audits past = [] ∧ error.code = "unauthorized" ∧ ∀ values, ¬ Sent past values
  | .error _ => True

theorem rotateRefreshToken_audits (client : Client) (refreshToken : String) (idempotencyKey : Option String)
    (metadata : RefreshTokenMetadata) (silent : audits past = []) (unsent : ∀ values, ¬ Sent past values) :
    (rotateRefreshToken env refreshToken metadata).Obeys
      ((HandlerCall.refresh client refreshToken idempotencyKey).AuditPermits env)
      (fun whole outcome => past ⊆ whole ∧ RotationAudits whole outcome) past := by
  refine ⟨trivial, fun selected => ?_⟩
  have looked : Unchanged past (past ++ [⟨.selectRefreshTokenByHash (env.sha256Hex refreshToken), selected⟩]) := by
    apply unchanged_append
    intro event member
    rw [List.mem_singleton.mp member]
    trivial
  have quiet : audits (past ++ [⟨.selectRefreshTokenByHash (env.sha256Hex refreshToken), selected⟩]) = [] :=
    looked.2.1.trans silent
  have still : ∀ values, ¬ Sent (past ++ [⟨.selectRefreshTokenByHash (env.sha256Hex refreshToken), selected⟩]) values :=
    fun values sent => unsent values (looked.2.2 values sent)
  cases selected with
  | error thrown => exact ⟨looked.1, trivial⟩
  | ok found =>
    cases found with
    | none => exact ⟨looked.1, .inr ⟨quiet, rfl, still⟩⟩
    | some row =>
      have seen : Selected (past ++ [⟨.selectRefreshTokenByHash (hashRefreshToken env refreshToken), .ok (some row)⟩])
          (env.sha256Hex refreshToken) row := List.mem_append_right _ (List.mem_singleton.mpr rfl)
      have since := looked.1
      simp only [hashRefreshToken] at seen ⊢
      generalize (past ++ [_] : List SessionEvent) = reading at seen since quiet still ⊢
      simp only [Program.done_ok_bind, Program.bind_eq, Program.pure_eq]
      by_cases revoked : row.revokedAt.isSome
      · simp only [revoked, if_true]
        have family := (obeys_grow (revokeSessionFamily row.sessionFamily "reuse_detected") reading)
        have closes := (revokeSessionFamily_uses row.sessionFamily "reuse_detected").weaken fun _ revokes =>
          revokes.unrecorded
        apply (quietly closes family).bind
        · rintro whole thrown ⟨_, grown⟩
          exact ⟨fun _ member => grown (since member), trivial⟩
        · rintro closed _ ⟨⟨grown, silent, _⟩, _⟩
          rw [quiet] at silent
          have backs : RefreshBacks env refreshToken closed (reuseAudit row) := .reused (seen.grow grown) revoked
          apply (writeAuditEvent_audits (.refresh client refreshToken idempotencyKey) silent backs).bind
          · rintro whole thrown ⟨later, _⟩
            exact ⟨fun _ member => later (grown (since member)), trivial⟩
          · rintro whole _ ⟨later, written, _⟩
            exact ⟨fun _ member => later (grown (since member)), .inl ⟨⟨row, written⟩, rfl⟩⟩
      · simp only [revoked, Bool.false_eq_true, if_false]
        refine ⟨trivial, fun clock => ?_⟩
        have timed : Unchanged reading (reading ++ [⟨.dateNow, clock⟩]) := by
          apply unchanged_append
          intro event member
          rw [List.mem_singleton.mp member]
          trivial
        have onward : past ⊆ reading ++ [⟨.dateNow, clock⟩] := fun _ member => timed.1 (since member)
        cases clock with
        | error thrown => exact ⟨onward, trivial⟩
        | ok now =>
          simp only [Program.done_ok_bind]
          split
          · exact ⟨onward, .inr ⟨timed.2.1.trans quiet, rfl, fun values sent => still values (timed.2.2 values sent)⟩⟩
          have updating := (revokeRow_uses row.id "rotation" (env.sha256Hex refreshToken) row.expiresAt).weaken
            fun _ revokes => revokes.unrecorded
          have rest : (Program.bind (Gateway.dateNow >>= fun now => Gateway.updateRevokedById row.id now "rotation" >>=
              fun _ => cacheRefreshTokenRevocation (env.sha256Hex refreshToken) row.expiresAt) fun _ =>
              Program.bind (issueRefreshToken env row.userId metadata (some row.sessionFamily)) fun issued =>
                Program.done (.ok (.ok { userId := row.userId, issued }))).Obeys
              ((HandlerCall.refresh client refreshToken idempotencyKey).AuditPermits env)
              (fun whole outcome => past ⊆ whole ∧ RotationAudits whole outcome)
              (reading ++ [⟨.dateNow, .ok now⟩]) := by
            apply (quietly updating (obeys_grow _ _)).bind
            · rintro whole thrown ⟨_, grown⟩
              exact ⟨fun _ member => grown (onward member), trivial⟩
            · rintro updated _ ⟨⟨grown, same, _⟩, _⟩
              have silent : audits updated = [] := same.trans (timed.2.1.trans quiet)
              apply (issueRefreshToken_audits row.userId metadata row.sessionFamily silent).bind
              · rintro whole thrown ⟨later, _⟩
                exact ⟨fun _ member => later (grown (onward member)), trivial⟩
              · rintro whole issued ⟨later, silent, _⟩
                exact ⟨fun _ member => later (grown (onward member)), silent⟩
          simpa only [replaceToken, Program.bind_eq, Program.bind_assoc, Program.pure_eq] using rest

theorem rotateAndAnswer_audits (client : Client) (refreshToken : String) (idempotencyKey : Option String)
    (metadata : RefreshTokenMetadata) (claimed : Option String) (silent : audits past = [])
    (unsent : ∀ values, ¬ Sent past values) :
    (rotateAndAnswer env refreshToken metadata (env.sha256Hex refreshToken) claimed).Obeys
      ((HandlerCall.refresh client refreshToken idempotencyKey).AuditPermits env)
      (HandlerCall.refresh client refreshToken idempotencyKey).AuditEnds past := by
  have done := @Obeys.after _ _ _ _ _ _ _ _ (fun _ _ => True) past
    (rotateRefreshToken_obeys env refreshToken metadata) fun _ _ _ => trivial
  rw [List.append_nil] at done
  have rotates := (rotateRefreshToken_audits client refreshToken idempotencyKey metadata silent unsent).also done
  apply rotates.bind (fun _ _ _ => trivial)
  rintro whole rotation ⟨⟨grown, written⟩, events, rfl, ended⟩
  cases rotation with
  | error error =>
    have releases : (releaseClaim claimed).Uses Unrecorded := releaseClaim_uses fun _ _ => trivial
    apply (quietly releases (obeys_grow _ _)).bind (fun _ _ _ => trivial)
    rintro released _ ⟨⟨_, same, still⟩, _⟩
    rcases written with ⟨⟨row, written⟩, rfl⟩ | ⟨written, code, none⟩
    · exact .inr (.inl ⟨⟨row, same.trans written⟩, rfl⟩)
    · have refused : auditRefusal error = writeAuditEvent (refusedAudit error.code) := by
        rw [auditRefusal, if_pos (by rw [code]; decide)]
        rfl
      rw [refused, code]
      have backs : RefreshBacks env refreshToken released (refusedAudit "unauthorized") :=
        .refused fun values sent => none values (still values sent)
      apply (writeAuditEvent_audits (.refresh client refreshToken idempotencyKey) (same.trans written) backs).bind
        (fun _ _ _ => trivial)
      rintro last _ ⟨_, listed, _⟩
      exact .inr (.inr ⟨by rw [listed, code], code⟩)
  | ok rotated =>
    obtain ⟨row, values, selected, active, consumed, inserted, hash, family, owner, user, drew⟩ := ended
    have since : events ⊆ past ++ events := List.subset_append_right _ _
    have written : audits (past ++ events) = [] := written
    generalize past ++ events = whole at since written grown
    have finds := @findUserById_obeys (fun _ _ => True) whole (fun _ _ _ => trivial) rotated.userId
    have reads := (findUserById_passive rotated.userId).weaken fun _ passive => passive.unrecorded
    apply (quietly reads finds).bind (fun _ _ _ => trivial)
    rintro reading found ⟨⟨read, same, _⟩, _, known⟩
    cases found with
    | none => exact .inl ⟨same.trans written, rfl⟩
    | some account =>
      obtain ⟨stored, readUser, same'⟩ := known account rfl
      have signs := @signAccessToken_obeys env (fun _ _ => True) reading (fun _ _ _ => trivial)
        (accessTokenSubject env account)
      have reads := (signAccessToken_passive env (accessTokenSubject env account)).weaken fun _ passive =>
        passive.unrecorded
      apply (quietly reads signs).bind (fun _ _ _ => trivial)
      rintro signing signed ⟨⟨sign, same'', _⟩, _, made⟩
      obtain ⟨sub, _⟩ := made signed rfl
      have sub : signed.token.claims.sub = account.id := sub
      have all : events ⊆ signing := fun _ member => sign (read (since member))
      have quiet : audits signing = [] := same''.trans (same.trans written)
      have backs : RefreshBacks env refreshToken signing (refreshAudit account.id) := by
        rw [same']
        exact .rotated (selected.grow all) active (consumed.grow all) (inserted.grow all) family owner
          (user ▸ sign readUser)
      apply (writeAuditEvent_audits (.refresh client refreshToken idempotencyKey) quiet backs).bind
        (fun _ _ _ => trivial)
      rintro audited _ ⟨_, listed, _⟩
      have completes : ∀ result, (completeClaim claimed result).Uses Unrecorded :=
        fun _ => completeClaim_uses fun _ _ _ => trivial
      apply (quietly (completes _) (obeys_grow _ _)).bind (fun _ _ _ => trivial)
      rintro last _ ⟨⟨_, kept, _⟩, _⟩
      refine .inl ?_
      have subject : (tokenResponse env signed.token rotated.issued.plaintext).access_token.claims.sub = account.id :=
        sub
      rw [subject]
      exact kept.trans listed

theorem refresh_audits (client : Client) (refreshToken : String) (idempotencyKey : Option String) :
    (refresh env client refreshToken idempotencyKey).Obeys
      ((HandlerCall.refresh client refreshToken idempotencyKey).AuditPermits env)
      (HandlerCall.refresh client refreshToken idempotencyKey).AuditEnds [] := by
  have nothing : ∀ values, ¬ Sent [] values := by simp [Sent]
  unfold refresh
  simp only [hashRefreshToken]
  split
  · exact rotateAndAnswer_audits client refreshToken idempotencyKey _ _ rfl nothing
  rename_i key _
  refine ⟨trivial, fun claim => ?_⟩
  cases claim with
  | error thrown => trivial
  | ok owned =>
    have unsent : ∀ values, ¬ Sent ([] ++ [⟨.redisSetNx (.idempotencyRefresh key) (.slot .pending)
        idempotencyRefreshTtlSeconds, .ok owned⟩]) values := by simp [Sent]
    simp only [Program.done_ok_bind]
    split
    · exact rotateAndAnswer_audits client refreshToken idempotencyKey _ _ rfl unsent
    have polls := @pollIdempotentResult_obeys (fun _ _ => True) ([] ++ [⟨.redisSetNx (.idempotencyRefresh key)
      (.slot .pending) idempotencyRefreshTtlSeconds, .ok owned⟩]) key (env.sha256Hex refreshToken)
      idempotencyClaimWaitAttempts fun _ _ _ => trivial
    have waits := (pollIdempotentResult_uses key (env.sha256Hex refreshToken) idempotencyClaimWaitAttempts).weaken
      fun _ polls => polls.unrecorded
    apply (quietly waits polls).bind (fun _ _ _ => trivial)
    rintro whole waited ⟨⟨_, same, still⟩, _, seen⟩
    cases waited with
    | none =>
      exact rotateAndAnswer_audits client refreshToken idempotencyKey _ _ same
        fun values sent => unsent values (still values sent)
    | some result =>
      obtain ⟨read, _⟩ := seen result rfl
      exact .inr ⟨same, result, read, rfl⟩

theorem requireAccessToken_accepts (bearer : Option PresentedToken) :
    (requireAccessToken env bearer).Obeys (fun _ _ => True) (fun _ outcome => ∀ auth, outcome = .ok (.ok auth) →
      ∃ jwt now, bearer = some (.signed jwt) ∧ auth = jwt.claims ∧
      jwtVerify env (.signed jwt) now = .ok jwt.claims) past := by
  cases bearer with
  | none => exact nofun
  | some token =>
    refine ⟨trivial, fun loaded => ?_⟩
    cases loaded with
    | error thrown => exact nofun
    | ok _ =>
      refine ⟨trivial, fun clock => ?_⟩
      cases clock with
      | error thrown => exact nofun
      | ok now =>
        simp only [Program.done_ok_bind]
        split
        · exact nofun
        · exact nofun
        · rename_i payload accepted
          obtain ⟨jwt, rfl, rfl, _⟩ := jwtVerify_ok accepted
          refine ⟨trivial, fun looked => ?_⟩
          cases looked with
          | error thrown => exact nofun
          | ok value =>
            cases value with
            | none =>
              intro auth same
              cases same
              exact ⟨jwt, now, rfl, rfl, accepted⟩
            | some stored => exact nofun

theorem logout_audits (bearer : Option PresentedToken) (refreshToken : Option String) :
    (logout env bearer refreshToken).Obeys ((HandlerCall.logout bearer refreshToken).AuditPermits env)
      (HandlerCall.logout bearer refreshToken).AuditEnds [] := by
  have verifies := (requireAccessToken_passive env bearer).weaken fun _ passive => passive.unrecorded
  apply (quietly verifies (requireAccessToken_accepts bearer)).bind (fun _ _ _ => trivial)
  rintro verified answer ⟨⟨_, silent, _⟩, accepts⟩
  cases answer with
  | error error => exact silent
  | ok auth =>
    obtain ⟨jwt, now, presented, same, accepted⟩ := accepts auth rfl
    have lists := (revokeToken_uses auth.jti (auth.exp * 1000)).weaken fun _ lists => lists.unrecorded
    apply (quietly lists (obeys_grow _ _)).bind (fun _ _ _ => trivial)
    rintro listed _ ⟨⟨_, quiet, _⟩, _⟩
    have revokes := (revokeForLogout_uses env auth.sub refreshToken).weaken fun _ revokes => revokes.unrecorded
    apply (quietly revokes (obeys_grow _ _)).bind (fun _ _ _ => trivial)
    rintro revoked _ ⟨⟨_, still, _⟩, _⟩
    have backs : LogoutBacks env bearer (logoutAudit auth.sub) := by
      rw [same]
      exact .loggedOut presented accepted
    apply (writeAuditEvent_audits (.logout bearer refreshToken) (still.trans (quiet.trans silent)) backs).bind
      (fun _ _ _ => trivial)
    rintro whole _ ⟨_, written, _⟩
    exact ⟨jwt, presented, by rw [written, same]⟩

theorem HandlerCall.code_audits (env : Env) (call : HandlerCall) :
    (call.code env).Obeys (call.AuditPermits env) call.AuditEnds [] := by
  cases call with
  | login client email password => exact login_audits client email password
  | refresh client refreshToken idempotencyKey => exact refresh_audits client refreshToken idempotencyKey
  | logout bearer refreshToken => exact logout_audits bearer refreshToken

end Rules

end GatewayProof
