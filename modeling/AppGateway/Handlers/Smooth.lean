import AppGateway.Async.Progress
import AppGateway.Handlers.IdempotentReplay

namespace GatewayProof

open Async GatewayModel
open Async.Program (Completes completes_done completes_await completes_perform)

def execSmooth (env : Env) (effect : Effect) (choice : Nat × Choice) (state : GatewayState) :
    Option (Except Thrown effect.Reply × GatewayState) :=
  (execLater env effect choice state).filter fun executed => executed.1.isOk

abbrev Smooth {α : Type} (env : Env) (program : Gateway α) :=
  Completes (execSmooth env) (fun _ => True) program

section Rules

variable {env : Env} {before after : GatewayState}

theorem execSmooth_eq {effect : Effect} {choice : Nat × Choice} {reply : Except Thrown effect.Reply} :
    execSmooth env effect choice before = some (reply, after) ↔
      execLater env effect choice before = some (reply, after) ∧ ∃ value, reply = .ok value := by
  unfold execSmooth
  rw [Option.filter_eq_some_iff]
  cases reply with
  | ok value => simp [Except.isOk, Except.toBool]
  | error thrown => simp [Except.isOk, Except.toBool]

theorem execSmooth_throws (effect : Effect) (choice : Nat × Choice) (start : GatewayState) (thrown : Thrown)
    (later : GatewayState) : execSmooth env effect choice start ≠ some (.error thrown, later) := by
  intro executed
  obtain ⟨_, value, same⟩ := execSmooth_eq.mp executed
  cases same

variable {α β : Type} {program : Gateway α}

theorem Smooth.later {outcome : Except Thrown α} (smooth : Smooth env program before outcome after) :
    Completes (execLater env) (fun _ => True) program before outcome after :=
  smooth.lift id (fun _ _ _ _ executed => (execSmooth_eq.mp executed).1) fun _ _ => trivial

theorem Smooth.bind {next : α → Gateway β} {outcome : Except Thrown β}
    (smooth : Smooth env (program >>= next) before outcome after) (succeeds : program.Succeeds) :
    ∃ value middle, Smooth env program before (.ok value) middle ∧ Smooth env (next value) middle outcome after := by
  rcases smooth.bind_cases with whole | ⟨thrown, _, first⟩
  · exact whole
  · obtain ⟨_, same⟩ := first.succeeds succeeds execSmooth_throws
    cases same

theorem Smooth.perform {effect : Effect} {outcome : Except Thrown effect.Reply}
    (smooth : Smooth env (Gateway.perform effect) before outcome after) :
    ∃ ms choice value, outcome = .ok value ∧
      respond env choice (external (.elapse ms) before) effect = some (.ok value, after) := by
  obtain ⟨choice, _, executed⟩ := completes_perform.mp smooth
  obtain ⟨executed, value, rfl⟩ := execSmooth_eq.mp executed
  exact ⟨choice.1, choice.2, value, rfl, exec_ok executed⟩

end Rules

section Succeeds

variable (env : Env)

theorem perform_succeeds (effect : Effect) : (Gateway.perform effect).Succeeds := fun _ => trivial

theorem cacheRefreshTokenRevocation_succeeds (tokenHash : String) (expiresAt : Nat) :
    (cacheRefreshTokenRevocation tokenHash expiresAt).Succeeds := by
  have ttl : (ttlSecondsUntil expiresAt).Succeeds := fun _ => trivial
  refine ttl.bind fun ttl => ?_
  split
  · trivial
  · exact perform_succeeds _

theorem writeAuditEvent_succeeds (entry : AuditLogEntry) : (writeAuditEvent entry).Succeeds :=
  (perform_succeeds (.insertAuditLog entry)).handle _

theorem issueRefreshToken_succeeds (userId family : String) (metadata : RefreshTokenMetadata) :
    (issueRefreshToken env userId metadata (some family)).Succeeds := fun _ _ _ => trivial

theorem findUserById_succeeds (id : String) : (findUserById id).Succeeds := by
  refine (perform_succeeds _).bind fun found => ?_
  rcases found with _ | row
  · trivial
  · exact fun _ => trivial

theorem signAccessToken_succeeds (subject : AccessTokenSubject) : (signAccessToken env subject).Succeeds :=
  fun _ _ _ => trivial

end Succeeds

section Rotation

variable {env : Env} {before after : GatewayState}

theorem users_later {α : Type} {program : Gateway α} {outcome : Except Thrown α} {sound : Nat × Choice → Prop}
    (completes : Completes (execLater env) sound program before outcome after) :
    after.users.map (·.id) = before.users.map (·.id) := by
  have any : program.Uses fun _ => True := (Program.obeys_grow program []).uses fun _ _ permit => permit
  apply completes.invariant any
  · rfl
  intro effect choice reply start later _ same executed
  have step : TableStep (external (.elapse choice.1) start) later effect := exec_tableStep executed
  refine Eq.trans ?_ same
  cases step with
  | keep _ rows drawn clock users => exact users
  | revokeById id revokedAt reason changed => rw [changed]; rfl
  | revokeByFamily family revokedAt reason changed => rw [changed]; rfl
  | insert values id fresh unique user changed => rw [changed]; rfl

/-- What the rotation of a live token leaves: its row consumed, and a successor for the new token. -/
structure RotatedTo (env : Env) (row : RefreshTokenRow) (refreshToken : String) (before after : GatewayState)
    (successor : RefreshTokenRow) : Prop where
  rows : ∃ revokedAt, after.refreshTokens =
    setRevoked before.refreshTokens (·.id = row.id) revokedAt "rotation" ++ [successor]
  hash : successor.tokenHash = env.sha256Hex refreshToken
  family : successor.sessionFamily = row.sessionFamily
  user : successor.userId = row.userId
  active : successor.revokedAt = none

theorem issueRefreshToken_smooth {userId family : String} {metadata : RefreshTokenMetadata}
    {issued : IssuedRefreshToken}
    (smooth : Smooth env (issueRefreshToken env userId metadata (some family)) before (.ok issued) after) :
    ∃ successor, after.refreshTokens = before.refreshTokens ++ [successor] ∧
      successor.tokenHash = env.sha256Hex issued.plaintext ∧ successor.sessionFamily = family ∧
      successor.userId = userId ∧ successor.revokedAt = none := by
  obtain ⟨same, start, given, rest⟩ := Completes.bind_ok smooth
  obtain ⟨given, rfl⟩ := completes_done.mp given
  cases given
  obtain ⟨plaintext, drawn, draw, rest⟩ := Completes.bind_ok rest
  have random : generatePlaintext.Uses KeepsRows := perform_uses trivial
  have draws := rows_later (Smooth.later draw) random
  obtain ⟨expiresAt, timed, clock, rest⟩ := Completes.bind_ok rest
  have expires : (secondsFromNow env.refreshTokenTtlSeconds).Uses KeepsRows :=
    Program.Uses.bind (perform_uses trivial) fun _ => trivial
  have times := rows_later (Smooth.later clock) expires
  obtain ⟨_, stored, insert, finish⟩ := Completes.bind_ok rest
  obtain ⟨ms, choice, _, same, responded⟩ := Smooth.perform insert
  obtain ⟨finished, rfl⟩ := completes_done.mp finish
  cases finished
  simp only [respond] at responded
  split at responded
  · cases responded
  simp only [GatewayState.insert, Option.some.injEq] at responded
  split at responded
  · split at responded
    · cases responded
    · cases responded
      have earlier : (external (.elapse ms) timed).refreshTokens = start.refreshTokens := times.trans draws
      exact ⟨_, congrArg (· ++ [_]) earlier, rfl, rfl, rfl, rfl⟩
  · cases responded

theorem replaceToken_smooth {tokenHash : String} {metadata : RefreshTokenMetadata} {row : RefreshTokenRow}
    {outcome : Except Thrown (Except AppError RotationResult)}
    (smooth : Smooth env (replaceToken env tokenHash row metadata) before outcome after) :
    ∃ rotated successor, outcome = .ok (.ok rotated) ∧ rotated.userId = row.userId ∧
      RotatedTo env row rotated.issued.plaintext before after successor := by
  obtain ⟨revokedAt, timed, time, rest⟩ := Smooth.bind smooth (perform_succeeds _)
  have times := rows_later (Smooth.later time) (perform_uses trivial)
  obtain ⟨_, updated, update, rest⟩ := Smooth.bind rest (perform_succeeds _)
  obtain ⟨_, _, _, _, responded⟩ := Smooth.perform update
  cases responded
  obtain ⟨_, mirrored, mirror, rest⟩ := Smooth.bind rest (cacheRefreshTokenRevocation_succeeds _ _)
  have mirrors := incidental_later (Smooth.later mirror) (cacheRefreshTokenRevocation_incidental _ _)
  obtain ⟨issued, inserted, issue, finish⟩ := Smooth.bind rest (issueRefreshToken_succeeds env _ _ _)
  obtain ⟨successor, rows, hash, family, user, unrevoked⟩ := issueRefreshToken_smooth issue
  obtain ⟨rfl, rfl⟩ := completes_done.mp finish
  refine ⟨_, successor, rfl, rfl, ⟨revokedAt, ?_⟩, hash, family, user, unrevoked⟩
  have earlier : timed.refreshTokens = before.refreshTokens := times
  rw [rows, mirrors]
  show setRevoked timed.refreshTokens _ _ _ ++ _ = _
  rw [earlier]

theorem findUserById_smooth {id : String} {outcome : Except Thrown (Option AuthenticatedUser)}
    (known : ∃ user ∈ before.users, user.id = id)
    (smooth : Smooth env (findUserById id) before outcome after) : ∃ user, outcome = .ok (some user) := by
  obtain ⟨found, selected, select, rest⟩ := Smooth.bind smooth (perform_succeeds _)
  obtain ⟨ms, _, _, same, responded⟩ := Smooth.perform select
  cases same
  simp only [respond, Option.some.injEq, Prod.mk.injEq, Except.ok.injEq] at responded
  obtain ⟨user, member, named⟩ := known
  cases found with
  | none =>
    have missing := List.find?_eq_none.mp responded.1 user member
    simp [named] at missing
  | some row =>
    have decrypts : (toAuthenticatedUser row).Succeeds := fun _ => trivial
    obtain ⟨account, read, _, finish⟩ := Smooth.bind rest decrypts
    exact ⟨account, (completes_done.mp finish).1⟩

theorem answerRotation_smooth {tokenHash key : String} {rotated : RotationResult} {outcome : Except Thrown Answer}
    (known : ∃ user ∈ before.users, user.id = rotated.userId)
    (smooth : Smooth env (answerRotation env tokenHash (some key) (.ok rotated)) before outcome after) :
    ∃ result, outcome = .ok (.tokens (tokenResponse env result.accessToken result.refreshToken)) ∧
      result.presentedTokenHash = tokenHash ∧ result.refreshToken = rotated.issued.plaintext ∧
      SlotOnly key (.done result) after ∧ after.refreshTokens = before.refreshTokens := by
  obtain ⟨account, read, reads, rest⟩ := Smooth.bind smooth (findUserById_succeeds _)
  obtain ⟨user, same⟩ := findUserById_smooth known reads
  cases same
  have unread := passive_later (Smooth.later reads) (findUserById_passive _)
  obtain ⟨signed, signedAt, sign, rest⟩ := Smooth.bind rest (signAccessToken_succeeds env _)
  have unsigned := passive_later (Smooth.later sign) (signAccessToken_passive env _)
  obtain ⟨_, audited, audit, rest⟩ := Smooth.bind rest (writeAuditEvent_succeeds _)
  have unaudited := incidental_later (Smooth.later audit) (writeAuditEvent_incidental _)
  obtain ⟨_, completed, complete, finish⟩ := Smooth.bind rest (perform_succeeds _)
  obtain ⟨ms, _, _, _, responded⟩ := Smooth.perform complete
  obtain ⟨rfl, rfl⟩ := completes_done.mp finish
  cases responded
  exact ⟨⟨user.id, signed.token, rotated.issued.plaintext, tokenHash⟩, rfl, rfl, rfl, slotOnly_set _ _ _ rfl,
    (unaudited.trans unsigned).trans unread⟩

theorem replaceAndAnswer_smooth {tokenHash key : String} {metadata : RefreshTokenMetadata} {row : RefreshTokenRow}
    {outcome : Except Thrown Answer} (user : ∃ user ∈ before.users, user.id = row.userId)
    (smooth : Smooth env (replaceToken env tokenHash row metadata >>= answerRotation env tokenHash (some key))
      before outcome after) :
    ∃ result successor, outcome = .ok (.tokens (tokenResponse env result.accessToken result.refreshToken)) ∧
      result.presentedTokenHash = tokenHash ∧ SlotOnly key (.done result) after ∧
      RotatedTo env row result.refreshToken before after successor := by
  obtain ⟨rotation, replaced, replace, rest⟩ | ⟨thrown, _, replace⟩ := Completes.bind_cases smooth
  · obtain ⟨rotated, successor, same, owner, turned⟩ := replaceToken_smooth replace
    cases same
    have known : ∃ user ∈ replaced.users, user.id = rotated.userId := by
      have same := users_later (Smooth.later replace)
      obtain ⟨user, member, named⟩ := user
      have listed : row.userId ∈ replaced.users.map (·.id) := same ▸ List.mem_map.mpr ⟨user, member, named⟩
      obtain ⟨other, held, equal⟩ := List.mem_map.mp listed
      exact ⟨other, held, equal.trans owner.symm⟩
    obtain ⟨result, answered, presented, plaintext, slot, unchanged⟩ := answerRotation_smooth known rest
    obtain ⟨revokedAt, rows⟩ := turned.rows
    exact ⟨result, successor, answered, presented, slot, ⟨revokedAt, unchanged.trans rows⟩,
      turned.hash.trans (congrArg env.sha256Hex plaintext.symm), turned.family, turned.user, turned.active⟩
  · obtain ⟨_, _, same, _⟩ := replaceToken_smooth replace
    cases same

end Rotation

end GatewayProof
