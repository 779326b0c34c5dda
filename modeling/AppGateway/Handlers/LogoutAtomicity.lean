import AppGateway.Handlers.RotationAtomicity
import AppGateway.Handlers.TokenRevocation

namespace GatewayProof

open Async GatewayModel
open Async.System (Reaches)
open Async.Program (Completes completes_done interrupted_done interrupted_await)

def Listed (jwt : SignedJwt) (state : GatewayState) : Prop :=
  state.redis.get state.clock (.revokedJti jwt.claims.jti) ≠ none

/-- The rows a logout may select: the one of the given refresh token, else the latest of the user. -/
def LogoutRow (env : Env) (sub : String) (refreshToken : Option String) (rows : List RefreshTokenRow)
    (row : RefreshTokenRow) : Prop :=
  match truthy refreshToken with
  | some token => rows.find? (·.tokenHash = env.sha256Hex token) = some row
  | none => row ∈ latestOfUser rows sub

theorem LogoutRow.mem {env : Env} {sub : String} {refreshToken : Option String} {rows : List RefreshTokenRow}
    {row : RefreshTokenRow} (selected : LogoutRow env sub refreshToken rows row) : row ∈ rows := by
  unfold LogoutRow at selected
  split at selected
  · exact List.mem_of_find?_eq_some selected
  · exact (latestOfUser_active selected).1

def RowRevoked (env : Env) (sub : String) (refreshToken : Option String) (before after : GatewayState) : Prop :=
  (∀ row, ¬ LogoutRow env sub refreshToken before.refreshTokens row) ∨
    ∃ row, LogoutRow env sub refreshToken before.refreshTokens row ∧ Revoked after row.id

def Repeatable (env : Env) (jwt : SignedJwt) (refreshToken : Option String) (state : GatewayState) : Prop :=
  ∃ after, Alone env (logout env (some (.signed jwt)) refreshToken) state (.ok .noContent) after

/-- Both revocations have happened or none of them, and after a failed request the same request succeeds
    as long as the token is accepted. -/
structure LogoutAtomic (env : Env) (jwt : SignedJwt) (refreshToken : Option String) (before : GatewayState)
    (ending : Option (Except Thrown Answer)) (after : GatewayState) : Prop where
  whole : (Listed jwt after ∧ RowRevoked env jwt.claims.sub refreshToken before after) ∨
    (¬ Listed jwt after ∧ after.refreshTokens = before.refreshTokens)
  repeatable : ending ≠ some (.ok .noContent) → jwtVerify env (.signed jwt) after.clock = .ok jwt.claims →
    Repeatable env jwt refreshToken after

def NothingToRevoke (env : Env) (sub : String) (refreshToken : Option String) (rows : List RefreshTokenRow) : Prop :=
  ∀ row, LogoutRow env sub refreshToken rows row → row.revokedAt.isSome

def SparesRow (failure : Failure) (refreshToken : Option String) : Prop :=
  match failure.statement with
  | .selectRefreshTokenByHash => (truthy refreshToken).isSome
  | .selectLatestActiveByUser => truthy refreshToken = none
  | .updateRevokedById => failure.takesEffect = false
  | _ => False

/-- The failing statement is one that the logout performs once the token is listed, or it is the one
    that lists it, and the request then fails. -/
def FailsListed (env : Env) (failure : Failure) (jwt : SignedJwt) (refreshToken : Option String)
    (state : GatewayState) : Prop :=
  match failure.statement with
  | .redisSet (.revokedJti jti) => jti = jwt.claims.jti ∧ failure.takesEffect = true
  | .selectRefreshTokenByHash => (truthy refreshToken).isSome
  | .selectLatestActiveByUser => truthy refreshToken = none
  | .updateRevokedById =>
    ∃ row, LogoutRow env jwt.claims.sub refreshToken state.refreshTokens row ∧ row.revokedAt = none
  | .redisSet (.revokedRefresh tokenHash) =>
    ∃ row, LogoutRow env jwt.claims.sub refreshToken state.refreshTokens row ∧ row.revokedAt = none ∧
      row.tokenHash = tokenHash ∧ state.clock < row.expiresAt
  | .insertAuditLog => failure.crashes = true
  | _ => False

/-- The failures that leave a logout atomic that ends by `limit`. From the expiry of the token on nothing
    is listed, so that any row it revokes then it revokes alone. -/
def LogoutSpared (env : Env) (failure : Failure) (jwt : SignedJwt) (refreshToken : Option String) (limit : Nat)
    (before : GatewayState) : Prop :=
  (limit < jwt.claims.exp * 1000 ∧ ¬ FailsListed env failure jwt refreshToken before) ∨
  (NothingToRevoke env jwt.claims.sub refreshToken before.refreshTokens ∧
    (jwt.claims.exp * 1000 ≤ before.clock ∨ ¬ FailsListed env failure jwt refreshToken before)) ∨
  failure.statement = .redisGet (.revokedJti jwt.claims.jti) ∨
  (jwt.claims.exp * 1000 ≤ before.clock ∧ SparesRow failure refreshToken)

def logoutAudit (sub : String) : AuditLogEntry :=
  { event_type := "auth.logout"
    user_id := sub
    resource := "/v1/auth/logout"
    outcome := .success }

def closeSession (env : Env) (sub : String) (refreshToken : Option String) : Gateway Answer := do
  revokeForLogout env sub refreshToken
  writeAuditEvent (logoutAudit sub)
  return .noContent

def closeRow (sub tokenHash : String) (row : RefreshTokenRow) : Gateway Answer := do
  let revokedAt ← Gateway.dateNow
  Gateway.updateRevokedById row.id revokedAt "logout"
  cacheRefreshTokenRevocation tokenHash row.expiresAt
  writeAuditEvent (logoutAudit sub)
  return .noContent

structure SameJtis (before after : GatewayState) : Prop where
  clock : before.clock ≤ after.clock
  keys : ∀ now jti, after.redis.get now (.revokedJti jti) = before.redis.get now (.revokedJti jti)

theorem SameJtis.refl (state : GatewayState) : SameJtis state state := ⟨Nat.le_refl _, fun _ _ => rfl⟩

theorem SameJtis.trans {before middle after : GatewayState} (first : SameJtis before middle)
    (last : SameJtis middle after) : SameJtis before after where
  clock := Nat.le_trans first.clock last.clock
  keys := fun now jti => (last.keys now jti).trans (first.keys now jti)

theorem SameJtis.elapsed (state : GatewayState) (ms : Nat) : SameJtis state (elapsed ms state) :=
  ⟨Nat.le_add_right _ _, fun _ _ => rfl⟩

theorem SameJtis.unlisted {jwt : SignedJwt} {before after : GatewayState} (same : SameJtis before after)
    (unlisted : ¬ Listed jwt before) : ¬ Listed jwt after := by
  intro listed
  apply listed
  rw [same.keys]
  exact Store.Expiring.get_none_later (not_not.mp unlisted) same.clock

theorem RedisStep.sameJtis {before after : GatewayState} {effect : Effect} (step : RedisStep before after effect)
    (spares : SparesJtis effect) (now : Nat) (jti : String) :
    after.redis.get now (.revokedJti jti) = before.redis.get now (.revokedJti jti) := by
  cases step with
  | keep _ redis => rw [redis]
  | set key value ttl redis =>
    rw [redis]
    refine Store.Expiring.get_set_other _ _ _ _ ?_
    rintro rfl
    exact spares
  | setNx key value ttl free redis =>
    rw [redis]
    refine Store.Expiring.get_set_other _ _ _ _ ?_
    rintro rfl
    exact spares
  | del key redis =>
    rw [redis]
    refine Store.Expiring.get_del_other _ _ ?_
    rintro rfl
    exact spares

section Inversion

variable {env : Env} {failure : Failure} {within : Nat → Prop} {before after : GatewayState}

theorem Disrupted.jtis {α : Type} {program : Gateway α} {ending : Option (Except Thrown α)}
    (disrupted : Disrupted env failure within program before ending after) (uses : program.Uses SparesJtis) :
    SameJtis before after := by
  have preserved : ∀ effect choice reply start later, SparesJtis effect → SameJtis before start →
      execLater env effect choice start = some (reply, later) → SameJtis before later := by
    intro effect choice reply start later spares same executed
    have step : RedisStep (elapsed choice.1 start) later effect := exec_redisStep executed
    have grows : Grows (elapsed choice.1 start) later := (exec_tableStep executed).grows
    have performed : SameJtis (elapsed choice.1 start) later := ⟨grows.clock, step.sameJtis spares⟩
    exact (same.trans (.elapsed start choice.1)).trans performed
  exact disrupted.invariant uses (.refl before) fun _ _ _ _ _ spares _ => preserved _ _ _ _ _ spares

theorem finish_disrupted {entry : AuditLogEntry} {ending : Option (Except Thrown Answer)}
    (disrupted : Disrupted env failure within (writeAuditEvent entry >>= fun _ => pure .noContent) before ending after)
    :
    after.refreshTokens = before.refreshTokens ∧
      ((ending = some (.ok .noContent) ∧ ¬ (failure.statement = .insertAuditLog ∧ failure.crashes = true)) ∨
        ending ≠ some (.ok .noContent) ∧ failure.statement = .insertAuditLog ∧ failure.crashes = true) := by
  have uses : (writeAuditEvent entry >>= fun _ => pure Answer.noContent).Uses Incidental :=
    (writeAuditEvent_incidental entry).bind fun _ => trivial
  refine ⟨disrupted.rows (uses.weaken fun _ incidental => incidental.keepsRows), ?_⟩
  obtain ⟨choice, reply, middle, _, _, ⟨⟨struck, crashes⟩, rfl, _⟩ | ⟨survived, rest⟩⟩ :=
    interrupted_await.mp disrupted
  · exact .inr ⟨nofun, (Option.some.inj struck).symm, crashes⟩
  · refine .inl ⟨?_, fun crashed => survived ⟨congrArg some crashed.1.symm, crashed.2⟩⟩
    cases reply with
    | ok value => exact (interrupted_done.mp rest).1
    | error thrown => exact (interrupted_done.mp rest).1

inductive RowClosed (failure : Failure) (within : Nat → Prop) (tokenHash : String) (row : RefreshTokenRow)
    (before : GatewayState) (ending : Option (Except Thrown Answer)) (after : GatewayState) : Prop where
  | kept (failed : ending ≠ some (.ok .noContent)) (rows : after.refreshTokens = before.refreshTokens)
      (struck : failure.statement = .updateRevokedById) (lost : failure.takesEffect = false)
  | torn (revokedAt : Nat) (failed : ending ≠ some (.ok .noContent))
      (rows : after.refreshTokens = setRevoked before.refreshTokens (·.id = row.id) revokedAt "logout")
      (struck : failure.statement = .updateRevokedById ∧ failure.takesEffect = true ∨
        failure.statement = .redisSet (.revokedRefresh tokenHash) ∧ before.clock < row.expiresAt ∨
        failure.statement = .insertAuditLog ∧ failure.crashes = true)
  | closed (revokedAt : Nat) (ended : ending = some (.ok .noContent))
      (rows : after.refreshTokens = setRevoked before.refreshTokens (·.id = row.id) revokedAt "logout")
      (updated : failure.statement ≠ .updateRevokedById)
      (mirrored : failure.statement = .redisSet (.revokedRefresh tokenHash) →
        ∃ now, Reads within before.clock now ∧ row.expiresAt ≤ now)
      (audited : ¬ (failure.statement = .insertAuditLog ∧ failure.crashes = true))

theorem closeRow_disrupted {sub tokenHash : String} {row : RefreshTokenRow} {ending : Option (Except Thrown Answer)}
    (disrupted : Disrupted env failure within (closeRow sub tokenHash row) before ending after) :
    RowClosed failure within tokenHash row before ending after := by
  obtain ⟨first, bounded, rest⟩ := Disrupted.dateNow disrupted
  have read : Reads within before.clock (before.clock + first) := Reads.start.wait bounded
  obtain ⟨second, _, bounded, ⟨struck, lost, rfl, failed⟩ | ⟨struck, effect, ⟨_, responded⟩, failed⟩ |
    ⟨spared, ⟨_, responded, _⟩ | ⟨_, middle, responded, rest⟩⟩⟩ := Disrupted.perform_cases rest
  · exact .kept (failed _) rfl (Option.some.inj struck).symm lost
  · cases responded
    exact .torn _ (failed _) rfl (.inl ⟨(Option.some.inj struck).symm, effect⟩)
  · cases responded
  have revoked : middle.refreshTokens =
      setRevoked before.refreshTokens (·.id = row.id) (before.clock + first) "logout" := by cases responded; rfl
  have clock : middle.clock = before.clock + first + second := by cases responded; rfl
  have updated : failure.statement ≠ .updateRevokedById := fun same => spared (congrArg some same.symm)
  have read := read.wait bounded
  rcases mirror_disrupted rest with ⟨struck, live, kept, failed⟩ | ⟨mirrored, same, rest, skipped⟩
  · refine .torn _ (failed _) (kept.trans revoked) (.inr (.inl ⟨struck, ?_⟩))
    exact Nat.lt_of_le_of_lt (clock ▸ read.le) live
  obtain ⟨unchanged, finish⟩ := finish_disrupted rest
  have rows := (unchanged.trans same.rows).trans revoked
  rcases finish with ⟨ended, audited⟩ | ⟨failed, struck⟩
  · refine .closed _ ended rows updated (fun mirror => ?_) audited
    obtain ⟨now, later, expired⟩ := skipped mirror
    exact ⟨now, read.trans (clock ▸ later), expired⟩
  · exact .torn _ failed rows (.inr (.inr struck))

theorem closeSession_token (sub : String) {refreshToken : Option String} {token : String}
    (given : truthy refreshToken = some token) :
    closeSession env sub refreshToken = Gateway.selectRefreshTokenByHash (env.sha256Hex token) >>= fun found =>
      match found with
      | none => writeAuditEvent (logoutAudit sub) >>= fun _ => pure .noContent
      | some row => if row.revokedAt.isSome then writeAuditEvent (logoutAudit sub) >>= fun _ => pure .noContent
        else closeRow sub (env.sha256Hex token) row := by
  unfold closeSession revokeForLogout revokeRefreshTokenByHash closeRow hashRefreshToken
  rw [given]
  simp only [Program.bind_eq, Program.bind_assoc]
  congr 1
  funext found
  cases found with
  | none => rfl
  | some row =>
    simp only
    split
    · rfl
    · simp only [Program.bind_assoc]

theorem closeSession_latest (sub : String) {refreshToken : Option String} (given : truthy refreshToken = none) :
    closeSession env sub refreshToken = Gateway.selectLatestActiveByUser sub >>= fun found =>
      match found with
      | none => writeAuditEvent (logoutAudit sub) >>= fun _ => pure .noContent
      | some row => closeRow sub row.tokenHash row := by
  unfold closeSession revokeForLogout revokeMostRecentRefreshTokenForUser closeRow
  rw [given]
  simp only [Program.bind_eq, Program.bind_assoc]
  congr 1
  funext found
  cases found with
  | none => rfl
  | some row => simp only [Program.bind_assoc]

theorem latest_reply {choice : Choice} {userId : String} {reply : Except Thrown (Option RefreshTokenRow)}
    (responded : respond env choice before (.selectLatestActiveByUser userId) = some (reply, after)) :
    after = before ∧ ∃ found, reply = .ok found ∧ (found = none → latestOfUser before.refreshTokens userId = []) ∧
      ∀ row, found = some row → row ∈ latestOfUser before.refreshTokens userId := by
  simp only [respond] at responded
  split at responded
  · rename_i none_latest
    cases responded
    exact ⟨rfl, none, rfl, fun _ => none_latest, fun _ same => by cases same⟩
  · rename_i row rows latest
    obtain ⟨picked, pick, same⟩ := Option.map_eq_some_iff.mp responded
    cases same
    refine ⟨rfl, some picked, rfl, (fun same => by cases same), fun row same => ?_⟩
    cases same
    rw [latest]
    exact List.mem_of_getElem? pick

def RevokesRow (env : Env) (sub : String) (refreshToken : Option String) (before after : GatewayState) : Prop :=
  ∃ row revokedAt, LogoutRow env sub refreshToken before.refreshTokens row ∧ row.revokedAt = none ∧
    after.refreshTokens = setRevoked before.refreshTokens (·.id = row.id) revokedAt "logout"

theorem RevokesRow.changes {sub : String} {refreshToken : Option String}
    (revokes : RevokesRow env sub refreshToken before after) : after.refreshTokens ≠ before.refreshTokens := by
  obtain ⟨row, revokedAt, selected, active, rows⟩ := revokes
  intro same
  have changed : (setRevoked before.refreshTokens (·.id = row.id) revokedAt "logout").map (·.revokedAt) =
      before.refreshTokens.map (·.revokedAt) := by rw [← rows, same]
  rw [setRevoked, List.map_map, List.map_inj_left] at changed
  have kept := changed row selected.mem
  simp [active] at kept

theorem RevokesRow.revoked {sub : String} {refreshToken : Option String}
    (revokes : RevokesRow env sub refreshToken before after) : RowRevoked env sub refreshToken before after := by
  obtain ⟨row, revokedAt, selected, _, rows⟩ := revokes
  exact .inr ⟨row, selected, _, rows ▸ mem_setRevoked.mpr ⟨row, selected.mem, rfl⟩, by simp⟩

theorem NothingToRevoke.revoked {sub : String} {refreshToken : Option String}
    (nothing : NothingToRevoke env sub refreshToken before.refreshTokens)
    (same : after.refreshTokens = before.refreshTokens) : RowRevoked env sub refreshToken before after := by
  by_cases found : ∃ row, LogoutRow env sub refreshToken before.refreshTokens row
  · obtain ⟨row, selected⟩ := found
    exact .inr ⟨row, selected, row, same ▸ selected.mem, rfl, nothing row selected⟩
  · exact .inl (not_exists.mp found)

inductive SessionClosed (env : Env) (failure : Failure) (jwt : SignedJwt) (refreshToken : Option String)
    (before : GatewayState) (ending : Option (Except Thrown Answer)) (after : GatewayState) : Prop where
  | broken (failed : ending ≠ some (.ok .noContent)) (struck : FailsListed env failure jwt refreshToken before)
      (rows : after.refreshTokens = before.refreshTokens ∧
          (NothingToRevoke env jwt.claims.sub refreshToken before.refreshTokens ∨ SparesRow failure refreshToken) ∨
        ¬ SparesRow failure refreshToken ∧ RevokesRow env jwt.claims.sub refreshToken before after)
  | closed (ended : ending = some (.ok .noContent))
      (audited : ¬ (failure.statement = .insertAuditLog ∧ failure.crashes = true))
      (rows : after.refreshTokens = before.refreshTokens ∧
          NothingToRevoke env jwt.claims.sub refreshToken before.refreshTokens ∨
        ¬ SparesRow failure refreshToken ∧ RevokesRow env jwt.claims.sub refreshToken before after)

theorem SessionClosed.of_finish {jwt : SignedJwt} {refreshToken : Option String} {start : GatewayState}
    {ending : Option (Except Thrown Answer)} {entry : AuditLogEntry} (same : start.refreshTokens = before.refreshTokens)
    (nothing : NothingToRevoke env jwt.claims.sub refreshToken before.refreshTokens)
    (disrupted : Disrupted env failure within (writeAuditEvent entry >>= fun _ => pure .noContent) start ending after) :
    SessionClosed env failure jwt refreshToken before ending after := by
  obtain ⟨unchanged, finish⟩ := finish_disrupted disrupted
  have kept := unchanged.trans same
  rcases finish with ⟨ended, audited⟩ | ⟨failed, struck, crashes⟩
  · exact .closed ended audited (.inl ⟨kept, nothing⟩)
  · refine .broken failed ?_ (.inl ⟨kept, .inl nothing⟩)
    unfold FailsListed
    rw [struck]
    exact crashes

theorem SessionClosed.of_row {jwt : SignedJwt} {refreshToken : Option String} {tokenHash : String}
    {row : RefreshTokenRow} {start : GatewayState} {ending : Option (Except Thrown Answer)}
    (same : start.refreshTokens = before.refreshTokens) (clock : before.clock ≤ start.clock)
    (selected : LogoutRow env jwt.claims.sub refreshToken before.refreshTokens row) (active : row.revokedAt = none)
    (hash : row.tokenHash = tokenHash)
    (read : SparesRow failure refreshToken → failure.statement = .updateRevokedById ∧ failure.takesEffect = false)
    (ends : RowClosed failure within tokenHash row start ending after) :
    SessionClosed env failure jwt refreshToken before ending after := by
  have updating : failure.statement = .updateRevokedById → FailsListed env failure jwt refreshToken before := by
    intro struck
    unfold FailsListed
    rw [struck]
    exact ⟨row, selected, active⟩
  have revokes : ∀ revokedAt,
      after.refreshTokens = setRevoked start.refreshTokens (·.id = row.id) revokedAt "logout" →
      RevokesRow env jwt.claims.sub refreshToken before after := by
    intro revokedAt rows
    rw [same] at rows
    exact ⟨row, revokedAt, selected, active, rows⟩
  cases ends with
  | kept failed rows struck lost =>
    refine .broken failed (updating struck) (.inl ⟨rows.trans same, .inr ?_⟩)
    unfold SparesRow
    rw [struck]
    exact lost
  | torn revokedAt failed rows struck =>
    refine .broken failed ?_ (.inr ⟨fun spares => ?_, revokes revokedAt rows⟩)
    · rcases struck with ⟨update, _⟩ | ⟨mirror, live⟩ | ⟨audit, crashes⟩
      · exact updating update
      · unfold FailsListed
        rw [mirror]
        exact ⟨row, selected, active, hash, Nat.lt_of_le_of_lt clock live⟩
      · unfold FailsListed
        rw [audit]
        exact crashes
    · obtain ⟨update, lost⟩ := read spares
      rcases struck with ⟨_, effect⟩ | ⟨mirror, _⟩ | ⟨audit, _⟩
      · rw [effect] at lost
        cases lost
      · rw [update] at mirror
        cases mirror
      · rw [update] at audit
        cases audit
  | closed revokedAt ended rows updated mirrored audited =>
    exact .closed ended audited (.inr ⟨fun spares => updated (read spares).1, revokes revokedAt rows⟩)

theorem closeSession_disrupted {jwt : SignedJwt} {refreshToken : Option String}
    {ending : Option (Except Thrown Answer)}
    (disrupted : Disrupted env failure within (closeSession env jwt.claims.sub refreshToken) before ending after) :
    SessionClosed env failure jwt refreshToken before ending after := by
  cases given : truthy refreshToken with
  | some token =>
    have rowOf : ∀ row, LogoutRow env jwt.claims.sub refreshToken before.refreshTokens row ↔
        before.refreshTokens.find? (·.tokenHash = env.sha256Hex token) = some row := by
      intro row
      unfold LogoutRow
      rw [given]
    rw [closeSession_token _ given] at disrupted
    rcases select_disrupted disrupted with ⟨struck, kept, failed⟩ | ⟨selected, ms, _, rest⟩
    · refine .broken (failed _) ?_ (.inl ⟨kept, .inr ?_⟩)
      · unfold FailsListed
        rw [struck, given]
        rfl
      · unfold SparesRow
        rw [struck, given]
        rfl
    have read : SparesRow failure refreshToken →
        failure.statement = .updateRevokedById ∧ failure.takesEffect = false := by
      intro spares
      unfold SparesRow at spares
      split at spares
      · rename_i statement
        exact absurd statement selected
      · rw [given] at spares
        cases spares
      · rename_i statement
        exact ⟨statement, spares⟩
      · exact spares.elim
    have same : (elapsed ms before).refreshTokens = before.refreshTokens := rfl
    cases found : before.refreshTokens.find? (·.tokenHash = env.sha256Hex token) with
    | none =>
      rw [found] at rest
      refine .of_finish same (fun row chosen => ?_) rest
      rw [rowOf, found] at chosen
      cases chosen
    | some row =>
      rw [found] at rest
      have hash : row.tokenHash = env.sha256Hex token := by
        have named := List.find?_some found
        simpa using named
      simp only at rest
      split at rest
      · rename_i revoked
        refine .of_finish same (fun other chosen => ?_) rest
        rw [rowOf, found] at chosen
        cases chosen
        exact revoked
      · rename_i unrevoked
        have ends := closeRow_disrupted rest
        exact .of_row same (Nat.le_add_right _ _) ((rowOf row).mpr found) (by simpa using unrevoked) hash read ends
  | none =>
    have rowOf : ∀ row, LogoutRow env jwt.claims.sub refreshToken before.refreshTokens row ↔
        row ∈ latestOfUser before.refreshTokens jwt.claims.sub := by
      intro row
      unfold LogoutRow
      rw [given]
    have selecting : failure.strikes (.selectLatestActiveByUser jwt.claims.sub) →
        FailsListed env failure jwt refreshToken before ∧ SparesRow failure refreshToken := by
      intro struck
      unfold FailsListed SparesRow
      rw [← Option.some.inj struck]
      exact ⟨given, given⟩
    rw [closeSession_latest _ given] at disrupted
    obtain ⟨ms, choice, _, ⟨struck, _, rfl, failed⟩ | ⟨struck, _, ⟨_, responded⟩, failed⟩ |
      ⟨selected, ⟨_, responded, _⟩ | ⟨found, middle, responded, rest⟩⟩⟩ := disrupted.perform_cases
    · exact .broken (failed _) (selecting struck).1 (.inl ⟨rfl, .inr (selecting struck).2⟩)
    · have kept := (respond_tableStep responded).keeps_rows trivial
      exact .broken (failed _) (selecting struck).1 (.inl ⟨kept, .inr (selecting struck).2⟩)
    · obtain ⟨_, _, same, _⟩ := latest_reply responded
      cases same
    · obtain ⟨rfl, other, equal, missing, picked⟩ := latest_reply responded
      cases equal
      have read : SparesRow failure refreshToken →
          failure.statement = .updateRevokedById ∧ failure.takesEffect = false := by
        intro spares
        unfold SparesRow at spares
        split at spares
        · rw [given] at spares
          cases spares
        · rename_i statement
          exact absurd (congrArg some statement.symm) selected
        · rename_i statement
          exact ⟨statement, spares⟩
        · exact spares.elim
      have same : (elapsed ms before).refreshTokens = before.refreshTokens := rfl
      rcases found with _ | row
      · refine .of_finish same (fun row chosen => ?_) rest
        rw [rowOf, ← same, missing rfl] at chosen
        cases chosen
      · have latest := picked row rfl
        obtain ⟨_, _, active⟩ := latestOfUser_active latest
        have ends := closeRow_disrupted rest
        exact .of_row same (Nat.le_add_right _ _) ((rowOf row).mpr latest) active rfl read ends

def listAndClose (env : Env) (claims : JwtAccessTokenClaims) (refreshToken : Option String) : Gateway Answer := do
  let now ← Gateway.dateNow
  if ttlSeconds (claims.exp * 1000) now = 0 then
    closeSession env claims.sub refreshToken
  else do
    Gateway.redisSet (.revokedJti claims.jti) .flag (ttlSeconds (claims.exp * 1000) now)
    closeSession env claims.sub refreshToken

theorem logout_signed (jwt : SignedJwt) (refreshToken : Option String) :
    logout env (some (.signed jwt)) refreshToken = Gateway.loadSigningKeys >>= fun _ => Gateway.dateNow >>= fun now =>
      match jwtVerify env (.signed jwt) now with
      | .error .expired => pure (.failed tokenExpiredError)
      | .error .other => pure (.failed (unauthorizedError "Token is invalid"))
      | .ok claims => Gateway.redisGet (.revokedJti claims.jti) >>= fun value =>
        if value.isSome then pure (.failed tokenRevokedError) else listAndClose env claims refreshToken := by
  unfold logout logoutHandler requireAccessToken verifyAccessToken isTokenRevoked listAndClose revokeToken
    ttlSecondsUntil closeSession
  simp only [Program.bind_eq, Program.bind_assoc]
  congr 1
  funext loaded
  congr 1
  funext now
  cases verified : jwtVerify env (.signed jwt) now with
  | error error => cases error <;> rfl
  | ok claims =>
    simp only [Program.bind_assoc]
    congr 1
    funext value
    simp only [Program.pure_eq, Program.done_ok_bind]
    split
    · rfl
    · simp only [Program.done_ok_bind]
      congr 1
      funext now
      split
      · rfl
      · rfl

/-- The state in which a logout goes on to the refresh token: the token has expired and is not listed, or
    its id is listed until it expires. -/
structure TokenDone (jwt : SignedJwt) (before listed : GatewayState) : Prop where
  clock : before.clock ≤ listed.clock
  rows : listed.refreshTokens = before.refreshTokens
  key : (jwt.claims.exp * 1000 ≤ listed.clock ∧ SameJtis before listed) ∨
    (before.clock < jwt.claims.exp * 1000 ∧
      ∃ last, jwt.claims.exp * 1000 ≤ last ∧ ∀ now, now < last →
        listed.redis.get now (.revokedJti jwt.claims.jti) ≠ none)

inductive LogoutEnded (env : Env) (failure : Failure) (jwt : SignedJwt) (refreshToken : Option String)
    (before : GatewayState) (ending : Option (Except Thrown Answer)) (after : GatewayState) : Prop where
  | refused (failed : ending ≠ some (.ok .noContent)) (same : SameJtis before after)
      (rows : after.refreshTokens = before.refreshTokens)
  | listed (live : before.clock < jwt.claims.exp * 1000) (struck : FailsListed env failure jwt refreshToken before)
  | closed (verified : failure.statement ≠ .redisGet (.revokedJti jwt.claims.jti)) (listed : GatewayState)
    (token : TokenDone jwt before listed)
      (ends : SessionClosed env failure jwt refreshToken listed ending after) (same : SameJtis listed after)

theorem closeSession_routine (sub : String) (refreshToken : Option String) :
    (closeSession env sub refreshToken).Uses Routine :=
  (revokeForLogout_routine env sub refreshToken).bind fun _ => (writeAuditEvent_routine _).bind fun _ => trivial

theorem closeSession_spares (sub : String) (refreshToken : Option String) :
    (closeSession env sub refreshToken).Uses SparesJtis :=
  (closeSession_routine sub refreshToken).weaken fun _ routine => routine.sparesJtis

theorem listAndClose_disrupted {jwt : SignedJwt} {refreshToken : Option String}
    {ending : Option (Except Thrown Answer)} (verified : failure.statement ≠ .redisGet (.revokedJti jwt.claims.jti))
    (disrupted : Disrupted env failure within (listAndClose env jwt.claims refreshToken) before ending after) :
    LogoutEnded env failure jwt refreshToken before ending after := by
  obtain ⟨first, _, rest⟩ := Disrupted.dateNow disrupted
  split at rest
  · rename_i expired
    have token : TokenDone jwt before (elapsed first before) :=
      ⟨Nat.le_add_right _ _, rfl, .inl ⟨ttlSeconds_zero.mp expired, .elapsed before first⟩⟩
    exact .closed verified _ token (closeSession_disrupted rest) (rest.jtis (closeSession_spares _ _))
  rename_i unexpired
  have later : before.clock + first < jwt.claims.exp * 1000 := Nat.lt_of_not_le fun late =>
    unexpired (ttlSeconds_zero.mpr late)
  have live : before.clock < jwt.claims.exp * 1000 := Nat.lt_of_le_of_lt (Nat.le_add_right _ _) later
  obtain ⟨second, _, _, ⟨_, _, rfl, failed⟩ | ⟨struck, effect, _, _⟩ |
    ⟨_, ⟨_, responded, _⟩ | ⟨_, listed, responded, rest⟩⟩⟩ := Disrupted.perform_cases rest
  · exact .refused (failed _) ((SameJtis.elapsed before first).trans (.elapsed _ second)) rfl
  · refine .listed live ?_
    unfold FailsListed
    rw [← Option.some.inj struck]
    exact ⟨rfl, effect⟩
  · cases responded
  have token : TokenDone jwt before listed := by
    cases responded
    refine ⟨Nat.le_trans (Nat.le_add_right _ _) (Nat.le_add_right _ _), rfl, .inr ⟨live,
      before.clock + first + ttlSeconds (jwt.claims.exp * 1000) (before.clock + first) * 1000 + second,
      ?_, fun now bound => ?_⟩⟩
    · exact Nat.le_trans (ttlSeconds_covers _ _) (Nat.le_add_right _ _)
    · rw [Store.Expiring.get_set_same, if_pos]
      · exact nofun
      · unfold GatewayState.expiry
        simp only [external]
        omega
  exact .closed verified _ token (closeSession_disrupted rest) (rest.jtis (closeSession_spares _ _))

theorem FailsListed.earlier {jwt : SignedJwt} {refreshToken : Option String} {start : GatewayState}
    (fails : FailsListed env failure jwt refreshToken start) (clock : before.clock ≤ start.clock)
    (rows : start.refreshTokens = before.refreshTokens) : FailsListed env failure jwt refreshToken before := by
  unfold FailsListed at fails ⊢
  rw [rows] at fails
  split at fails
  · exact fails
  · exact fails
  · exact fails
  · exact fails
  · obtain ⟨row, selected, active, hash, live⟩ := fails
    exact ⟨row, selected, active, hash, Nat.lt_of_le_of_lt clock live⟩
  · exact fails
  · exact fails.elim

theorem LogoutEnded.earlier {jwt : SignedJwt} {refreshToken : Option String} {start : GatewayState}
    {ending : Option (Except Thrown Answer)} (ended : LogoutEnded env failure jwt refreshToken start ending after)
    (waited : SameJtis before start) (rows : start.refreshTokens = before.refreshTokens) :
    LogoutEnded env failure jwt refreshToken before ending after := by
  cases ended with
  | refused failed same kept => exact .refused failed (waited.trans same) (kept.trans rows)
  | listed live struck => exact .listed (Nat.lt_of_le_of_lt waited.clock live) (struck.earlier waited.clock rows)
  | closed verified listed token ends same =>
    refine .closed verified listed ⟨Nat.le_trans waited.clock token.clock, token.rows.trans rows, ?_⟩ ends same
    rcases token.key with ⟨expired, unchanged⟩ | ⟨live, covered⟩
    · exact .inl ⟨expired, waited.trans unchanged⟩
    · exact .inr ⟨Nat.lt_of_le_of_lt waited.clock live, covered⟩

theorem logout_disrupted {jwt : SignedJwt} {refreshToken : Option String} {ending : Option (Except Thrown Answer)}
    (unlisted : ¬ Listed jwt before)
    (disrupted : Disrupted env failure within (logout env (some (.signed jwt)) refreshToken) before ending after) :
    LogoutEnded env failure jwt refreshToken before ending after := by
  rw [logout_signed] at disrupted
  obtain ⟨first, _, _, ⟨struck, _⟩ | ⟨struck, _⟩ | ⟨_, ⟨_, responded, _⟩ | ⟨_, _, responded, rest⟩⟩⟩ :=
    disrupted.perform_cases
  · cases struck
  · cases struck
  · cases responded
  cases responded
  obtain ⟨second, _, rest⟩ := Disrupted.dateNow rest
  have waited : SameJtis before (elapsed second (elapsed first before)) :=
    (SameJtis.elapsed before first).trans (.elapsed _ second)
  have refuse : ∀ error, Disrupted env failure within (pure (Answer.failed error) : Gateway Answer)
      (elapsed second (elapsed first before)) ending after →
      LogoutEnded env failure jwt refreshToken before ending after := by
    intro error refused
    obtain ⟨rfl, rfl⟩ := interrupted_done.mp refused
    exact .refused nofun waited rfl
  split at rest
  · exact refuse _ rest
  · exact refuse _ rest
  rename_i claims verified
  obtain rfl : claims = jwt.claims := by
    obtain ⟨other, same, rfl, _⟩ := jwtVerify_ok verified
    cases same
    rfl
  obtain ⟨third, _, _, ⟨_, _, rfl, failed⟩ | ⟨_, _, ⟨_, responded⟩, failed⟩ |
    ⟨spared, ⟨_, responded, _⟩ | ⟨value, _, responded, rest⟩⟩⟩ := Disrupted.perform_cases rest
  · exact .refused (failed _) (waited.trans (.elapsed _ third)) rfl
  · cases responded
    exact .refused (failed _) (waited.trans (.elapsed _ third)) rfl
  · cases responded
  have absent : value = none := by
    simp only [respond, Option.some.injEq, Prod.mk.injEq, Except.ok.injEq] at responded
    have still := (waited.trans (.elapsed _ third)).unlisted unlisted
    rw [← responded.1]
    exact not_not.mp still
  cases responded
  rw [absent] at rest
  have waited := waited.trans (.elapsed _ third)
  have ended := listAndClose_disrupted (fun same => spared (congrArg some same.symm)) rest
  exact ended.earlier waited rfl

end Inversion

section Repetition

variable (env : Env)

theorem closeRow_resolves (sub tokenHash : String) (row : RefreshTokenRow) (state : GatewayState) :
    ∃ after, Alone env (closeRow sub tokenHash row) state (.ok .noContent) after := by
  have read : Alone env Gateway.dateNow state (.ok state.clock) state := perform_alone {} rfl rfl
  have update : Alone env (Gateway.updateRevokedById row.id state.clock "logout") state (.ok ())
      (state.updateRevoked (·.id = row.id) state.clock "logout") := perform_alone {} rfl rfl
  obtain ⟨mirrored, mirror⟩ := cacheRefreshTokenRevocation_resolves env tokenHash row.expiresAt
    (state.updateRevoked (·.id = row.id) state.clock "logout")
  obtain ⟨after, audit⟩ := writeAuditEvent_resolves env (logoutAudit sub) mirrored
  exact ⟨after, read.bind (update.bind (mirror.bind (audit.bind (.done _ _))))⟩

theorem closeSession_resolves (sub : String) (refreshToken : Option String) (state : GatewayState) :
    ∃ after, Alone env (closeSession env sub refreshToken) state (.ok .noContent) after := by
  have finish : ∃ after, Alone env (writeAuditEvent (logoutAudit sub) >>= fun _ => pure Answer.noContent) state
      (.ok .noContent) after := by
    obtain ⟨after, audit⟩ := writeAuditEvent_resolves env (logoutAudit sub) state
    exact ⟨after, audit.bind (.done _ _)⟩
  cases given : truthy refreshToken with
  | some token =>
    have select : Alone env (Gateway.selectRefreshTokenByHash (env.sha256Hex token)) state
        (.ok (state.refreshTokens.find? (·.tokenHash = env.sha256Hex token))) state := perform_alone {} rfl rfl
    rw [closeSession_token sub given]
    cases found : state.refreshTokens.find? (·.tokenHash = env.sha256Hex token) with
    | none =>
      rw [found] at select
      exact finish.imp fun _ rest => select.bind rest
    | some row =>
      rw [found] at select
      by_cases revoked : row.revokedAt.isSome
      · obtain ⟨after, rest⟩ := finish
        refine ⟨after, select.bind ?_⟩
        simp only [revoked, if_true]
        exact rest
      · obtain ⟨after, rest⟩ := closeRow_resolves env sub (env.sha256Hex token) row state
        refine ⟨after, select.bind ?_⟩
        simp only [revoked, Bool.false_eq_true, if_false]
        exact rest
  | none =>
    rw [closeSession_latest sub given]
    cases latest : latestOfUser state.refreshTokens sub with
    | nil =>
      have select : Alone env (Gateway.selectLatestActiveByUser sub) state (.ok none) state :=
        perform_alone {} rfl (by simp [respond, latest])
      exact finish.imp fun _ rest => select.bind rest
    | cons row rows =>
      have select : Alone env (Gateway.selectLatestActiveByUser sub) state (.ok (some row)) state :=
        perform_alone {} rfl (by simp [respond, latest])
      exact (closeRow_resolves env sub row.tokenHash row state).imp fun _ rest => select.bind rest

theorem logout_resolves {jwt : SignedJwt} (refreshToken : Option String) {state : GatewayState}
    (accepted : jwtVerify env (.signed jwt) state.clock = .ok jwt.claims) (unlisted : ¬ Listed jwt state) :
    Repeatable env jwt refreshToken state := by
  have load : Alone env Gateway.loadSigningKeys state (.ok ()) state := perform_alone {} rfl rfl
  have read : Alone env Gateway.dateNow state (.ok state.clock) state := perform_alone {} rfl rfl
  have look : Alone env (Gateway.redisGet (.revokedJti jwt.claims.jti)) state (.ok none) state :=
    perform_alone {} rfl (by simp [respond, not_not.mp unlisted])
  have rest : ∃ after, Alone env (listAndClose env jwt.claims refreshToken) state (.ok .noContent) after := by
    unfold listAndClose
    by_cases expired : ttlSeconds (jwt.claims.exp * 1000) state.clock = 0
    · obtain ⟨after, close⟩ := closeSession_resolves env jwt.claims.sub refreshToken state
      refine ⟨after, read.bind ?_⟩
      rw [if_pos expired]
      exact close
    · have list : Alone env (Gateway.redisSet (.revokedJti jwt.claims.jti) .flag
          (ttlSeconds (jwt.claims.exp * 1000) state.clock)) state (.ok ()) _ := perform_alone {} rfl rfl
      obtain ⟨after, close⟩ := closeSession_resolves env jwt.claims.sub refreshToken _
      refine ⟨after, read.bind ?_⟩
      rw [if_neg expired]
      exact list.bind close
  unfold Repeatable
  rw [logout_signed]
  obtain ⟨after, rest⟩ := rest
  refine ⟨after, load.bind (read.bind ?_)⟩
  simp only [accepted]
  exact look.bind rest

end Repetition

section Law

variable {env : Env} {failure : Failure} {before after : GatewayState} {jwt : SignedJwt} {refreshToken : Option String}
  {ending : Option (Except Thrown Answer)}

theorem SessionClosed.rows (ends : SessionClosed env failure jwt refreshToken before ending after) :
    (after.refreshTokens = before.refreshTokens ∧
      (NothingToRevoke env jwt.claims.sub refreshToken before.refreshTokens ∨ SparesRow failure refreshToken)) ∨
    ¬ SparesRow failure refreshToken ∧ RevokesRow env jwt.claims.sub refreshToken before after := by
  cases ends with
  | broken failed struck rows => exact rows
  | closed ended audited rows =>
    rcases rows with ⟨kept, nothing⟩ | changed
    · exact .inl ⟨kept, .inl nothing⟩
    · exact .inr changed

theorem SessionClosed.kept (ends : SessionClosed env failure jwt refreshToken before ending after)
    (spared : NothingToRevoke env jwt.claims.sub refreshToken before.refreshTokens ∨ SparesRow failure refreshToken) :
    after.refreshTokens = before.refreshTokens := by
  rcases ends.rows with ⟨kept, _⟩ | ⟨proceeds, row, _, selected, active, _⟩
  · exact kept
  · rcases spared with nothing | stops
    · have revoked := nothing row selected
      rw [active] at revoked
      cases revoked
    · exact absurd stops proceeds

theorem SessionClosed.revoked (ends : SessionClosed env failure jwt refreshToken before ending after)
    (harmless : ¬ FailsListed env failure jwt refreshToken before) :
    ending = some (.ok .noContent) ∧ RowRevoked env jwt.claims.sub refreshToken before after := by
  cases ends with
  | broken failed struck rows => exact absurd struck harmless
  | closed ended audited rows =>
    refine ⟨ended, ?_⟩
    rcases rows with ⟨kept, nothing⟩ | ⟨_, revokes⟩
    · exact nothing.revoked kept
    · exact revokes.revoked

theorem logout_kept_atomic (unlisted : ¬ Listed jwt before) {limit : Nat}
    (spared : LogoutSpared env failure jwt refreshToken limit before)
    (disrupted : Disrupted env failure (fun _ => True) (logout env (some (.signed jwt)) refreshToken)
      before ending after)
    (within : after.clock ≤ limit) : LogoutAtomic env jwt refreshToken before ending after := by
  have again : ¬ Listed jwt after → ending ≠ some (.ok .noContent) →
      jwtVerify env (.signed jwt) after.clock = .ok jwt.claims → Repeatable env jwt refreshToken after :=
    fun missing _ accepted => logout_resolves env refreshToken accepted missing
  have neither : SameJtis before after → after.refreshTokens = before.refreshTokens →
      LogoutAtomic env jwt refreshToken before ending after :=
    fun same kept => ⟨.inr ⟨same.unlisted unlisted, kept⟩, again (same.unlisted unlisted)⟩
  cases logout_disrupted unlisted disrupted with
  | refused failed same rows => exact neither same rows
  | listed live struck =>
    have unexpired := Nat.not_le_of_lt live
    rcases spared with ⟨_, harmless⟩ | ⟨_, expired | harmless⟩ | reads | ⟨expired, _⟩
    · exact absurd struck harmless
    · exact absurd expired unexpired
    · exact absurd struck harmless
    · unfold FailsListed at struck
      rw [reads] at struck
      exact struck.elim
    · exact absurd expired unexpired
  | closed verified listed token ends same =>
    have rowRevoked : RowRevoked env jwt.claims.sub refreshToken listed after →
        RowRevoked env jwt.claims.sub refreshToken before after := by
      unfold RowRevoked
      rw [token.rows]
      exact fun revoked => revoked
    have nothingLeft : NothingToRevoke env jwt.claims.sub refreshToken before.refreshTokens →
        NothingToRevoke env jwt.claims.sub refreshToken listed.refreshTokens := by
      rw [token.rows]
      exact fun nothing => nothing
    have harmlessThen : ¬ FailsListed env failure jwt refreshToken before →
        ¬ FailsListed env failure jwt refreshToken listed :=
      fun harmless struck => harmless (struck.earlier token.clock token.rows)
    rcases token.key with ⟨expired, unchanged⟩ | ⟨live, last, covers, held⟩
    · -- nothing is listed, so nothing may be revoked
      have unlistedStill := unchanged.trans same
      rcases spared with ⟨early, _⟩ | ⟨nothing, _⟩ | reads | ⟨_, stops⟩
      · exact absurd early (Nat.not_lt_of_le (Nat.le_trans expired (Nat.le_trans same.clock within)))
      · exact neither unlistedStill ((ends.kept (.inl (nothingLeft nothing))).trans token.rows)
      · exact absurd reads verified
      · exact neither unlistedStill ((ends.kept (.inr stops)).trans token.rows)
    · have unexpired := Nat.not_le_of_lt live
      rcases spared with ⟨early, harmless⟩ | ⟨nothing, expired | harmless⟩ | reads | ⟨expired, _⟩
      · obtain ⟨ended, revoked⟩ := ends.revoked (harmlessThen harmless)
        have listedStill : Listed jwt after := by
          unfold Listed
          rw [same.keys]
          exact held _ (Nat.lt_of_le_of_lt within (Nat.lt_of_lt_of_le early covers))
        exact ⟨.inl ⟨listedStill, rowRevoked revoked⟩, fun failed => absurd ended failed⟩
      · exact absurd expired unexpired
      · obtain ⟨ended, revoked⟩ := ends.revoked (harmlessThen harmless)
        have kept := (ends.kept (.inl (nothingLeft nothing))).trans token.rows
        refine ⟨?_, fun failed => absurd ended failed⟩
        by_cases listedStill : Listed jwt after
        · exact .inl ⟨listedStill, rowRevoked revoked⟩
        · exact .inr ⟨listedStill, kept⟩
      · exact absurd reads verified
      · exact absurd expired unexpired

theorem not_repeatable (listed : Listed jwt before) : ¬ Repeatable env jwt refreshToken before := by
  rintro ⟨final, completes⟩
  rw [logout_signed] at completes
  obtain ⟨_, loaded, load, rest⟩ := Completes.bind_ok completes
  obtain ⟨_, responded⟩ := perform_responds load
  cases responded
  obtain ⟨now, read, reading, rest⟩ := Completes.bind_ok rest
  obtain ⟨rfl, rfl⟩ := dateNow_alone reading
  split at rest
  · cases (completes_done.mp rest).1
  · cases (completes_done.mp rest).1
  rename_i claims verified
  obtain ⟨other, same, rfl, _⟩ := jwtVerify_ok verified
  cases same
  obtain ⟨value, looked, look, rest⟩ := Completes.bind_ok rest
  obtain ⟨_, responded⟩ := perform_responds look
  cases responded
  rw [if_pos (Option.isSome_iff_ne_none.mpr listed)] at rest
  cases (completes_done.mp rest).1

theorem closeRow_prompt (sub tokenHash : String) (row : RefreshTokenRow) :
    (closeRow sub tokenHash row).Uses Prompt := by
  have mirror := (cacheRefreshTokenRevocation_uses tokenHash row.expiresAt).weaken
    fun _ mirrors => mirrors.incidental.routine.prompt
  have audit := (writeAuditEvent_routine (logoutAudit sub)).weaken fun _ routine => routine.prompt
  exact Program.Uses.bind (perform_uses trivial) fun _ => Program.Uses.bind (perform_uses trivial) fun _ =>
    mirror.bind fun _ => audit.bind fun _ => trivial

theorem closeSession_prompt (sub : String) (refreshToken : Option String) :
    (closeSession env sub refreshToken).Uses Prompt :=
  (closeSession_routine sub refreshToken).weaken fun _ routine => routine.prompt

theorem SparesRow.fails {jwt : SignedJwt} (spares : SparesRow failure refreshToken)
    (active : ¬ NothingToRevoke env jwt.claims.sub refreshToken before.refreshTokens) :
    FailsListed env failure jwt refreshToken before := by
  unfold SparesRow at spares
  unfold FailsListed
  split at spares
  · rename_i statement
    rw [statement]
    exact spares
  · rename_i statement
    rw [statement]
    exact spares
  · rename_i statement
    rw [statement]
    by_contra none_active
    refine active fun row selected => ?_
    by_contra unrevoked
    exact none_active ⟨row, selected, by simpa using unrevoked⟩
  · exact spares.elim

theorem closeSession_selects {sub : String} {row : RefreshTokenRow}
    (selected : LogoutRow env sub refreshToken before.refreshTokens row) (active : row.revokedAt = none)
    (reads : failure.statement ≠ .selectRefreshTokenByHash ∧ failure.statement ≠ .selectLatestActiveByUser)
    (rest : Disrupted env failure Still (closeRow sub row.tokenHash row) before ending after) :
    Disrupted env failure Still (closeSession env sub refreshToken) before ending after := by
  unfold LogoutRow at selected
  cases given : truthy refreshToken with
  | some token =>
    rw [given] at selected
    have hash : row.tokenHash = env.sha256Hex token := by
      have named := List.find?_some selected
      simpa using named
    have responded : respond env { random := "", pick := 0 } before
        (.selectRefreshTokenByHash (env.sha256Hex token)) = some (.ok (some row), before) := by
      simp only [respond, selected]
    rw [closeSession_token sub given]
    refine .spared rfl (fun struck => reads.1 (Option.some.inj struck).symm) responded ?_
    simp only [active, Option.isSome_none, Bool.false_eq_true, if_false]
    rw [← hash]
    exact rest
  | none =>
    rw [given] at selected
    obtain ⟨pick, place⟩ := List.getElem?_of_mem selected
    have responded : respond env { random := "", pick } before (.selectLatestActiveByUser sub) =
        some (.ok (some row), before) := by
      simp only [respond]
      split
      · rename_i none_latest
        simp only [none_latest] at selected
        cases selected
      · rename_i first others all
        simp only [all] at place
        rw [place]
        rfl
    rw [closeSession_latest sub given]
    exact .spared rfl (fun struck => reads.2 (Option.some.inj struck).symm) responded rest

theorem respond_select (env : Env) (state : GatewayState) (token : String) :
    respond env { random := "", pick := 0 } state (.selectRefreshTokenByHash (env.sha256Hex token)) =
      some (.ok (state.refreshTokens.find? (·.tokenHash = env.sha256Hex token)), state) := rfl

theorem closeSession_breaks (fails : FailsListed env failure jwt refreshToken before)
    (apart : failure.statement ≠ .redisSet (.revokedJti jwt.claims.jti)) :
    ∃ ending after, ending ≠ some (.ok .noContent) ∧
      Disrupted env failure Still (closeSession env jwt.claims.sub refreshToken) before ending after := by
  have breaks : ∀ row, LogoutRow env jwt.claims.sub refreshToken before.refreshTokens row → row.revokedAt = none →
      failure.statement ≠ .selectRefreshTokenByHash ∧ failure.statement ≠ .selectLatestActiveByUser →
      (failure.statement = .updateRevokedById ∨
        failure.statement = .redisSet (.revokedRefresh row.tokenHash) ∧ before.clock < row.expiresAt) →
      ∃ ending after, ending ≠ some (.ok .noContent) ∧
        Disrupted env failure Still (closeSession env jwt.claims.sub refreshToken) before ending after := by
    intro row selected active reads struck
    obtain ⟨ending, after, rest⟩ := Disrupted.exists_still failure
      (closeRow_prompt jwt.claims.sub row.tokenHash row) before
    refine ⟨ending, after, ?_, closeSession_selects selected active reads rest⟩
    cases closeRow_disrupted rest with
    | kept failed => exact failed
    | torn revokedAt failed => exact failed
    | closed revokedAt ended rows updated mirrored =>
      rcases struck with update | ⟨mirror, live⟩
      · exact absurd update updated
      · obtain ⟨now, read, expired⟩ := mirrored mirror
        rw [read.still] at expired
        exact absurd live (Nat.not_lt_of_le expired)
  unfold FailsListed at fails
  split at fails
  · rename_i jti statement
    exact absurd (fails.1 ▸ statement) apart
  · rename_i statement
    obtain ⟨token, given⟩ := Option.isSome_iff_exists.mp fails
    rw [closeSession_token _ given]
    have struck : failure.strikes (.selectRefreshTokenByHash (env.sha256Hex token)) := congrArg some statement.symm
    exact Disrupted.breaks Answer.noContent struck (respond_select env before token)
  · rename_i statement
    rw [closeSession_latest _ fails]
    have struck : failure.strikes (.selectLatestActiveByUser jwt.claims.sub) := congrArg some statement.symm
    obtain ⟨random, pick, possible⟩ := respond_possible env before (.selectLatestActiveByUser jwt.claims.sub) trivial
    obtain ⟨reply, after, responded⟩ := possible .none
    exact Disrupted.breaks Answer.noContent struck responded
  · rename_i statement
    obtain ⟨row, selected, active⟩ := fails
    exact breaks row selected active (by simp [statement]) (.inl statement)
  · rename_i statement
    obtain ⟨row, selected, active, rfl, live⟩ := fails
    exact breaks row selected active (by simp [statement]) (.inr ⟨statement, live⟩)
  · rename_i statement
    obtain ⟨ending, after, rest⟩ := Disrupted.exists_still failure
      (closeSession_prompt jwt.claims.sub refreshToken) before
    refine ⟨ending, after, ?_, rest⟩
    cases closeSession_disrupted rest with
    | broken failed => exact failed
    | closed ended audited => exact absurd ⟨statement, fails⟩ audited
  · exact fails.elim

theorem logout_verifies {within : Nat → Prop} (accepted : jwtVerify env (.signed jwt) before.clock = .ok jwt.claims)
    (unlisted : ¬ Listed jwt before) (spared : failure.statement ≠ .redisGet (.revokedJti jwt.claims.jti))
    (prompt : within 0) (rest : Disrupted env failure within (listAndClose env jwt.claims refreshToken)
      before ending after) :
    Disrupted env failure within (logout env (some (.signed jwt)) refreshToken) before ending after := by
  have load : respond env { random := "", pick := 0 } before .loadSigningKeys = some (.ok (), before) := rfl
  have read : respond env { random := "", pick := 0 } before .dateNow = some (.ok before.clock, before) := rfl
  have look : respond env { random := "", pick := 0 } before (.redisGet (.revokedJti jwt.claims.jti)) =
      some (.ok none, before) := by simp [respond, not_not.mp unlisted]
  rw [logout_signed]
  refine .spared prompt (fun struck => by cases struck) load (.spared prompt (fun struck => by cases struck) read ?_)
  simp only [accepted]
  exact .spared prompt (fun struck => spared (Option.some.inj struck).symm) look rest

def listedAt (jwt : SignedJwt) (state : GatewayState) : GatewayState :=
  let expiresAt := state.expiry (ttlSeconds (jwt.claims.exp * 1000) state.clock)
  { state with redis := state.redis.set (.revokedJti jwt.claims.jti) .flag expiresAt }

theorem listedAt_listed (live : before.clock < jwt.claims.exp * 1000) : Listed jwt (listedAt jwt before) := by
  have covers := ttlSeconds_covers (jwt.claims.exp * 1000) before.clock
  unfold Listed listedAt GatewayState.expiry
  rw [Store.Expiring.get_set_same, if_pos (Nat.lt_of_lt_of_le live covers)]
  exact nofun

/-- A failure after the token is listed leaves a request that cannot be repeated. -/
theorem logout_torn (accepted : jwtVerify env (.signed jwt) before.clock = .ok jwt.claims)
    (unlisted : ¬ Listed jwt before) (live : before.clock < jwt.claims.exp * 1000)
    (fails : FailsListed env failure jwt refreshToken before) :
    ∃ ending after, Disrupted env failure Still (logout env (some (.signed jwt)) refreshToken) before ending after ∧
      ending ≠ some (.ok .noContent) ∧ Listed jwt after ∧ after.clock = before.clock := by
  have unexpired : ¬ ttlSeconds (jwt.claims.exp * 1000) before.clock = 0 := fun zero =>
    absurd (ttlSeconds_zero.mp zero) (Nat.not_le_of_lt live)
  have read : respond env { random := "", pick := 0 } before .dateNow = some (.ok before.clock, before) := rfl
  have list : respond env { random := "", pick := 0 } before (.redisSet (.revokedJti jwt.claims.jti) .flag
      (ttlSeconds (jwt.claims.exp * 1000) before.clock)) = some (.ok (), listedAt jwt before) := rfl
  have verified : failure.statement ≠ .redisGet (.revokedJti jwt.claims.jti) := by
    intro statement
    unfold FailsListed at fails
    rw [statement] at fails
    exact fails
  by_cases own : failure.statement = .redisSet (.revokedJti jwt.claims.jti)
  · have effect : failure.takesEffect = true := by
      unfold FailsListed at fails
      rw [own] at fails
      exact fails.2
    have prompt : Still 0 := rfl
    have strikes : failure.strikes (.redisSet (.revokedJti jwt.claims.jti) .flag
        (ttlSeconds (jwt.claims.exp * 1000) before.clock)) := congrArg some own.symm
    obtain ⟨ending, failed, struck⟩ := Disrupted.struck
      (fun _ => closeSession env jwt.claims.sub refreshToken) prompt strikes list
    rw [effect, if_pos rfl] at struck
    refine ⟨ending, listedAt jwt before, logout_verifies accepted unlisted verified rfl ?_, failed _,
      listedAt_listed live, rfl⟩
    refine .spared rfl nofun read ?_
    rw [if_neg unexpired]
    exact struck
  · have fails' : FailsListed env failure jwt refreshToken (listedAt jwt before) := fails
    obtain ⟨ending, after, failed, rest⟩ := closeSession_breaks fails' own
    have same := rest.jtis (closeSession_spares _ _)
    have clock : after.clock = before.clock := rest.clock
    refine ⟨ending, after, logout_verifies accepted unlisted verified rfl ?_, failed, ?_, clock⟩
    · refine .spared rfl nofun read ?_
      rw [if_neg unexpired]
      exact .spared rfl (fun struck => own (Option.some.inj struck).symm) list rest
    · have listed := listedAt_listed live
      unfold Listed at listed ⊢
      rw [same.keys, clock]
      exact listed

/-- A logout may read the clock for the lifetime of its token only when that has expired. It lists nothing
    then, and goes on all the same. -/
theorem logout_late (accepted : jwtVerify env (.signed jwt) before.clock = .ok jwt.claims)
    (unlisted : ¬ Listed jwt before) (spared : failure.statement ≠ .redisGet (.revokedJti jwt.claims.jti)) :
    ∃ late ending after,
      Disrupted env failure (fun _ => True) (logout env (some (.signed jwt)) refreshToken) before ending after ∧
      late.refreshTokens = before.refreshTokens ∧ after.clock = max before.clock (jwt.claims.exp * 1000) ∧
      SameJtis before after ∧ SessionClosed env failure jwt refreshToken late ending after := by
  have always : (fun _ => True) 0 := trivial
  have wait : before.clock + (jwt.claims.exp * 1000 - before.clock) = max before.clock (jwt.claims.exp * 1000) := by
    omega
  let late := elapsed (jwt.claims.exp * 1000 - before.clock) before
  have clock : late.clock = max before.clock (jwt.claims.exp * 1000) := wait
  have expired : ttlSeconds (jwt.claims.exp * 1000) late.clock = 0 :=
    ttlSeconds_zero.mpr (clock ▸ Nat.le_max_right _ _)
  obtain ⟨ending, after, rest⟩ : ∃ ending after,
      Disrupted env failure Still (closeSession env jwt.claims.sub refreshToken) late ending after :=
    Disrupted.exists_still failure (closeSession_prompt jwt.claims.sub refreshToken) late
  have read : respond env { random := "", pick := 0 } late .dateNow = some (.ok late.clock, late) := rfl
  have disrupted : Disrupted env failure (fun _ => True) (listAndClose env jwt.claims refreshToken) before
      ending after := by
    refine .waits (jwt.claims.exp * 1000 - before.clock) trivial nofun read ?_
    rw [if_pos expired]
    exact rest.weaken fun _ _ good => ⟨trivial, good.2⟩
  have same := rest.jtis (closeSession_spares _ _)
  refine ⟨late, ending, after, logout_verifies accepted unlisted spared always disrupted, rfl,
    rest.clock.trans clock, ?_, closeSession_disrupted rest⟩
  exact (SameJtis.elapsed before _).trans same

theorem logout_halved (accepted : jwtVerify env (.signed jwt) before.clock = .ok jwt.claims)
    (unlisted : ¬ Listed jwt before) (spared : failure.statement ≠ .redisGet (.revokedJti jwt.claims.jti))
    (active : ¬ NothingToRevoke env jwt.claims.sub refreshToken before.refreshTokens)
    (reaches : ¬ SparesRow failure refreshToken) :
    ∃ ending after,
      Disrupted env failure (fun _ => True) (logout env (some (.signed jwt)) refreshToken) before ending after ∧
      after.clock = max before.clock (jwt.claims.exp * 1000) ∧ ¬ Listed jwt after ∧
      after.refreshTokens ≠ before.refreshTokens := by
  obtain ⟨late, ending, after, disrupted, rows, clock, same, closed⟩ := logout_late accepted unlisted spared
  refine ⟨ending, after, disrupted, clock, same.unlisted unlisted, ?_⟩
  have revokes : RevokesRow env jwt.claims.sub refreshToken late after := by
    cases closed with
    | broken _ _ closed =>
      rcases closed with ⟨_, nothing | spares⟩ | ⟨_, revokes⟩
      · exact absurd (rows ▸ nothing) active
      · exact absurd spares reaches
      · exact revokes
    | closed _ _ closed =>
      rcases closed with ⟨_, nothing⟩ | ⟨_, revokes⟩
      · exact absurd (rows ▸ nothing) active
      · exact revokes
  exact rows ▸ revokes.changes

end Law

/-- Every failure of one statement leaves a logout atomic that ends by `limit`, and a failed one can be
    repeated, if and only if it is one of the failures that spare the logout. -/
theorem logout_atomic (env : Env) (jwt : SignedJwt) (refreshToken : Option String) (failure : Failure)
    (before : GatewayState) (limit : Nat) (accepted : jwtVerify env (.signed jwt) before.clock = .ok jwt.claims)
    (unlisted : ¬ Listed jwt before) (started : before.clock ≤ limit) :
    (∀ ending after,
      Disrupted env failure (fun _ => True) (logout env (some (.signed jwt)) refreshToken) before ending after →
      after.clock ≤ limit → LogoutAtomic env jwt refreshToken before ending after) ↔
    LogoutSpared env failure jwt refreshToken limit before := by
  constructor
  · intro always
    have harmless : before.clock < jwt.claims.exp * 1000 → ¬ FailsListed env failure jwt refreshToken before := by
      intro live fails
      obtain ⟨ending, after, disrupted, failed, listed, clock⟩ := logout_torn accepted unlisted live fails
      have atomic := always ending after (disrupted.weaken fun _ _ good => ⟨trivial, good.2⟩) (clock ▸ started)
      exact not_repeatable listed (atomic.repeatable failed (clock ▸ accepted))
    by_contra torn
    unfold LogoutSpared at torn
    simp only [not_or, not_and] at torn
    obtain ⟨early, active, verified, reaches⟩ := torn
    have stops : jwt.claims.exp * 1000 ≤ limit := by
      by_contra ends
      have live := Nat.lt_of_le_of_lt started (Nat.lt_of_not_le ends)
      exact early (Nat.lt_of_not_le ends) (harmless live)
    have remains : ¬ NothingToRevoke env jwt.claims.sub refreshToken before.refreshTokens := by
      intro nothing
      have ⟨live, fails⟩ := active nothing
      exact fails (harmless (Nat.lt_of_not_le live))
    have changes : ¬ SparesRow failure refreshToken := by
      intro spares
      have fails := spares.fails remains
      exact reaches (Nat.le_of_not_lt fun live => harmless live fails) spares
    obtain ⟨ending, after, disrupted, clock, unlistedStill, changed⟩ :=
      logout_halved accepted unlisted verified remains changes
    have atomic := always ending after disrupted (clock ▸ Nat.max_le.mpr ⟨started, stops⟩)
    rcases atomic.whole with ⟨listed, _⟩ | ⟨_, same⟩
    · exact unlistedStill listed
    · exact changed same
  · intro spared ending after disrupted within
    exact logout_kept_atomic unlisted spared disrupted within

theorem loggedIn_reached : ∃ config row, HandlersReachable sampleEnv System.anyStep config ∧
    jwtVerify sampleEnv (.signed sampleToken) config.state.clock = .ok sampleToken.claims ∧
    ¬ Listed sampleToken config.state ∧ config.state.clock ≤ 1000 ∧
    LogoutRow sampleEnv sampleToken.claims.sub none config.state.refreshTokens row ∧ row.revokedAt = none := by
  have passed : ((handlers sampleEnv).run oneSession (freshGateway 0 [sampleUser "u" "u@example.com"])).any
      (fun config => decide (jwtVerify sampleEnv (.signed sampleToken) config.state.clock = .ok sampleToken.claims) &&
        decide (config.state.redis.get config.state.clock (.revokedJti sampleToken.claims.jti) = none) &&
        decide (config.state.clock ≤ 1000) &&
        (latestOfUser config.state.refreshTokens sampleToken.claims.sub).any (·.revokedAt = none)) = true := by decide
  obtain ⟨config, reached, checked⟩ := Reaches.of_check passed
  simp only [Bool.and_eq_true, decide_eq_true_eq, List.any_eq_true] at checked
  obtain ⟨⟨⟨accepted, absent⟩, early⟩, row, latest, active⟩ := checked
  exact ⟨config, row, ⟨_, _, reached⟩, accepted, not_not.mpr absent, early, latest, active⟩

theorem logout_survives_lost_audit : ∃ config, HandlersReachable sampleEnv System.anyStep config ∧
    ∀ ending after, Disrupted sampleEnv ⟨.insertAuditLog, false, false⟩ (fun _ => True)
      (logout sampleEnv (some (.signed sampleToken)) none) config.state ending after → after.clock ≤ 1000 →
      LogoutAtomic sampleEnv sampleToken none config.state ending after := by
  obtain ⟨config, row, reachable, accepted, unlisted, early, _⟩ := loggedIn_reached
  refine ⟨config, reachable, ?_⟩
  apply (logout_atomic sampleEnv sampleToken none _ config.state 1000 accepted unlisted early).mpr
  exact .inl ⟨by decide, by simp [FailsListed]⟩

theorem logout_torn_by_lost_update : ∃ config ending after, HandlersReachable sampleEnv System.anyStep config ∧
    jwtVerify sampleEnv (.signed sampleToken) config.state.clock = .ok sampleToken.claims ∧
    Disrupted sampleEnv ⟨.updateRevokedById, false, false⟩ (fun _ => True)
      (logout sampleEnv (some (.signed sampleToken)) none) config.state ending after ∧
    Listed sampleToken after ∧ ¬ Repeatable sampleEnv sampleToken none after ∧
    ¬ LogoutAtomic sampleEnv sampleToken none config.state ending after := by
  obtain ⟨config, row, reachable, accepted, unlisted, early, selected, active⟩ := loggedIn_reached
  have live : config.state.clock < sampleToken.claims.exp * 1000 := Nat.lt_of_le_of_lt early (by decide)
  have fails : FailsListed sampleEnv ⟨.updateRevokedById, false, false⟩ sampleToken none config.state :=
    ⟨row, selected, active⟩
  obtain ⟨ending, after, disrupted, failed, listed, clock⟩ := logout_torn accepted unlisted live fails
  refine ⟨config, ending, after, reachable, accepted, disrupted.weaken fun _ _ good => ⟨trivial, good.2⟩, listed,
    not_repeatable listed, fun atomic => ?_⟩
  exact not_repeatable listed (atomic.repeatable failed (clock ▸ accepted))

end GatewayProof
