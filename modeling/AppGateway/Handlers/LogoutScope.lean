import AppGateway.Async.Execution
import AppGateway.Handlers.Provenance
import AppGateway.Sessions.SerialLaw

namespace GatewayProof

open Async GatewayModel
open Async.Program (Completes completes_done completes_perform)
open Async.System (Reaches)

def execLater (env : Env) (effect : Effect) (choice : Nat × Choice) (state : GatewayState) :
    Option (Except Thrown effect.Reply × GatewayState) :=
  exec env effect choice.2 (external (.elapse choice.1) state)

def LogsOut (env : Env) (accessToken : SignedJwt) : GatewayState → GatewayState → Prop := fun before after =>
  Completes (execLater env) (fun _ => True) (logout env (some (.signed accessToken)) none) before
    (.ok .noContent) after

/-- An answer held this access token together with a refresh token of this family. -/
def IssuedTogether (env : Env) (config : HandlerConfig) (accessToken : SignedJwt) (sessionFamily : String) : Prop :=
  ∃ thread ∈ config.threads, ∃ body, thread.answered (.ok (.tokens body)) ∧ body.access_token = accessToken ∧
    ∃ row ∈ config.state.refreshTokens, row.tokenHash = env.sha256Hex body.refresh_token ∧
      row.sessionFamily = sessionFamily

/-- The family is over and every other row is as it was. -/
structure EndsSession (sessionFamily : String) (before after : GatewayState) : Prop where
  ended : ∀ row ∈ after.refreshTokens, row.sessionFamily = sessionFamily → row.revokedAt.isSome
  others : after.refreshTokens.filter (fun row => row.sessionFamily ≠ sessionFamily) =
    before.refreshTokens.filter fun row => row.sessionFamily ≠ sessionFamily

/-- Every row that counts as the user's latest is the one un-revoked row of the family. -/
def LatestIsOwn (rows : List RefreshTokenRow) (userId sessionFamily : String) : Prop :=
  ∀ row ∈ latestOfUser rows userId, row.sessionFamily = sessionFamily ∧
    ∀ other ∈ rows, other.sessionFamily = sessionFamily → other.revokedAt = none → other = row

def KeepsRows : Effect → Prop
  | .updateRevokedById .. | .updateRevokedByFamily .. | .insertRefreshToken _ => False
  | _ => True

theorem Incidental.keepsRows {effect : Effect} (incidental : Incidental effect) : KeepsRows effect := by
  cases effect <;> trivial

theorem Marks.keepsRows {effect : Effect} (marks : Marks effect) : KeepsRows effect := by
  cases effect <;> trivial

theorem ListsJti.keepsRows {effect : Effect} (lists : ListsJti effect) : KeepsRows effect := by
  cases effect <;> trivial

theorem Polls.keepsRows {effect : Effect} (polls : Polls effect) : KeepsRows effect := by
  cases effect <;> trivial

theorem Passive.keepsRows {effect : Effect} (passive : Passive effect) : KeepsRows effect := by
  cases effect <;> trivial

theorem TableStep.keeps_rows {before after : GatewayState} {effect : Effect}
    (step : TableStep before after effect) (keeps : KeepsRows effect) :
    after.refreshTokens = before.refreshTokens := by
  cases step with
  | keep _ rows => exact rows
  | revokeById => exact keeps.elim
  | revokeByFamily => exact keeps.elim
  | insert => exact keeps.elim

section Executions

variable {env : Env} {before after : GatewayState}

theorem rows_later {α : Type} {program : Gateway α} {outcome : Except Thrown α} {sound : Nat × Choice → Prop}
    (completes : Completes (execLater env) sound program before outcome after)
    (uses : program.Uses KeepsRows) : after.refreshTokens = before.refreshTokens := by
  apply completes.invariant uses
  · rfl
  · intro effect choice reply start later keeps same executed
    have step : TableStep (external (.elapse choice.1) start) later effect := exec_tableStep executed
    exact (step.keeps_rows keeps).trans same

theorem incidental_later {α : Type} {program : Gateway α} {outcome : Except Thrown α} {sound : Nat × Choice → Prop}
    (completes : Completes (execLater env) sound program before outcome after)
    (uses : program.Uses Incidental) : after.refreshTokens = before.refreshTokens :=
  rows_later completes (uses.weaken fun _ incidental => incidental.keepsRows)

theorem passive_later {α : Type} {program : Gateway α} {outcome : Except Thrown α} {sound : Nat × Choice → Prop}
    (completes : Completes (execLater env) sound program before outcome after)
    (uses : program.Uses Passive) : after.refreshTokens = before.refreshTokens :=
  rows_later completes (uses.weaken fun _ passive => passive.keepsRows)

theorem verifyAccessToken_claims {sound : Nat × Choice → Prop} {jwt : SignedJwt} {claims : JwtAccessTokenClaims}
    (completes : Completes (execLater env) sound (verifyAccessToken env (.signed jwt)) before
      (.ok (.ok claims)) after) : claims = jwt.claims := by
  obtain ⟨_, loaded, _, rest⟩ := Completes.bind_ok completes
  obtain ⟨now, read, _, rest⟩ := Completes.bind_ok rest
  split at rest
  · obtain ⟨answered, _⟩ := completes_done.mp rest
    cases answered
  · obtain ⟨answered, _⟩ := completes_done.mp rest
    cases answered
  · rename_i payload accepted
    obtain ⟨revoked, looked, _, rest⟩ := Completes.bind_ok rest
    obtain ⟨other, same, payload_claims, _⟩ := jwtVerify_ok accepted
    cases same
    cases revoked with
    | true =>
      obtain ⟨answered, _⟩ := completes_done.mp rest
      cases answered
    | false =>
      obtain ⟨answered, _⟩ := completes_done.mp rest
      cases answered
      exact payload_claims

theorem revokeToken_keepsRows (jti : String) (expiresAt : Nat) : (revokeToken jti expiresAt).Uses KeepsRows :=
  (revokeToken_uses jti expiresAt).weaken fun _ lists => lists.keepsRows

theorem revokeRow_later {id reason tokenHash : String} {expiresAt : Nat}
    (completes : Completes (execLater env) (fun _ => True)
      (Gateway.dateNow >>= fun now => Gateway.updateRevokedById id now reason >>= fun _ =>
        cacheRefreshTokenRevocation tokenHash expiresAt) before (.ok ()) after) :
    ∃ revokedAt, after.refreshTokens = setRevoked before.refreshTokens (·.id = id) revokedAt reason := by
  obtain ⟨now, read, reading, rest⟩ := Completes.bind_ok completes
  obtain ⟨_, updated, update, rest⟩ := Completes.bind_ok rest
  obtain ⟨choice, _, executed⟩ := completes_perform.mp update
  cases exec_ok executed
  have unread := rows_later reading (perform_uses trivial)
  have mirrored := incidental_later rest (cacheRefreshTokenRevocation_incidental _ _)
  refine ⟨now, mirrored.trans ?_⟩
  rw [← unread]
  rfl

theorem revokeMostRecent_later {userId reason : String}
    (completes : Completes (execLater env) (fun _ => True)
      (revokeMostRecentRefreshTokenForUser userId reason) before (.ok ()) after) :
    (latestOfUser before.refreshTokens userId = [] ∧ after.refreshTokens = before.refreshTokens) ∨
    ∃ row ∈ latestOfUser before.refreshTokens userId, ∃ revokedAt,
      after.refreshTokens = setRevoked before.refreshTokens (·.id = row.id) revokedAt reason := by
  obtain ⟨found, selected, select, rest⟩ := Completes.bind_ok completes
  have unchanged := rows_later select (perform_uses trivial)
  obtain ⟨choice, _, executed⟩ := completes_perform.mp select
  have responded := exec_ok executed
  have present : (external (.elapse choice.1) before).refreshTokens = before.refreshTokens := rfl
  simp only [respond, present] at responded
  split at responded
  · rename_i none_latest
    cases responded
    obtain ⟨_, rfl⟩ := completes_done.mp rest
    exact .inl ⟨none_latest, rfl⟩
  · rename_i row rows latest
    obtain ⟨picked, pick, same⟩ := Option.map_eq_some_iff.mp responded
    cases same
    have member : picked ∈ latestOfUser before.refreshTokens userId := by
      rw [latest]
      exact List.mem_of_getElem? pick
    obtain ⟨revokedAt, revoked⟩ := revokeRow_later rest
    exact .inr ⟨picked, member, revokedAt, revoked⟩

theorem LogsOut.rows {accessToken : SignedJwt} (logsOut : LogsOut env accessToken before after) :
    (latestOfUser before.refreshTokens accessToken.claims.sub = [] ∧ after.refreshTokens = before.refreshTokens) ∨
    ∃ row ∈ latestOfUser before.refreshTokens accessToken.claims.sub, ∃ revokedAt,
      after.refreshTokens = setRevoked before.refreshTokens (·.id = row.id) revokedAt "logout" := by
  obtain ⟨verified, checked, verify, rest⟩ := Completes.bind_ok logsOut
  have unchanged := passive_later verify (verifyAccessToken_passive env _)
  cases verified with
  | error error =>
    obtain ⟨answered, _⟩ := completes_done.mp rest
    cases answered
  | ok auth =>
    obtain rfl : auth = accessToken.claims := verifyAccessToken_claims verify
    obtain ⟨_, listed, list, rest⟩ := Completes.bind_ok rest
    have unlisted := rows_later list (revokeToken_keepsRows _ _)
    obtain ⟨_, revoked, revoke, rest⟩ := Completes.bind_ok rest
    obtain ⟨_, audited, audit, rest⟩ := Completes.bind_ok rest
    have unaudited := incidental_later audit (writeAuditEvent_incidental _)
    obtain ⟨_, rfl⟩ := completes_done.mp rest
    have same : listed.refreshTokens = before.refreshTokens := unlisted.trans unchanged
    have effect := revokeMostRecent_later revoke
    rw [same] at effect
    rw [unaudited]
    exact effect

theorem latestOfUser_active {rows : List RefreshTokenRow} {userId : String} {row : RefreshTokenRow}
    (latest : row ∈ latestOfUser rows userId) : row ∈ rows ∧ row.userId = userId ∧ row.revokedAt = none := by
  have active := List.mem_of_mem_filter latest
  simpa [activeOfUser] using active

theorem revokeMostRecent_picks (reason : String) {userId : String} {row : RefreshTokenRow}
    (latest : row ∈ latestOfUser before.refreshTokens userId) :
    ∃ after, Alone env (revokeMostRecentRefreshTokenForUser userId reason) before (.ok ()) after ∧
      after.refreshTokens = setRevoked before.refreshTokens (·.id = row.id) before.clock reason := by
  obtain ⟨pick, place⟩ := List.getElem?_of_mem latest
  have responded : respond env { pick } before (.selectLatestActiveByUser userId) =
      some (.ok (some row), before) := by
    simp only [respond]
    split
    · rename_i none_latest
      rw [none_latest] at latest
      cases latest
    · rename_i first others all
      rw [all] at place
      rw [place]
      rfl
  have select : Alone env (Gateway.selectLatestActiveByUser userId) before (.ok (some row)) before :=
    perform_alone { pick } rfl responded
  have read : Alone env Gateway.dateNow before (.ok before.clock) before := perform_alone {} rfl rfl
  have update : Alone env (Gateway.updateRevokedById row.id before.clock reason) before (.ok ())
      (before.updateRevoked (·.id = row.id) before.clock reason) := perform_alone {} rfl rfl
  obtain ⟨after, mirror⟩ := cacheRefreshTokenRevocation_resolves env row.tokenHash row.expiresAt
    (before.updateRevoked (·.id = row.id) before.clock reason)
  have untouched := cacheRefreshTokenRevocation_alone mirror
  exact ⟨after, select.bind (read.bind (update.bind mirror)), untouched.rows⟩

theorem Alone.later {α : Type} {program : Gateway α} {outcome : Except Thrown α}
    (completes : Alone env program before outcome after) :
    Completes (execLater env) (fun _ => True) program before outcome after :=
  completes.lift (fun choice => (0, choice)) (fun _ _ _ _ executed => executed) fun _ _ => trivial

theorem LogsOut.picks {accessToken : SignedJwt} (logsOut : LogsOut env accessToken before after)
    {row : RefreshTokenRow} (latest : row ∈ latestOfUser before.refreshTokens accessToken.claims.sub) :
    ∃ last revokedAt, LogsOut env accessToken before last ∧
      last.refreshTokens = setRevoked before.refreshTokens (·.id = row.id) revokedAt "logout" := by
  obtain ⟨verified, checked, verify, rest⟩ := Completes.bind_ok logsOut
  have unchanged := passive_later verify (verifyAccessToken_passive env _)
  cases verified with
  | error error =>
    obtain ⟨answered, _⟩ := completes_done.mp rest
    cases answered
  | ok auth =>
    obtain rfl : auth = accessToken.claims := verifyAccessToken_claims verify
    obtain ⟨_, listed, list, rest⟩ := Completes.bind_ok rest
    have same : listed.refreshTokens = before.refreshTokens :=
      (rows_later list (revokeToken_keepsRows _ _)).trans unchanged
    rw [← same] at latest
    obtain ⟨revoked, revoke, rows⟩ := @revokeMostRecent_picks env _ "logout" _ _ latest
    obtain ⟨last, audit⟩ := writeAuditEvent_resolves env
      { event_type := "auth.logout", user_id := accessToken.claims.sub, resource := "/v1/auth/logout"
        outcome := .success } revoked
    have unaudited := incidental_alone audit (writeAuditEvent_incidental _)
    refine ⟨last, listed.clock, ?_, ?_⟩
    · exact verify.bind (list.bind (revoke.later.bind (audit.later.bind (.done _ _))))
    · rw [unaudited.rows, rows, same]

end Executions

section Scope

variable {env : Env} {config : HandlerConfig} {accessToken : SignedJwt} {sessionFamily : String}

theorem produced_sub (valid : HandlersValid env config) {thread : HandlerThread}
    (member : thread ∈ config.threads) {tokenHash refreshToken : String}
    (produced : Produced env tokenHash thread.past accessToken refreshToken) {row : RefreshTokenRow}
    (stored : row ∈ config.state.refreshTokens) (hash : row.tokenHash = env.sha256Hex refreshToken) :
    row.userId = accessToken.claims.sub := by
  obtain ⟨consumed, values, user, _, _, _, inserted, same, _, owner, read, sub, _⟩ := produced
  have knows := (valid.2 thread member).2
  obtain ⟨id, issuedAt, other, held, version⟩ := knows.inserted values inserted
  have sameHash : row.tokenHash = other.tokenHash := hash.trans (same.symm.trans version.tokenHash.symm)
  obtain rfl := valid.1.same_hash stored held sameHash
  have forUser : row.userId = values.userId := version.userId
  rw [forUser, owner, sub, knows.user _ _ read]

theorem login_sub (valid : HandlersValid env config) {thread : HandlerThread} (member : thread ∈ config.threads)
    {body : TokenResponse} (ended : LoginEnds env thread.past (.ok (.tokens body))) {row : RefreshTokenRow}
    (stored : row ∈ config.state.refreshTokens) (hash : row.tokenHash = env.sha256Hex body.refresh_token) :
    row.userId = body.access_token.claims.sub := by
  obtain ⟨values, inserted, same, owner⟩ := ended
  obtain ⟨id, issuedAt, other, held, version⟩ := (valid.2 thread member).2.inserted values inserted
  have sameHash : row.tokenHash = other.tokenHash := hash.trans (same.symm.trans version.tokenHash.symm)
  obtain rfl := valid.1.same_hash stored held sameHash
  exact version.userId.trans owner

theorem IssuedTogether.sub (together : IssuedTogether env config accessToken sessionFamily)
    (reachable : HandlersReachable env System.anyStep config) {row : RefreshTokenRow}
    (member : row ∈ config.state.refreshTokens) (family : row.sessionFamily = sessionFamily) :
    row.userId = accessToken.claims.sub := by
  have valid := handlers_valid reachable
  obtain ⟨thread, present, body, answered, rfl, first, stored, hash, inFamily⟩ := together
  have owner : first.userId = body.access_token.claims.sub := by
    have ended := (valid.2 thread present).1.ended answered
    cases call : thread.call with
    | login client email password =>
      rw [call] at ended
      exact login_sub valid present ended stored hash
    | logout bearer refreshToken =>
      rw [call] at ended
      exact absurd rfl (ended body)
    | refresh client refreshToken idempotencyKey =>
      rw [call] at ended
      rcases ended with produced | ⟨result, seen, _, access, refresh⟩
      · exact produced_sub valid present produced stored hash
      · obtain ⟨writer, held, written⟩ := reachable.slots.seen thread present result seen
        obtain ⟨other, _, _, produced⟩ := stored_produced valid held written
        rw [access]
        exact produced_sub valid held produced stored (refresh ▸ hash)
  have lineage := handlers_lineage reachable
  rw [← owner]
  exact lineage.same_user (handlers_lineal env) valid member stored (family.trans inFamily.symm)

theorem setRevoked_endsSession {rows : List RefreshTokenRow} {row : RefreshTokenRow} {revokedAt : Nat}
    {before after : GatewayState} (start : before.refreshTokens = rows)
    (revoked : after.refreshTokens = setRevoked rows (·.id = row.id) revokedAt "logout")
    (ids : ∀ other ∈ rows, other.id = row.id → other = row) (own : row.sessionFamily = sessionFamily)
    (last : ∀ other ∈ rows, other.sessionFamily = sessionFamily → other.revokedAt = none → other = row) :
    EndsSession sessionFamily before after := by
  constructor
  · intro later member family
    rw [revoked] at member
    obtain ⟨other, held, rfl⟩ := mem_setRevoked.mp member
    by_cases same : other.id = row.id
    · simp [same]
    · simp only [same, decide_false] at family ⊢
      by_contra active
      exact same (congrArg (·.id) (last other held family (by simpa using active)))
  · rw [revoked, start]
    have others : ∀ other ∈ rows, ¬ other.sessionFamily = sessionFamily → ¬ other.id = row.id := by
      intro other held different same
      exact different (ids other held same ▸ own)
    clear start revoked ids last
    induction rows with
    | nil => rfl
    | cons other rows ih =>
      have rest := ih fun another held => others another (List.mem_cons_of_mem _ held)
      have head := others other (List.mem_cons_self ..)
      simp only [setRevoked, List.map_cons, List.filter_cons] at rest ⊢
      by_cases same : other.id = row.id
      · have inFamily : other.sessionFamily = sessionFamily := by_contra fun different => head different same
        simpa [same, inFamily] using rest
      · simp only [same, decide_false, rest]
        rfl

theorem EndsSession.own {rows : List RefreshTokenRow} {row : RefreshTokenRow} {revokedAt : Nat}
    {before after : GatewayState} (ends : EndsSession sessionFamily before after)
    (start : before.refreshTokens = rows) (stored : row ∈ rows) (active : row.revokedAt = none)
    (revoked : after.refreshTokens = setRevoked rows (·.id = row.id) revokedAt "logout") :
    row.sessionFamily = sessionFamily := by
  by_contra different
  have kept : row ∈ after.refreshTokens.filter fun other => other.sessionFamily ≠ sessionFamily := by
    rw [ends.others, start]
    exact List.mem_filter.mpr ⟨stored, by simpa using different⟩
  rw [revoked] at kept
  obtain ⟨other, held, same⟩ := mem_setRevoked.mp (List.mem_of_mem_filter kept)
  by_cases equal : other.id = row.id
  · simp only [equal, decide_true, if_true] at same
    rw [← same] at active
    cases active
  · simp only [equal, decide_false] at same
    exact equal (congrArg (·.id) same)

theorem EndsSession.last {rows : List RefreshTokenRow} {row other : RefreshTokenRow} {revokedAt : Nat}
    {before after : GatewayState} (ends : EndsSession sessionFamily before after)
    (revoked : after.refreshTokens = setRevoked rows (·.id = row.id) revokedAt "logout")
    (ids : ∀ other ∈ rows, other.id = row.id → other = row) (held : other ∈ rows)
    (family : other.sessionFamily = sessionFamily) (active : other.revokedAt = none) : other = row := by
  by_contra different
  have apart : ¬ other.id = row.id := fun same => different (ids other held same)
  have kept : other ∈ after.refreshTokens := by
    rw [revoked]
    exact mem_setRevoked.mpr ⟨other, held, by simp [apart]⟩
  have gone := ends.ended other kept family
  rw [active] at gone
  cases gone

/-- Logging out with an access token ends exactly the session it was issued with if and only if the
    user's latest row can only be the last row of that session. -/
theorem logout_ends_own_session (env : Env) (config : HandlerConfig)
    (reachable : HandlersReachable env System.anyStep config) (accessToken : SignedJwt) (sessionFamily : String)
    (together : IssuedTogether env config accessToken sessionFamily)
    (able : ∃ after, LogsOut env accessToken config.state after) :
    (∀ after, LogsOut env accessToken config.state after → EndsSession sessionFamily config.state after) ↔
      LatestIsOwn config.state.refreshTokens accessToken.claims.sub sessionFamily := by
  have valid := (handlers_valid reachable).1
  have unique : ∀ row ∈ config.state.refreshTokens, ∀ other ∈ config.state.refreshTokens,
      other.id = row.id → other = row := fun row stored other held same => valid.same_id held stored same
  constructor
  · intro ends row latest
    obtain ⟨after, loggedOut⟩ := able
    obtain ⟨stored, _, active⟩ := latestOfUser_active latest
    obtain ⟨last, revokedAt, picked, revoked⟩ := loggedOut.picks latest
    have ended := ends last picked
    refine ⟨ended.own rfl stored active revoked, fun other held family left => ?_⟩
    exact ended.last revoked (unique row stored) held family left
  · intro own after loggedOut
    rcases loggedOut.rows with ⟨nothing, same⟩ | ⟨row, latest, revokedAt, revoked⟩
    · refine ⟨fun row member family => ?_, by rw [same]⟩
      rw [same] at member
      have owner := together.sub reachable member family
      by_contra unrevoked
      have active : row.revokedAt = none := by simpa using unrevoked
      have held : row ∈ activeOfUser config.state.refreshTokens accessToken.claims.sub :=
        List.mem_filter.mpr ⟨member, by simpa using ⟨owner, active⟩⟩
      exact exists_latest (List.ne_nil_of_mem held) nothing
    · obtain ⟨stored, _, _⟩ := latestOfUser_active latest
      obtain ⟨inFamily, last⟩ := own row latest
      exact setRevoked_endsSession rfl revoked (unique row stored) inFamily last

end Scope

def answerOf (config : HandlerConfig) (index : Nat) : Option TokenResponse :=
  config.threads[index]?.bind answeredTokens

def answeredIn (env : Env) (config : HandlerConfig) (index : Nat) (sessionFamily : String) : Bool :=
  (answerOf config index).any fun body => config.state.refreshTokens.any fun row =>
    row.tokenHash = env.sha256Hex body.refresh_token && row.sessionFamily = sessionFamily

def logOutOf (env : Env) (config : HandlerConfig) (index : Nat) : Option (Except Thrown Answer × GatewayState) :=
  (answerOf config index).bind fun body =>
    Program.evaluate (execLater env) (List.replicate 11 (0, {}))
      (logout env (some (.signed body.access_token)) none) config.state

theorem answeredIn_together {env : Env} {config : HandlerConfig} {index : Nat} {sessionFamily : String}
    (answered : answeredIn env config index sessionFamily = true) :
    ∃ body, answerOf config index = some body ∧ IssuedTogether env config body.access_token sessionFamily := by
  simp only [answeredIn, Option.any_eq_true, List.any_eq_true, Bool.and_eq_true, decide_eq_true_eq] at answered
  obtain ⟨body, answer, row, stored, hash, family⟩ := answered
  obtain ⟨thread, found, tokens⟩ := Option.bind_eq_some_iff.mp answer
  exact ⟨body, answer, thread, List.mem_of_getElem? found, body, answeredTokens_spec tokens, rfl, row, stored, hash,
    family⟩

def twoSessions : List HandlerLabel :=
  logIn 0 "j0" "f" "t0" "r0" ++ [.external (.elapse 1000)] ++ logIn 1 "j1" "g" "t1" "r1"

theorem twoSessions_logout {index : Nat} {sessionFamily : String}
    {check : String → GatewayState → GatewayState → Bool}
    (passed : ((handlers sampleEnv).run twoSessions (freshGateway 0 [sampleUser "u" "u@example.com"])).any
      (fun config => answeredIn sampleEnv config index sessionFamily && (answerOf config index).any fun body =>
        (logOutOf sampleEnv config index).any fun ended =>
          decide (ended.1 = .ok .noContent) && check body.access_token.claims.sub config.state ended.2) = true) :
    ∃ config accessToken after, HandlersReachable sampleEnv System.anyStep config ∧
      IssuedTogether sampleEnv config accessToken sessionFamily ∧
      LogsOut sampleEnv accessToken config.state after ∧
      check accessToken.claims.sub config.state after = true := by
  obtain ⟨config, reached, checked⟩ := Reaches.of_check passed
  simp only [Bool.and_eq_true, Option.any_eq_true, decide_eq_true_eq] at checked
  obtain ⟨answered, body, answer, ⟨outcome, after⟩, evaluated, rfl, holds⟩ := checked
  obtain ⟨other, same, together⟩ := answeredIn_together answered
  obtain rfl := Option.some.inj (answer.symm.trans same)
  rw [logOutOf, answer] at evaluated
  exact ⟨config, body.access_token, after, ⟨_, _, reached⟩, together,
    Completes.of_evaluate (fun _ _ => trivial) evaluated, holds⟩

instance (sessionFamily : String) (before after : GatewayState) : Decidable (EndsSession sessionFamily before after) :=
  decidable_of_iff
    ((∀ row ∈ after.refreshTokens, row.sessionFamily = sessionFamily → row.revokedAt.isSome) ∧
      after.refreshTokens.filter (fun row => row.sessionFamily ≠ sessionFamily) =
        before.refreshTokens.filter fun row => row.sessionFamily ≠ sessionFamily)
    ⟨fun ⟨ended, others⟩ => ⟨ended, others⟩, fun ends => ⟨ends.ended, ends.others⟩⟩

instance (rows : List RefreshTokenRow) (userId sessionFamily : String) :
    Decidable (LatestIsOwn rows userId sessionFamily) :=
  inferInstanceAs (Decidable (∀ row ∈ latestOfUser rows userId, row.sessionFamily = sessionFamily ∧
    ∀ other ∈ rows, other.sessionFamily = sessionFamily → other.revokedAt = none → other = row))

theorem logout_ends_latest_session : ∃ config accessToken,
    HandlersReachable sampleEnv System.anyStep config ∧ IssuedTogether sampleEnv config accessToken "g" ∧
    (∃ after, LogsOut sampleEnv accessToken config.state after) ∧
    ∀ after, LogsOut sampleEnv accessToken config.state after → EndsSession "g" config.state after := by
  obtain ⟨config, accessToken, after, reachable, together, loggedOut, own⟩ :=
    @twoSessions_logout 1 "g" (fun sub before _ => decide (LatestIsOwn before.refreshTokens sub "g")) (by decide)
  refine ⟨config, accessToken, reachable, together, ⟨after, loggedOut⟩, ?_⟩
  exact (logout_ends_own_session sampleEnv config reachable accessToken "g" together ⟨after, loggedOut⟩).mpr
    (of_decide_eq_true own)

/-- Logging out on the other device ends the wrong session. -/
theorem logout_ends_other_session : ∃ config accessToken after,
    HandlersReachable sampleEnv System.anyStep config ∧ IssuedTogether sampleEnv config accessToken "f" ∧
    LogsOut sampleEnv accessToken config.state after ∧ ¬ EndsSession "f" config.state after := by
  obtain ⟨config, accessToken, after, reachable, together, loggedOut, wrong⟩ :=
    @twoSessions_logout 0 "f" (fun _ before after => decide (¬ EndsSession "f" before after)) (by decide)
  exact ⟨config, accessToken, after, reachable, together, loggedOut, of_decide_eq_true wrong⟩

theorem LogsOut.reaches {env : Env} {config : HandlerConfig} {accessToken : SignedJwt} {after : GatewayState}
    (loggedOut : LogsOut env accessToken config.state after) :
    ∃ thread, Reaches (handlers env) System.anyStep config { state := after, threads := config.threads ++ [thread] } ∧
      thread.call = .logout (some (.signed accessToken)) none ∧ thread.answered (.ok .noContent) := by
  have performs : ∀ op choice before reply after, execLater env op choice before = some (reply, after) →
      ∃ events choice', (handlers env).exec op choice' ((handlers env).externals events before) =
        some (reply, after) := fun _ choice _ _ _ executed => ⟨[.elapse choice.1], choice.2, executed⟩
  have completes : Completes (execLater env) (fun _ => True)
      ((handlers env).code (.logout (some (.signed accessToken)) none)) config.state (.ok .noContent) after := loggedOut
  exact Reaches.of_completes performs completes

end GatewayProof
