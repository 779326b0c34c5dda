import AppGateway.Async.Noninterference
import AppGateway.Handlers.Provisioned
import AppGateway.Handlers.RequestBodies
import AppGateway.Handlers.TokenRevocation

namespace GatewayProof

open Async Codec GatewayModel
open Async.System (Reaches Unwinding Beside Disciplined)

section Uses

variable (env : RouterEnv)

theorem Reading.observing {effect : Effect} (reading : Reading effect) : Observing effect := by
  cases effect <;> trivial

theorem requireAccessToken_observing (bearer : Option PresentedToken) :
    (requireAccessToken env.toEnv bearer).Uses Observing :=
  (requireAccessToken_reading env.toEnv bearer).weaken fun _ reading => reading.observing

theorem findProfileById_observing (id authMethod : String) :
    (findProfileById env id authMethod).Uses Observing := by
  refine Program.Uses.bind (perform_uses trivial) fun row => ?_
  cases row with
  | none => trivial
  | some row => exact Program.Uses.bind (Program.Uses.bind (perform_uses trivial) fun _ => trivial) fun _ => trivial

theorem getMe_observing (bearer : Option PresentedToken) : (getMe env bearer).Uses Observing := by
  refine (requireAccessToken_observing env bearer).bind fun verified => ?_
  rcases verified with error | auth
  · trivial
  · refine (findProfileById_observing env _ _).bind fun profile => ?_
    cases profile <;> trivial

theorem code_observing (request : AuthRequest) (none_made : AuthRequest.isSession env request = false) :
    (AuthRequest.code env request).Uses Observing := by
  cases request with
  | login client body =>
    simp only [AuthRequest.isSession, AuthRequest.session?] at none_made
    simp only [AuthRequest.code, postLogin]
    split at none_made
    · cases none_made
    · rename_i error refused
      simp only [refused]
      trivial
  | refresh client body =>
    simp only [AuthRequest.isSession, AuthRequest.session?] at none_made
    simp only [AuthRequest.code, postRefresh]
    split at none_made
    · cases none_made
    · rename_i error refused
      simp only [refused]
      trivial
  | logout bearer body =>
    simp only [AuthRequest.isSession, AuthRequest.session?] at none_made
    simp only [AuthRequest.code, postLogout]
    split at none_made
    · cases none_made
    · rename_i error refused
      refine (requireAccessToken_observing env bearer).bind fun verified => ?_
      rcases verified with denied | auth
      · trivial
      · simp only [refused]
        trivial
  | me bearer => exact getMe_observing env bearer
  | jwks => exact Program.Uses.bind (perform_uses trivial) fun _ => trivial

end Uses

section Simulation

variable {env : RouterEnv}

def Touched (env : RouterEnv) (request : AuthRequest) (effect : Effect) : Prop :=
  AuthRequest.isSession env request = false → Observing effect

theorem router_unwinding (env : RouterEnv) :
    Unwinding (authRouter env) (AuthRequest.isSession env) (Touched env) Eq where
  uses := by
    intro request
    by_cases session : AuthRequest.isSession env request = true
    · refine (uses_anything _).weaken fun _ _ other => ?_
      rw [session] at other
      cases other
    · have none_made : AuthRequest.isSession env request = false := by simpa using session
      exact (code_observing env request none_made).weaken fun _ observing _ => observing
  refl := fun _ => rfl
  kept := by
    rintro request effect choice first _ reply after _ _ rfl executed
    exact ⟨after, executed, rfl⟩
  dropped := by
    rintro request effect choice first _ reply after none_made touched rfl executed
    exact exec_observing (touched none_made) executed
  external := by
    rintro event first _ rfl
    rfl

theorem purge_sessions {Call : Type} {keeps : Call → Bool} {made : Call} {labels : List (GatewayLabel Call)} :
    ∀ calls, Label.call made ∈ purge keeps calls labels → keeps made = true := by
  induction labels with
  | nil => exact fun _ absent => nomatch absent
  | cons label labels ih =>
    intro calls inside
    rw [purge] at inside
    rcases List.mem_append.mp inside with own | later
    · rw [Option.mem_toList] at own
      cases label with
      | call other =>
        simp only [Label.purge] at own
        split at own
        · cases own
          assumption
        · cases own
      | step index choice =>
        simp only [Label.purge] at own
        split at own <;> cases own
      | crash index =>
        simp only [Label.purge] at own
        split at own <;> cases own
      | external event => cases own
    · exact ih _ later

theorem router_realizes (env : RouterEnv) :
    (authRouter env).Realizes (handlers env.toEnv) (fun request => AuthRequest.isSession env request = true)
      (fun _ => True) (AuthRequest.session env) id id .session Eq where
  uses := fun _ _ => uses_anything _
  code := code_session env
  exec := by
    rintro effect choice state _ reply after _ rfl executed
    exact ⟨after, executed, rfl⟩
  external := by
    rintro event state _ rfl
    rfl

def sessionLabels (env : RouterEnv) (labels : List (GatewayLabel AuthRequest)) : List HandlerLabel :=
  (purge (AuthRequest.isSession env) [] labels).map (Label.under (AuthRequest.session env) id id)

/-- Whatever requests come, well formed or not: what becomes of the state, and of the requests that pass validation, is
    what becomes of it in a run of the session handlers on the validated bodies alone. -/
theorem router_sessions {clock : Nat} {users : List UserRow} {labels : List (GatewayLabel AuthRequest)}
    {after : GatewayConfig AuthRequest RouteAnswer}
    (ran : (authRouter env).run labels (freshGateway clock users) = some after) :
    ∃ sessions, (handlers env.toEnv).run (sessionLabels env labels) (freshGateway clock users) = some sessions ∧
      sessions.state = after.state ∧
      List.Forall₂ (fun thread session => session.call = AuthRequest.session env thread.call ∧
          session.past = thread.past ∧ thread.program = session.program.mapped .session ∧ session.alive = thread.alive)
        (after.threadsOf (AuthRequest.isSession env)) sessions.threads := by
  have beside : Beside (AuthRequest.isSession env) (Touched env) Eq (freshGateway clock users)
      (freshGateway clock users : GatewayConfig AuthRequest RouteAnswer) :=
    ⟨rfl, rfl, fun _ absent => nomatch absent⟩
  obtain ⟨quiet, ran', ends⟩ := beside.run (router_unwinding env) ran
  have mirrors : Config.Mirrors (fun _ => True) (AuthRequest.session env) RouteAnswer.session Eq
      (freshGateway clock users : GatewayConfig AuthRequest RouteAnswer) (freshGateway clock users) := ⟨.nil, rfl⟩
  obtain ⟨sessions, reached, same⟩ :=
    (router_realizes env).run (fun made inside => purge_sessions _ inside) mirrors ran'
  refine ⟨sessions, reached, (ends.state.trans same.state).symm, ?_⟩
  rw [← ends.threads]
  exact same.threads.imp fun _ _ own => ⟨own.call, own.past, own.program, own.alive⟩

end Simulation

section Samples

def sampleRouter : RouterEnv :=
  { sampleEnv with
    formats := ⟨.interpreter, fun text => text = "u@example.com", fun _ => false⟩
    profileColumns := fun _ => ⟨some "Una", none, true, 0⟩ }

def blankLogin : AuthRequest :=
  .login sampleClient (some (.object
    [("email", .string " u@example.com "), ("password", .string "secret"), ("remember", .bool true)]))

def sampleRequests : List (GatewayLabel AuthRequest) :=
  [.call (.refresh sampleClient none), .call blankLogin] ++ steps 1 3 ++ [.step 1 (drawing "j0")] ++ steps 1 1 ++
  [.step 1 (drawing "f"), .step 1 (drawing "t0")] ++ steps 1 1 ++ [.step 1 (drawing "r0")] ++ steps 1 4 ++
  [.call (.me (some (.signed sampleToken)))] ++ steps 2 5

theorem router_sessions_login : ∃ after sessions,
    (authRouter sampleRouter).run sampleRequests (freshGateway 0 [sampleUser "u" "u@example.com"]) = some after ∧
    (handlers sampleEnv).run (sessionLabels sampleRouter sampleRequests)
      (freshGateway 0 [sampleUser "u" "u@example.com"]) = some sessions ∧
    sessions.state = after.state ∧ after.state.refreshTokens.length = 1 := by
  have passed : ((authRouter sampleRouter).run sampleRequests (freshGateway 0 [sampleUser "u" "u@example.com"])).any
      (fun config => config.state.refreshTokens.length = 1) = true := by decide +kernel
  obtain ⟨after, ran, one⟩ := (Option.any_eq_true _ _).mp passed
  obtain ⟨sessions, reached, same, _⟩ := router_sessions ran
  exact ⟨after, sessions, ran, reached, same, of_decide_eq_true one⟩

end Samples

/-! Requests that are turned away -/

section Refused

variable {env : RouterEnv} {allowed : GatewayConfig AuthRequest RouteAnswer → GatewayLabel AuthRequest → Prop}
  {clock : Nat} {users : List UserRow} {config : GatewayConfig AuthRequest RouteAnswer}

theorem Reaches.ended_at_once {Op : Type} {Reply : Op → Type} {Thrown State Choice External Call Out : Type}
    {system : System Reply Thrown State Choice External Call Out}
    {allowed : Config Reply Thrown State Call Out → Label Choice External Call → Prop}
    {start after : Config Reply Thrown State Call Out} (reached : Reaches system allowed start after)
    (initial : start.threads = []) :
    ∀ thread ∈ after.threads, ∀ outcome, system.code thread.call = .done outcome →
      thread.past = [] ∧ thread.program = .done outcome := by
  refine Reaches.each ?_ ?_ (fun _ own => own) reached (by simp [initial])
  · intro call outcome ended
    exact ⟨rfl, ended⟩
  · intro choice state thread moved later earlier advanced outcome ended
    obtain ⟨op, resume, reply, _, program, _, rfl⟩ := System.advance_cases advanced
    have done := (earlier outcome ended).2
    rw [program] at done
    cases done

def LogoutRefused (outcome : Except Thrown RouteAnswer) : Prop :=
  ∀ answer, outcome = .ok answer → (∃ error, answer = .session (.failed error) ∧ error.statusCode = 401) ∨
    ∃ error, answer = .refused error ∧ BodyRefusal logoutSchema error

theorem requireAccessToken_status (env : RouterEnv) (bearer : Option PresentedToken) (past : List SessionEvent) :
    (requireAccessToken env.toEnv bearer).Obeys (fun _ => Observing)
      (fun _ outcome => ∀ error, outcome = .ok (.error error) → error.statusCode = 401) past := by
  cases bearer with
  | none =>
    intro error same
    cases same
    rfl
  | some token =>
    refine ⟨trivial, fun loaded => ?_⟩
    rcases loaded with thrown | _
    · exact nofun
    refine ⟨trivial, fun clock => ?_⟩
    rcases clock with thrown | now
    · exact nofun
    simp only [Program.done_ok_bind]
    split
    · intro error same
      cases same
      rfl
    · intro error same
      cases same
      rfl
    · refine ⟨trivial, fun looked => ?_⟩
      rcases looked with thrown | value
      · exact nofun
      cases value with
      | none => exact nofun
      | some held =>
        intro error same
        cases same
        rfl

theorem postLogout_refused {body : Option Json} {error : ValidationError} (bearer : Option PresentedToken)
    (refused : validate env.formats.toZod logoutSchema body = .error error) :
    (postLogout env bearer body).Obeys (fun _ => Observing) (fun _ => LogoutRefused) [] := by
  refine (requireAccessToken_status env bearer []).bind (fun _ _ _ => nofun) fun past verified status => ?_
  rcases verified with denied | auth
  · intro answer same
    cases same
    exact .inl ⟨denied, rfl, status denied rfl⟩
  · simp only [refused]
    intro answer same
    cases same
    exact .inr ⟨error, rfl, validate_refusal refused⟩

/-- How a request with a body that is not let through goes: login and refresh end before they do anything, logout looks
    at the access token first. -/
def TurnedAway (env : RouterEnv) (thread : GatewayThread AuthRequest RouteAnswer) : Prop :=
  match thread.call with
  | .login .. => thread.past = [] ∧
      ∃ error, thread.answered (.ok (.refused error)) ∧ BodyRefusal (loginSchema env.formats) error
  | .refresh .. => thread.past = [] ∧
      ∃ error, thread.answered (.ok (.refused error)) ∧ BodyRefusal (refreshSchema env.formats) error
  | .logout .. => (∀ event ∈ thread.past, Observing event.op) ∧
      ∀ outcome, thread.answered outcome → LogoutRefused outcome
  | .me _ | .jwks => True

def RefusedEnds (env : RouterEnv) (request : AuthRequest) (_ : List SessionEvent)
    (outcome : Except Thrown RouteAnswer) :
    Prop :=
  match request with
  | .logout .. => AuthRequest.isSession env request = false → LogoutRefused outcome
  | _ => True

theorem code_refused (env : RouterEnv) (request : AuthRequest) :
    (AuthRequest.code env request).Obeys (fun _ => Touched env request) (RefusedEnds env request) [] := by
  have touched : (AuthRequest.code env request).Uses (Touched env request) := (router_unwinding env).uses request
  cases request with
  | logout bearer body =>
    cases session : validate env.formats.toZod logoutSchema body with
    | ok read =>
      have made : AuthRequest.isSession env (.logout bearer body) = true := by
        simp [AuthRequest.isSession, AuthRequest.session?, session]
      refine (touched.obeys fun _ _ own => own).weaken (fun _ _ own => own) fun past outcome _ none_made => ?_
      rw [made] at none_made
      cases none_made
    | error error =>
      exact (postLogout_refused bearer session).weaken (fun _ _ own _ => own) fun _ _ own _ => own
  | login | refresh | me | jwks =>
    exact (touched.obeys fun _ _ own => own).weaken (fun _ _ own => own) fun _ _ _ => trivial

/-- In every run a request whose body is not let through is told so and does nothing: login and refresh without awaiting
    anything, logout behind a look at the access token. -/
theorem refused_requests (reached : Reaches (authRouter env) allowed (freshGateway clock users) config)
    {thread : GatewayThread AuthRequest RouteAnswer} (member : thread ∈ config.threads)
    (refused : AuthRequest.isSession env thread.call = false) : TurnedAway env thread := by
  have at_once := Reaches.ended_at_once reached rfl thread member
  have disciplined := Reaches.disciplined (code_refused env) reached rfl thread member
  unfold TurnedAway
  cases call : thread.call with
  | login client body =>
    rw [call] at refused at_once
    simp only [AuthRequest.isSession, AuthRequest.session?] at refused
    split at refused
    · cases refused
    · rename_i error rejected
      obtain ⟨past, program⟩ := at_once (.ok (.refused error)) (by
        show postLogin env client body = _
        simp only [postLogin, rejected]
        rfl)
      exact ⟨past, error, program, validate_refusal rejected⟩
  | refresh client body =>
    rw [call] at refused at_once
    simp only [AuthRequest.isSession, AuthRequest.session?] at refused
    split at refused
    · cases refused
    · rename_i error rejected
      obtain ⟨past, program⟩ := at_once (.ok (.refused error)) (by
        show postRefresh env client body = _
        simp only [postRefresh, rejected]
        rfl)
      exact ⟨past, error, program, validate_refusal rejected⟩
  | logout bearer body =>
    refine ⟨fun event inside => ?_, fun outcome answered => ?_⟩
    · obtain ⟨_, _, _, own⟩ := disciplined.1.of_mem inside
      exact own refused
    have ended := disciplined.ended answered
    rw [call] at ended refused
    exact ended refused
  | me bearer => trivial
  | jwks => trivial

def refusesRefresh (env : RouterEnv) (thread : GatewayThread AuthRequest RouteAnswer) : Bool :=
  match thread.call with
  | .refresh .. => !AuthRequest.isSession env thread.call
  | _ => false

theorem refused_requests_no_body : ∃ config : GatewayConfig AuthRequest RouteAnswer, ∃ thread ∈ config.threads,
    Reaches (authRouter sampleRouter) System.anyStep (freshGateway 0 [sampleUser "u" "u@example.com"]) config ∧
    ∃ error, thread.answered (.ok (.refused error)) ∧ error.error.statusCode = 400 := by
  have passed : ((authRouter sampleRouter).run sampleRequests (freshGateway 0 [sampleUser "u" "u@example.com"])).any
      (fun config => config.threads.any (refusesRefresh sampleRouter)) = true := by
    decide +kernel
  obtain ⟨config, reached, checked⟩ := Reaches.of_check passed
  obtain ⟨thread, member, refreshes⟩ := List.any_eq_true.mp checked
  unfold refusesRefresh at refreshes
  split at refreshes
  · rename_i client body call
    rw [Bool.not_eq_true'] at refreshes
    have away := refused_requests reached member refreshes
    rw [TurnedAway, call] at away
    obtain ⟨_, error, answered, refusal⟩ := away
    exact ⟨config, thread, member, reached, error, answered, by rw [refusal.code]⟩
  · cases refreshes

end Refused

/-! Profiles -/

section Profiles

variable {env : RouterEnv} {allowed : GatewayConfig AuthRequest RouteAnswer → GatewayLabel AuthRequest → Prop}
  {clock : Nat} {users : List UserRow} {config : GatewayConfig AuthRequest RouteAnswer}

def Vouched (env : Env) (past : List SessionEvent) (bearer : Option PresentedToken)
    (claims : JwtAccessTokenClaims) : Prop :=
  ∃ jwt now, bearer = some (.signed jwt) ∧ claims = jwt.claims ∧ ⟨.dateNow, .ok now⟩ ∈ past ∧
    jwtVerify env (.signed jwt) now = .ok claims ∧ ⟨.redisGet (.revokedJti claims.jti), .ok none⟩ ∈ past

theorem requireAccessToken_vouched (env : Env) (bearer : Option PresentedToken) :
    (requireAccessToken env bearer).Obeys (fun _ _ => True) (fun past outcome => ∀ claims, outcome = .ok (.ok claims) →
      Vouched env past bearer claims) [] := by
  cases bearer with
  | none => exact nofun
  | some token =>
    refine ⟨trivial, fun loaded => ?_⟩
    rcases loaded with thrown | _
    · exact nofun
    refine ⟨trivial, fun clock => ?_⟩
    rcases clock with thrown | now
    · exact nofun
    simp only [Program.done_ok_bind]
    split
    · exact nofun
    · exact nofun
    · rename_i payload accepted
      obtain ⟨jwt, rfl, same, _⟩ := jwtVerify_ok accepted
      refine ⟨trivial, fun looked => ?_⟩
      rcases looked with thrown | value
      · exact nofun
      cases value with
      | some held => exact nofun
      | none =>
        intro claims equal
        cases equal
        exact ⟨jwt, now, rfl, same, by simp, accepted, by simp⟩

def Shows (env : RouterEnv) (past : List SessionEvent) (claims : JwtAccessTokenClaims) (body : UserProfile) : Prop :=
  ∃ row email, ⟨.selectUserById claims.sub, .ok (some row)⟩ ∈ past ∧
    ⟨.decryptEmail row.email row.tenantId, .ok email⟩ ∈ past ∧
    body = toUserProfile ⟨row.id, email, row.roles, row.tenantId, row.isActive⟩ (env.profileColumns row.id)
      row.lastLoginAt claims.auth_method.text

def ProfileEnds (env : RouterEnv) (request : AuthRequest) (past : List SessionEvent)
    (outcome : Except Thrown RouteAnswer) : Prop :=
  ∀ body, outcome = .ok (.profile body) → ∃ bearer claims, request = .me bearer ∧
    Vouched env.toEnv past bearer claims ∧ Shows env past claims body

theorem Vouched.grow {past more : List SessionEvent} {bearer : Option PresentedToken} {claims : JwtAccessTokenClaims}
    (vouched : Vouched env.toEnv past bearer claims) : Vouched env.toEnv (past ++ more) bearer claims := by
  obtain ⟨jwt, now, signed, same, read, accepted, looked⟩ := vouched
  exact ⟨jwt, now, signed, same, List.mem_append_left _ read, accepted, List.mem_append_left _ looked⟩

theorem findProfileById_shows (claims : JwtAccessTokenClaims) (past : List SessionEvent) :
    (findProfileById env claims.sub claims.auth_method.text).Obeys (fun _ _ => True) (fun whole outcome =>
      (∃ more, whole = past ++ more) ∧ ∀ body, outcome = .ok (some body) → Shows env whole claims body) past := by
  refine ⟨trivial, fun found => ?_⟩
  rcases found with thrown | row
  · exact ⟨⟨_, rfl⟩, nofun⟩
  cases row with
  | none => exact ⟨⟨_, rfl⟩, nofun⟩
  | some row =>
    refine ⟨trivial, fun opened => ?_⟩
    rcases opened with thrown | email
    · exact ⟨⟨_, List.append_assoc ..⟩, nofun⟩
    · refine ⟨⟨_, List.append_assoc ..⟩, fun body same => ?_⟩
      cases same
      exact ⟨row, email, by simp, by simp, rfl⟩

theorem mapped_session {program : Gateway Answer} (env : RouterEnv) (request : AuthRequest) (past : List SessionEvent) :
    (program.mapped RouteAnswer.session).Obeys (fun _ _ => True) (ProfileEnds env request) past := by
  have any := Program.obeys_grow program past
  refine (any.bind (fun _ _ _ => nofun) fun _ _ _ => ?_).weaken (fun _ _ own => own) fun _ _ own => own
  exact nofun

theorem code_profiles (env : RouterEnv) (request : AuthRequest) :
    (AuthRequest.code env request).Obeys (fun _ _ => True) (ProfileEnds env request) [] := by
  cases request with
  | login client body =>
    simp only [AuthRequest.code, postLogin]
    split
    · exact fun _ same => by cases same
    · split
      · exact mapped_session env _ []
      · exact fun _ same => by cases same
  | refresh client body =>
    simp only [AuthRequest.code, postRefresh]
    split
    · exact fun _ same => by cases same
    · split
      · exact mapped_session env _ []
      · exact fun _ same => by cases same
  | logout bearer body =>
    refine (requireAccessToken_vouched env.toEnv bearer).bind (fun _ _ _ _ same => by cases same) fun past verified _ =>
      ?_
    rcases verified with denied | auth
    · exact fun _ same => by cases same
    · simp only
      split
      · exact fun _ same => by cases same
      · exact mapped_session env _ past
  | me bearer =>
    refine (requireAccessToken_vouched env.toEnv bearer).bind
      (fun _ _ _ _ same => by cases same) fun past verified vouched => ?_
    rcases verified with denied | auth
    · exact fun _ same => by cases same
    refine (findProfileById_shows auth past).bind (fun _ _ _ _ same => by cases same) ?_
    rintro _ found ⟨⟨more, rfl⟩, shows⟩
    cases found with
    | none => exact fun _ same => by cases same
    | some profile =>
      intro body same
      cases same
      exact ⟨bearer, auth, rfl, (vouched auth rfl).grow, shows profile rfl⟩
  | jwks =>
    refine ⟨trivial, fun loaded => ?_⟩
    rcases loaded with thrown | _ <;> exact fun _ same => by cases same

structure OwnProfile (env : RouterEnv) (user : UserRow) (claims : JwtAccessTokenClaims)
    (body : UserProfile) : Prop where
  subject : user.id = claims.sub
  email : env.decryptEmail user.email user.tenantId = some body.email
  columns : body = toUserProfile ⟨claims.sub, body.email, user.roles, user.tenantId, user.isActive⟩
    (env.profileColumns claims.sub) body.last_login_at claims.auth_method.text

/-- Whoever is shown a profile has presented one of the gateway's own access tokens, valid when the request read the
    clock and not listed as revoked when it looked, and is shown the provisioned user that the token names. -/
theorem me_own_profile (reached : Reaches (authRouter env) allowed (freshGateway clock users) config)
    {thread : GatewayThread AuthRequest RouteAnswer} (member : thread ∈ config.threads) {body : UserProfile}
    (answered : thread.answered (.ok (.profile body))) :
    ∃ bearer claims, thread.call = .me bearer ∧ Vouched env.toEnv thread.past bearer claims ∧
      ∃ user ∈ users, OwnProfile env user claims body := by
  have ended := (Reaches.disciplined (code_profiles env) reached rfl thread member).ended answered
  obtain ⟨bearer, claims, call, vouched, row, email, read, opened, same⟩ := ended body rfl
  have provisioned := reads_provisioned reached member
  obtain ⟨id, user, there, identity⟩ := provisioned.byId _ _ read
  simp only [UserRow.identity, UserRow.mk.injEq] at identity
  obtain ⟨sameId, sameEmail, _, _, sameRoles, sameTenant, _⟩ := identity
  refine ⟨bearer, claims, call, vouched, user, there, sameId.trans id, ?_, ?_⟩
  · rw [sameEmail, sameTenant, provisioned.opened _ _ _ opened, same]
    rfl
  · subst same
    simp only [toUserProfile, sameRoles, sameTenant, id]

def answeredProfile (thread : GatewayThread AuthRequest RouteAnswer) : Option UserProfile :=
  match thread.program with
  | .done (.ok (.profile body)) => some body
  | _ => none

theorem answeredProfile_spec {thread : GatewayThread AuthRequest RouteAnswer} {body : UserProfile}
    (answered : answeredProfile thread = some body) : thread.answered (.ok (.profile body)) := by
  unfold answeredProfile at answered
  split at answered
  · rename_i other program
    cases answered
    exact program
  · cases answered

theorem me_own_profile_login : ∃ body claims, ∃ user ∈ [sampleUser "u" "u@example.com"],
    OwnProfile sampleRouter user claims body ∧ body.id = "u" := by
  have passed : ((authRouter sampleRouter).run sampleRequests (freshGateway 0 [sampleUser "u" "u@example.com"])).any
      (fun config => config.threads.any fun thread => (answeredProfile thread).any fun body => body.id = "u") =
      true := by
    decide +kernel
  obtain ⟨config, reached, checked⟩ := Reaches.of_check passed
  obtain ⟨thread, member, shown⟩ := List.any_eq_true.mp checked
  obtain ⟨body, answered, own⟩ := (Option.any_eq_true _ _).mp shown
  obtain ⟨_, claims, _, _, user, there, profile⟩ := me_own_profile reached member (answeredProfile_spec answered)
  exact ⟨body, claims, user, there, profile, of_decide_eq_true own⟩

end Profiles

end GatewayProof
