import AppGateway.Handlers.Protocol
import AppGateway.Model.ProxyRouter
import AppGateway.Sessions.Histories

namespace GatewayProof

open Async GatewayModel
open Async.Program (Follows follows_done follows_await)

abbrev ProxyEvent := Event ProxyEffect.Reply Thrown

def FirstMatch (env : ProxyEnv) (routes : List RouteConfig) (path : String) (route : RouteConfig) : Prop :=
  ∃ before after, routes = before ++ route :: after ∧ env.matchPath route.path path = .ok true ∧
    ∀ other ∈ before, env.matchPath other.path path = .ok false

theorem resolveRoute_first {env : ProxyEnv} {routes : List RouteConfig} {path : String} {resolved : ResolvedRoute}
    (found : resolveRoute env path routes = .ok (some resolved)) : FirstMatch env routes path resolved.route := by
  induction routes with
  | nil => cases found
  | cons route routes ih =>
    simp only [resolveRoute] at found
    split at found
    · cases found
    · rename_i matched
      cases found
      exact ⟨[], routes, rfl, matched, by simp⟩
    · rename_i unmatched
      obtain ⟨before, after, rfl, matched, others⟩ := ih found
      exact ⟨route :: before, after, rfl, matched, by simpa [unmatched] using others⟩

theorem FirstMatch.resolves {env : ProxyEnv} {routes : List RouteConfig} {path : String} {route : RouteConfig}
    (first : FirstMatch env routes path route) :
    ∃ forwardPath, resolveRoute env path routes = .ok (some ⟨route, forwardPath⟩) := by
  obtain ⟨before, after, rfl, matched, others⟩ := first
  induction before with
  | nil => exact ⟨_, by simp [resolveRoute, matched]; rfl⟩
  | cons other before ih =>
    obtain ⟨forwardPath, found⟩ := ih fun another member => others another (List.mem_cons_of_mem _ member)
    exact ⟨forwardPath, by simp [resolveRoute, others other (List.mem_cons_self ..), found]⟩

def stripped (req : ProxyRequest) : ProxyRequest := { req with headers := stripSpoofedHeaders req.headers }

def Verified (env : ProxyEnv) (req : ProxyRequest) (past : List ProxyEvent) (claims : JwtAccessTokenClaims) : Prop :=
  ∃ token now rest, bearerOf req.headers = some token ∧
    jwtVerify env.toEnv (env.decodeJwt token) now = .ok claims ∧
    past = ⟨.gateway .loadSigningKeys, .ok ()⟩ :: ⟨.gateway .dateNow, .ok now⟩ ::
      ⟨.gateway (.redisGet (.revokedJti claims.jti)), .ok none⟩ :: rest

def limiterKey (env : ProxyEnv) (route : RouteConfig) (req : ProxyRequest) (now : Nat) : String :=
  "ratelimit:proxy:" ++ route.path ++ ":" ++ req.ip.getD "unknown" ++ ":" ++ toString (now / env.rateLimitWindowMs)

def routeLimit (env : ProxyEnv) (route : RouteConfig) : Nat :=
  route.rate_limit_override.getD env.rateLimitMaxRequests

/-- The rate limiter let the request through, or Redis failed. -/
def Admitted (env : ProxyEnv) (route : RouteConfig) (req : ProxyRequest) (past : List ProxyEvent) : Prop :=
  ∃ now, ⟨.gateway .dateNow, .ok now⟩ ∈ past ∧
    ((∃ count, ⟨.redisIncr (limiterKey env route req now), .ok count⟩ ∈ past ∧ count ≤ routeLimit env route) ∨
      (∃ thrown, ⟨.redisIncr (limiterKey env route req now), .error thrown⟩ ∈ past) ∨
      ∃ thrown, ⟨.redisPexpire (limiterKey env route req now) env.rateLimitWindowMs, .error thrown⟩ ∈ past)

/-- Everything that stands between a request and the upstream of a route has been passed. -/
structure Mediated (env : ProxyEnv) (routes : List RouteConfig) (req : ProxyRequest) (past : List ProxyEvent)
    (route : RouteConfig) : Prop where
  first : FirstMatch env routes (resourcePath req) route
  authenticated : route.auth_required = true → ∃ claims, Verified env req past claims
  role : ∀ roles, route.allowed_roles = some roles → roles ≠ [] →
    ∃ claims, Verified env req past claims ∧ ∃ role ∈ claims.roles, role ∈ roles
  scope : ∀ scope, route.required_scope = some scope → scope ≠ "" →
    ∃ claims, Verified env req past claims ∧ scope ∈ split ' ' claims.scope
  admitted : Admitted env route req past

def DispatchPermits (env : ProxyEnv) (routes : List RouteConfig) (req : ProxyRequest) (past : List ProxyEvent) :
    ProxyEffect → Prop
  | .proxy route sent => Mediated env routes req past route ∧
      resolveRoute env (resourcePath req) routes = .ok (some ⟨route, sent.url⟩)
  | _ => True

def Aside : ProxyEffect → Prop
  | .proxy .. => False
  | _ => True

theorem Aside.permitted {effect : ProxyEffect} (aside : Aside effect) (env : ProxyEnv) (routes : List RouteConfig)
    (req : ProxyRequest) (past : List ProxyEvent) : DispatchPermits env routes req past effect := by
  cases effect <;> trivial

theorem bearerOf_strip (headers : Headers) : bearerOf (stripSpoofedHeaders headers) = bearerOf headers := by
  have kept : (stripSpoofedHeaders headers).get "authorization" = headers.get "authorization" := by
    unfold Headers.get stripSpoofedHeaders
    rw [List.find?_filter]
    congr 2
    funext header
    by_cases named : header.1 = "authorization" <;> simp [named, spoofableIdentityHeaders]
  unfold bearerOf
  rw [kept]

theorem Verified.grow {env : ProxyEnv} {req : ProxyRequest} {past whole : List ProxyEvent}
    {claims : JwtAccessTokenClaims} (verified : Verified env req past claims) (grown : past <+: whole) :
    Verified env req whole claims := by
  obtain ⟨token, now, rest, bearer, accepted, rfl⟩ := verified
  obtain ⟨later, rfl⟩ := grown
  exact ⟨token, now, rest ++ later, bearer, accepted, rfl⟩

section Rules

variable {env : ProxyEnv} {permits : List ProxyEvent → ProxyEffect → Prop} {past : List ProxyEvent}

theorem validateAccessToken_obeys (optional : Bool) (req : ProxyRequest)
    (quiet : ∀ past op, Aside op → permits past op) :
    (validateAccessToken env optional (stripped req)).Obeys permits (fun whole outcome => ∀ auth,
      outcome = .ok (.ok auth) → (auth = none ∧ optional = true ∧ bearerOf req.headers = none) ∨
        ∃ claims, auth = some claims ∧ Verified env req whole claims) [] := by
  have bearer : bearerOf (stripped req).headers = bearerOf req.headers := bearerOf_strip req.headers
  unfold validateAccessToken
  rw [bearer]
  split
  · rename_i absent
    split
    · rename_i optional
      intro auth same
      cases same
      exact .inl ⟨rfl, optional, absent⟩
    · exact nofun
  rename_i token presented
  refine ⟨quiet _ _ trivial, fun loaded => ?_⟩
  rcases loaded with thrown | _
  · exact nofun
  refine ⟨quiet _ _ trivial, fun clock => ?_⟩
  rcases clock with thrown | now
  · exact nofun
  simp only [Except.map, Program.done_ok_bind, List.nil_append, List.cons_append]
  split
  · exact nofun
  · exact nofun
  rename_i claims accepted
  refine ⟨quiet _ _ trivial, fun looked => ?_⟩
  rcases looked with thrown | value
  · exact nofun
  cases value with
  | some held => exact nofun
  | none =>
    intro auth same
    cases same
    exact .inr ⟨claims, rfl, token, now, [], presented, accepted, rfl⟩

theorem auditDenial_obeys (req : ProxyRequest) (claims : Option JwtAccessTokenClaims) (error : AppError)
    (quiet : ∀ past op, Aside op → permits past op) :
    (auditDenial req claims error).Obeys permits (fun _ _ => True) past := by
  refine ⟨quiet _ _ trivial, fun reply => ?_⟩
  cases reply <;> trivial

theorem deny_obeys (req : ProxyRequest) (claims : Option JwtAccessTokenClaims) (error : AppError)
    (quiet : ∀ past op, Aside op → permits past op) :
    (deny req claims error).Obeys permits (fun _ outcome => outcome ≠ .ok none) past :=
  (auditDenial_obeys req claims error quiet).bind (fun _ _ _ => nofun) fun _ _ _ => nofun

theorem countRequest_obeys (key : String) (windowMs : Nat) (quiet : ∀ past op, Aside op → permits past op) :
    (countRequest key windowMs).Obeys permits (fun whole outcome => past <+: whole ∧
      (outcome = .ok none → (∃ thrown, ⟨.redisIncr key, .error thrown⟩ ∈ whole) ∨
        ∃ thrown, ⟨.redisPexpire key windowMs, .error thrown⟩ ∈ whole) ∧
      ∀ count, outcome = .ok (some count) → ⟨.redisIncr key, .ok count⟩ ∈ whole) past := by
  refine ⟨quiet _ _ trivial, fun counted => ?_⟩
  rcases counted with thrown | count
  · exact ⟨by simp, fun _ => .inl ⟨thrown, by simp⟩, nofun⟩
  by_cases first : count = 1
  · simp only [Program.done_ok_bind, first, if_true]
    refine ⟨quiet _ _ trivial, fun expires => ?_⟩
    rcases expires with thrown | _
    · exact ⟨by simp, fun _ => .inr ⟨thrown, by simp⟩, nofun⟩
    · refine ⟨by simp, nofun, fun other same => ?_⟩
      cases same
      simp
  · simp only [Program.done_ok_bind, first, if_false]
    refine ⟨by simp, nofun, fun other same => ?_⟩
    cases same
    simp

theorem limitRequest_obeys (maxRequests count windowResetAtMs : Nat)
    (quiet : ∀ past op, Aside op → permits past op) :
    (limitRequest maxRequests count windowResetAtMs).Obeys permits (fun whole outcome => past <+: whole ∧
      (outcome = .ok none → count ≤ maxRequests)) past := by
  refine ⟨quiet _ _ trivial, fun _ => ⟨quiet _ _ trivial, fun _ => ⟨quiet _ _ trivial, fun _ => ?_⟩⟩⟩
  simp only [Program.done_ok_bind]
  by_cases exceeds : maxRequests < count
  · simp only [exceeds, if_true]
    refine ⟨quiet _ _ trivial, fun clock => ?_⟩
    rcases clock with thrown | now
    · exact ⟨by simp, nofun⟩
    · exact ⟨quiet _ _ trivial, fun _ => ⟨by simp, nofun⟩⟩
  · simp only [exceeds, if_false]
    exact ⟨by simp, fun _ => Nat.not_lt.mp exceeds⟩

theorem runRateLimiter_obeys (route : RouteConfig) (req : ProxyRequest)
    (quiet : ∀ past op, Aside op → permits past op) :
    (runRateLimiter env route req).Obeys permits (fun whole outcome => past <+: whole ∧
      (outcome = .ok none → Admitted env route req whole)) past := by
  refine ⟨quiet _ _ trivial, fun clock => ?_⟩
  rcases clock with thrown | now
  · exact ⟨by simp, nofun⟩
  refine (countRequest_obeys (limiterKey env route req now) _ quiet).bind ?_ ?_
  · exact fun whole thrown ended => ⟨(List.prefix_append _ _).trans ended.1, nofun⟩
  rintro whole counted ⟨grown, failed, read⟩
  have before : past <+: whole := (List.prefix_append _ _).trans grown
  have clock : ⟨.gateway .dateNow, .ok now⟩ ∈ whole := grown.subset (by simp)
  rcases counted with _ | count
  · exact ⟨before, fun _ => ⟨now, clock, .inr (failed rfl)⟩⟩
  · have counter := read count rfl
    refine (limitRequest_obeys (routeLimit env route) count _ quiet).weaken (fun _ _ permit => permit) ?_
    rintro later outcome ⟨longer, within⟩
    exact ⟨before.trans longer, fun same =>
      ⟨now, longer.subset clock, .inl ⟨count, longer.subset counter, within same⟩⟩⟩

theorem enforceAuthorization_obeys (route : RouteConfig) (auth : Option JwtAccessTokenClaims) (req : ProxyRequest)
    (quiet : ∀ past op, Aside op → permits past op) :
    (enforceAuthorization env route auth req).Obeys permits (fun whole outcome => outcome = .ok none →
      past <+: whole ∧ lacksRole route auth = false ∧ missingScope route auth = none ∧
        Admitted env route req whole) past := by
  unfold enforceAuthorization
  have denied : ∀ error before, (deny req auth error).Obeys permits (fun whole outcome => outcome = .ok none →
      past <+: whole ∧ lacksRole route auth = false ∧ missingScope route auth = none ∧
        Admitted env route req whole) before := fun error before =>
    (deny_obeys req auth error quiet).weaken (fun _ _ permit => permit) fun _ _ refused same => absurd same refused
  split
  · exact denied _ _
  rename_i role
  split
  · exact denied _ _
  rename_i scope
  refine (runRateLimiter_obeys route req quiet).bind (fun _ _ _ => nofun) ?_
  rintro whole limited ⟨before, admitted⟩
  cases limited with
  | some error => exact denied _ _
  | none => exact fun _ => ⟨before, by simpa using role, scope, admitted rfl⟩

theorem dispatch_obeys (route : RouteConfig) (forwardPath : String) (req : ProxyRequest)
    (auth : Option JwtAccessTokenClaims) (quiet : ∀ past op, Aside op → permits past op)
    (permitted : permits past (.proxy route { req with url := forwardPath })) :
    (dispatchToUpstream route forwardPath req >>= fun _ => auditAllowedIfFlagged route req auth).Obeys permits
      (fun _ _ => True) past := by
  have audited : ∀ before, (auditAllowedIfFlagged route req auth).Obeys permits (fun _ _ => True) before := by
    intro before
    unfold auditAllowedIfFlagged
    split
    · trivial
    · refine ⟨quiet _ _ trivial, fun reply => ?_⟩
      cases reply <;> trivial
  refine ⟨permitted, fun reply => ?_⟩
  rcases reply with thrown | event
  · trivial
  · cases event with
    | finish => exact audited _
    | close => exact audited _
    | error code message => trivial
    | failed message => trivial

theorem next_obeys (error : Thrown) (quiet : ∀ past op, Aside op → permits past op) :
    (Proxy.next error).Obeys permits (fun _ _ => True) past :=
  ⟨quiet _ _ trivial, fun _ => trivial⟩

end Rules

theorem lacksRole_false {route : RouteConfig} {auth : Option JwtAccessTokenClaims}
    (allowed : lacksRole route auth = false) {roles : List String} (named : route.allowed_roles = some roles)
    (some_role : roles ≠ []) : ∃ claims, auth = some claims ∧ ∃ role ∈ claims.roles, role ∈ roles := by
  simp only [lacksRole, named, Option.any_some, Bool.and_eq_false_iff, decide_eq_false_iff_not, not_not,
    Bool.not_eq_false', Option.any_eq_true, List.any_eq_true, List.contains_iff_mem] at allowed
  exact allowed.resolve_left some_role

theorem missingScope_none {route : RouteConfig} {auth : Option JwtAccessTokenClaims}
    (granted : missingScope route auth = none) {scope : String} (required : route.required_scope = some scope)
    (some_scope : scope ≠ "") : ∃ claims, auth = some claims ∧ scope ∈ split ' ' claims.scope := by
  have member : scope ∈ grantedScopes auth := by
    simpa [missingScope, required, some_scope] using granted
  cases auth with
  | none => simp [grantedScopes] at member
  | some claims => exact ⟨claims, rfl, member⟩

def injected (req : ProxyRequest) (auth : Option JwtAccessTokenClaims) : ProxyRequest :=
  match auth with
  | some claims =>
    { stripped req with headers := (stripped req).headers.assign (buildIdentityHeaders claims req.requestId) }
  | none => stripped req

def afterDispatch (route : RouteConfig) (req : ProxyRequest) (auth : Option JwtAccessTokenClaims) :
    Except Thrown UpstreamEvent → Proxy Unit
  | .ok .finish | .ok .close => tryCatch (auditAllowedIfFlagged route req auth) Proxy.next
  | .ok (.error code message) => Proxy.next (.app (mapUpstreamError route code message))
  | .ok (.failed message) => Proxy.next (.error message)
  | .error thrown => Proxy.next thrown

theorem dispatched_await (route : RouteConfig) (forwardPath : String) (req : ProxyRequest)
    (auth : Option JwtAccessTokenClaims) :
    tryCatch (do dispatchToUpstream route forwardPath req; auditAllowedIfFlagged route req auth) Proxy.next =
      .await (.proxy route { req with url := forwardPath }) (afterDispatch route req auth) := by
  refine congrArg (Program.await (ProxyEffect.proxy route { req with url := forwardPath })) (funext fun reply => ?_)
  rcases reply with thrown | event
  · rfl
  · cases event <;> rfl

structure Cleared (env : ProxyEnv) (route : RouteConfig) (req : ProxyRequest) (auth : Option JwtAccessTokenClaims)
    (past : List ProxyEvent) : Prop where
  attached : (auth = none ∧ route.auth_required = false ∧ bearerOf req.headers = none) ∨
    ∃ claims, auth = some claims ∧ Verified env req past claims
  role : lacksRole route auth = false
  scope : missingScope route auth = none
  admitted : Admitted env route req past

theorem Cleared.verified {env : ProxyEnv} {route : RouteConfig} {req : ProxyRequest} {past : List ProxyEvent}
    {claims : JwtAccessTokenClaims} (cleared : Cleared env route req (some claims) past) :
    Verified env req past claims := by
  rcases cleared.attached with ⟨nothing, _⟩ | ⟨other, same, verified⟩
  · cases nothing
  · cases same
    exact verified

theorem forward_rule {env : ProxyEnv} {permits : List ProxyEvent → ProxyEffect → Prop} {req : ProxyRequest}
    {route : RouteConfig} {forwardPath : String} (quiet : ∀ past op, Aside op → permits past op)
    (dispatch : ∀ past auth, Cleared env route req auth past →
      permits past (.proxy route { injected req auth with url := forwardPath })) :
    (forward env route forwardPath req).Obeys permits (fun _ _ => True) [] := by
  refine (validateAccessToken_obeys (!route.auth_required) req quiet).bind (fun _ _ _ => trivial) ?_
  intro verified validated attached
  cases validated with
  | error error =>
    exact (auditDenial_obeys _ none error quiet).bind (fun _ _ _ => trivial) fun _ _ _ => next_obeys _ quiet
  | ok auth =>
    refine (enforceAuthorization_obeys route auth (stripped req) quiet).bind (fun _ _ _ => trivial) ?_
    intro whole denial authorized
    cases denial with
    | some error => exact next_obeys _ quiet
    | none =>
      have passed := authorized rfl
      have cleared : Cleared env route req auth whole := by
        refine ⟨?_, passed.2.1, passed.2.2.1, passed.2.2.2⟩
        rcases attached auth rfl with ⟨nothing, optional, absent⟩ | ⟨claims, same, proof⟩
        · exact .inl ⟨nothing, by simpa using optional, absent⟩
        · exact .inr ⟨claims, same, proof.grow passed.1⟩
      have permitted := dispatch whole auth cleared
      have dispatched : (dispatchToUpstream route forwardPath (injected req auth) >>= fun _ =>
          auditAllowedIfFlagged route (injected req auth) auth).Obeys permits (fun _ _ => True) whole :=
        dispatch_obeys route forwardPath (injected req auth) auth quiet permitted
      cases auth <;> exact dispatched.handle (fun _ _ _ => trivial) fun _ _ _ => next_obeys _ quiet

theorem forward_obeys (env : ProxyEnv) (routes : List RouteConfig) (req : ProxyRequest) (route : RouteConfig)
    (forwardPath : String) (found : resolveRoute env (resourcePath req) routes = .ok (some ⟨route, forwardPath⟩)) :
    (forward env route forwardPath req).Obeys (DispatchPermits env routes req) (fun _ _ => True) [] := by
  refine forward_rule (fun past _ aside => aside.permitted env routes req past) fun past auth cleared => ⟨?_, found⟩
  refine ⟨resolveRoute_first found, fun required => ?_, fun roles named some_role => ?_,
    fun required needed some_scope => ?_, cleared.admitted⟩
  · rcases cleared.attached with ⟨_, optional, _⟩ | ⟨claims, _, verified⟩
    · simp [required] at optional
    · exact ⟨claims, verified⟩
  · obtain ⟨claims, rfl, shared⟩ := lacksRole_false cleared.role named some_role
    exact ⟨claims, cleared.verified, shared⟩
  · obtain ⟨claims, rfl, granted⟩ := missingScope_none cleared.scope needed some_scope
    exact ⟨claims, cleared.verified, granted⟩

theorem proxyRouter_rule {env : ProxyEnv} {routes : List RouteConfig} {permits : List ProxyEvent → ProxyEffect → Prop}
    {req : ProxyRequest} (quiet : ∀ past op, Aside op → permits past op)
    (forwards : ∀ route forwardPath, resolveRoute env (resourcePath req) routes = .ok (some ⟨route, forwardPath⟩) →
      (forward env route forwardPath req).Obeys permits (fun _ _ => True) []) :
    (proxyRouter env routes req).Obeys permits (fun _ _ => True) [] := by
  have handled : (handle env routes req).Obeys permits (fun _ _ => True) [] := by
    unfold handle
    split
    · trivial
    · exact next_obeys _ quiet
    · rename_i resolved found
      exact forwards resolved.route resolved.forwardPath found
  exact handled.handle (fun _ _ _ => trivial) fun _ _ _ => next_obeys _ quiet

theorem proxyRouter_obeys (env : ProxyEnv) (routes : List RouteConfig) (req : ProxyRequest) :
    (proxyRouter env routes req).Obeys (DispatchPermits env routes req) (fun _ _ => True) [] :=
  proxyRouter_rule (fun past _ aside => aside.permitted env routes req past) fun route forwardPath found =>
    forward_obeys env routes req route forwardPath found

/-- Whatever the replies are, an upstream is reached only past all checks. -/
theorem dispatch_mediated {env : ProxyEnv} {routes : List RouteConfig} {req : ProxyRequest}
    {events before after : List ProxyEvent} {rest : Proxy Unit} {route : RouteConfig} {sent : ProxyRequest}
    {reply : Except Thrown UpstreamEvent} (follows : (proxyRouter env routes req).Follows events rest)
    (split : events = before ++ ⟨.proxy route sent, reply⟩ :: after) :
    Mediated env routes req before route ∧
      resolveRoute env (resourcePath req) routes = .ok (some ⟨route, sent.url⟩) := by
  have lawful := (proxyRouter_obeys env routes req).lawful Lawful.nil follows
  exact lawful before ⟨.proxy route sent, reply⟩ after split

/-! A gateway with one route, open to everybody -/

def usersRoute : RouteConfig where
  path := "/api/users/*rest"
  upstream := "http://user-service:3001"
  auth_required := false
  required_scope := none
  allowed_roles := none
  rate_limit_override := none
  strip_prefix := false
  timeout_ms := 30000
  audit_allowed_requests := false

def sampleProxy : ProxyEnv where
  toEnv := sampleEnv
  decodeJwt := .forged
  matchPath pattern path := .ok (pattern = "/api/users/*rest" && "/api/users/".toList.isPrefixOf path.toList)
  rateLimitWindowMs := 60000
  rateLimitMaxRequests := 100

def sampleRequest (target : String) : ProxyRequest where
  originalUrl := target
  url := target
  headers := [("host", "localhost")]
  ip := some "127.0.0.1"
  requestId := "req"

def firstRequest : (effect : ProxyEffect) → Except Thrown effect.Reply
  | .gateway .dateNow => .ok 0
  | .gateway _ => .error (.error "unexpected")
  | .redisIncr _ => .ok 1
  | .redisPexpire .. => .ok ()
  | .setHeader .. => .ok ()
  | .proxy .. => .ok .finish
  | .next _ => .ok ()

end GatewayProof
