import AppGateway.Proxy.IdentityHeaders

namespace GatewayProof

open Async GatewayModel
open Async.Program (Follows follows_await)

/-- Every dispatch of the request is for the caller its Authorization header names, verified in this request, or
    for nobody, without such a header and on a route that allows it. -/
def HonorsCredential (env : ProxyEnv) (routes : List RouteConfig) (req : ProxyRequest) : Prop :=
  ∀ events rest, (proxyRouter env routes req).Follows events rest →
    ∀ before route sent reply after, events = before ++ ⟨.proxy route sent, reply⟩ :: after →
      (∃ claims, Verified env req before claims ∧
        sent.headers = (stripped req).headers.assign (buildIdentityHeaders claims req.requestId)) ∨
      (req.headers.get "authorization" = none ∧ route.auth_required = false)

/-- A header that does not begin with `Bearer `, on a route that anybody may use. -/
structure IgnoresCredential (env : ProxyEnv) (routes : List RouteConfig) (req : ProxyRequest) (header : String)
    (route : RouteConfig) : Prop where
  presented : req.headers.get "authorization" = some header
  unrecognized : ¬ "Bearer ".toList <+: header.toList
  first : FirstMatch env routes (resourcePath req) route
  optional : route.auth_required = false
  roles : route.allowed_roles.getD [] = []
  scope : route.required_scope.getD "" = ""

theorem bearerOf_eq_none {headers : Headers} : bearerOf headers = none ↔
    ∀ header, headers.get "authorization" = some header → ¬ "Bearer ".toList <+: header.toList := by
  unfold bearerOf
  cases headers.get "authorization" with
  | none => simp
  | some header =>
    have unrecognized : "Bearer ".toList.isPrefixOf header.toList = true ↔ "Bearer ".toList <+: header.toList :=
      List.isPrefixOf_iff_prefix
    simp only [Option.some.injEq, forall_eq', ← unrecognized]
    by_cases scheme : "Bearer ".toList.isPrefixOf header.toList = true
    · rw [if_pos scheme]
      exact ⟨fun same => (Option.some_ne_none _ same).elim, fun absent => absurd scheme absent⟩
    · rw [if_neg scheme]
      exact ⟨fun _ => scheme, fun _ => rfl⟩

theorem lacksRole_anonymous (route : RouteConfig) :
    lacksRole route none = false ↔ route.allowed_roles.getD [] = [] := by
  unfold lacksRole
  cases route.allowed_roles <;> simp

theorem missingScope_anonymous (route : RouteConfig) :
    missingScope route none = none ↔ route.required_scope.getD "" = "" := by
  unfold missingScope grantedScopes
  cases route.required_scope <;> simp

def CredentialPermits (env : ProxyEnv) (routes : List RouteConfig) (req : ProxyRequest) (past : List ProxyEvent) :
    ProxyEffect → Prop
  | .proxy route sent =>
    (∃ claims, Verified env req past claims ∧
      sent.headers = (stripped req).headers.assign (buildIdentityHeaders claims req.requestId)) ∨
    (FirstMatch env routes (resourcePath req) route ∧ route.auth_required = false ∧ bearerOf req.headers = none ∧
      route.allowed_roles.getD [] = [] ∧ route.required_scope.getD "" = "")
  | _ => True

theorem proxyRouter_credential (env : ProxyEnv) (routes : List RouteConfig) (req : ProxyRequest) :
    (proxyRouter env routes req).Obeys (CredentialPermits env routes req) (fun _ _ => True) [] := by
  have quiet : ∀ past op, Aside op → CredentialPermits env routes req past op := by
    intro past op aside
    cases op with
    | proxy route sent => exact aside.elim
    | _ => trivial
  refine proxyRouter_rule quiet fun route forwardPath found => forward_rule quiet fun past auth cleared => ?_
  cases auth with
  | some claims => exact .inl ⟨claims, cleared.verified, rfl⟩
  | none =>
    rcases cleared.attached with ⟨_, optional, absent⟩ | ⟨claims, same, _⟩
    · exact .inr ⟨resolveRoute_first found, optional, absent, (lacksRole_anonymous route).mp cleared.role,
        (missingScope_anonymous route).mp cleared.scope⟩
    · cases same

theorem runRateLimiter_down (env : ProxyEnv) (route : RouteConfig) (req : ProxyRequest) :
    (runRateLimiter env route req).Follows
      [⟨.gateway .dateNow, .ok 0⟩, ⟨.redisIncr (limiterKey env route req 0), .error .stepFailed⟩]
      (.done (.ok none)) := by
  refine follows_await.mpr ⟨.ok 0, _, rfl, ?_⟩
  exact follows_await.mpr ⟨.error .stepFailed, [], rfl, .here _⟩

theorem forward_open {env : ProxyEnv} {route : RouteConfig} {forwardPath : String} {req : ProxyRequest}
    (optional : route.auth_required = false) (absent : bearerOf req.headers = none)
    (role : lacksRole route none = false) (scope : missingScope route none = none) :
    ∃ before rest, (forward env route forwardPath req).Follows
      (before ++ [⟨.proxy route { stripped req with url := forwardPath }, .ok .finish⟩]) rest := by
  have bearer : bearerOf (stripped req).headers = none := by rw [stripped, bearerOf_strip, absent]
  have validated : validateAccessToken env (!route.auth_required) (stripped req) = .done (.ok (.ok none)) := by
    unfold validateAccessToken
    simp only [bearer, optional, Bool.not_false, if_true, Program.pure_eq]
  have enforced : (enforceAuthorization env route none (stripped req)).Follows
      [⟨.gateway .dateNow, .ok 0⟩, ⟨.redisIncr (limiterKey env route (stripped req) 0), .error .stepFailed⟩]
      (.done (.ok none)) := by
    unfold enforceAuthorization
    simp only [role, scope, Bool.false_eq_true, if_false]
    exact (runRateLimiter_down env route (stripped req)).bind (.here _)
  have dispatched : (tryCatch (do
      dispatchToUpstream route forwardPath (stripped req)
      auditAllowedIfFlagged route (stripped req) none) Proxy.next).Follows
      [⟨.proxy route { stripped req with url := forwardPath }, .ok .finish⟩]
      (afterDispatch route (stripped req) none (.ok .finish)) := by
    rw [dispatched_await]
    exact .next _ (.here _)
  unfold forward
  show ∃ before rest, (validateAccessToken env (!route.auth_required) (stripped req) >>= _).Follows _ rest
  rw [validated]
  exact ⟨_, _, enforced.bind dispatched⟩

theorem IgnoresCredential.not_honored {env : ProxyEnv} {routes : List RouteConfig} {req : ProxyRequest}
    {header : String}
    {route : RouteConfig} (ignored : IgnoresCredential env routes req header route) :
    ¬ HonorsCredential env routes req := by
  have absent : bearerOf req.headers = none := by
    refine bearerOf_eq_none.mpr fun other same => ?_
    rw [ignored.presented] at same
    cases same
    exact ignored.unrecognized
  obtain ⟨forwardPath, found⟩ := handle_matched ignored.first
  obtain ⟨before, rest, follows⟩ := @forward_open env route forwardPath req ignored.optional absent
    ((lacksRole_anonymous route).mpr ignored.roles) ((missingScope_anonymous route).mpr ignored.scope)
  have routed : (proxyRouter env routes req).Follows
      (before ++ [⟨.proxy route { stripped req with url := forwardPath }, .ok .finish⟩]) (rest.handle Proxy.next) := by
    unfold proxyRouter
    rw [found]
    exact follows.handle Proxy.next
  intro honors
  rcases honors _ _ routed before route _ _ [] rfl with ⟨claims, verified, _⟩ | ⟨missing, _⟩
  · obtain ⟨token, _, _, bearer, _⟩ := verified
    rw [absent] at bearer
    cases bearer
  · rw [ignored.presented] at missing
    cases missing

/-- The gateway dispatches a request for nobody, in spite of its Authorization header, exactly when the header
    does not begin with `Bearer ` and the route lets everybody through. -/
theorem credential_honored_iff (env : ProxyEnv) (routes : List RouteConfig) (req : ProxyRequest) :
    HonorsCredential env routes req ↔ ¬ ∃ header route, IgnoresCredential env routes req header route := by
  constructor
  · intro honors ignored
    obtain ⟨header, route, ignored⟩ := ignored
    exact ignored.not_honored honors
  · intro heeded events rest follows before route sent reply after split
    have lawful := (proxyRouter_credential env routes req).lawful Lawful.nil follows
    rcases lawful before ⟨.proxy route sent, reply⟩ after split with verified | ⟨first, optional, absent, roles, scope⟩
    · exact .inl verified
    · cases presented : req.headers.get "authorization" with
      | none => exact .inr ⟨rfl, optional⟩
      | some header =>
        have unrecognized := bearerOf_eq_none.mp absent header presented
        exact absurd ⟨header, route, presented, unrecognized, first, optional, roles, scope⟩ heeded

def basicRequest : ProxyRequest :=
  { sampleRequest "/api/users/1" with headers := [("authorization", "Basic dXNlcjpwYXNz")] }

theorem basic_credential_ignored : ¬ HonorsCredential sampleProxy [usersRoute] basicRequest := by
  have ignored : IgnoresCredential sampleProxy [usersRoute] basicRequest "Basic dXNlcjpwYXNz" usersRoute :=
    ⟨by decide +kernel, by decide +kernel, ⟨[], [], rfl, by decide +kernel, by simp⟩, rfl, rfl, rfl⟩
  exact ignored.not_honored

end GatewayProof
