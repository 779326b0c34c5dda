import AppGateway.Async.Lockstep
import AppGateway.Proxy.Refusal

namespace GatewayProof

open Async GatewayModel
open Async.Program (Follows Lockstep)

def identityNames : List String := ["x-user-id", "x-user-email", "x-user-roles", "x-auth-method", "x-tenant-id"]

def identityEntries (headers : Headers) : Headers := headers.filter fun header => header.1 ∈ identityNames

def identityOf (claims : JwtAccessTokenClaims) : Headers :=
  [("x-user-id", claims.sub), ("x-user-email", claims.email), ("x-user-roles", ",".intercalate claims.roles),
    ("x-auth-method", claims.auth_method.text)] ++
  match claims.tenant_id with
  | none => []
  | some tenantId => if tenantId = "" then [] else [("x-tenant-id", tenantId)]

def DifferOnlyIn (names : List String) (headers headers' : Headers) : Prop :=
  ∀ name, name ∉ names → headers.get name = headers'.get name

def SameHeaders (headers headers' : Headers) : Prop := ∀ name, headers.get name = headers'.get name

/-- The dispatched headers identify exactly the caller whose token this request has verified. -/
structure Identifies (env : ProxyEnv) (req : ProxyRequest) (past : List ProxyEvent) (headers : Headers) : Prop where
  verified : ∀ claims, Verified env req past claims → identityEntries headers = identityOf claims
  anonymous : (∀ claims, ¬ Verified env req past claims) → identityEntries headers = []

inductive AlikeUpstream : ProxyEvent → ProxyEvent → Prop where
  | same (event) : AlikeUpstream event event
  | dispatch (route : RouteConfig) (sent : ProxyRequest) (headers : Headers) (reply)
      (same : SameHeaders sent.headers headers) :
      AlikeUpstream ⟨.proxy route sent, reply⟩ ⟨.proxy route { sent with headers := headers }, reply⟩

section Maps

variable {headers headers' : Headers}

theorem get_filter (keeps : String → Bool) (headers : Headers) (name : String) :
    Headers.get (headers.filter fun header => keeps header.1) name =
      if keeps name then headers.get name else none := by
  induction headers with
  | nil => simp [Headers.get]
  | cons header headers ih =>
    unfold Headers.get at ih ⊢
    by_cases named : header.1 = name
    · subst named
      by_cases kept : keeps header.1
      · simp [kept]
      · simp only [List.filter_cons, kept, Bool.false_eq_true, if_false] at ih ⊢
        exact ih
    · by_cases kept : keeps header.1
      · simp only [List.filter_cons, kept, if_true, List.find?_cons, named, decide_false]
        exact ih
      · simp only [List.filter_cons, kept, Bool.false_eq_true, if_false, List.find?_cons, named, decide_false]
        exact ih

theorem get_strip (headers : Headers) (name : String) :
    (stripSpoofedHeaders headers).get name = if name ∈ spoofableIdentityHeaders then none else headers.get name := by
  have filtered := get_filter (fun name => decide (name ∉ spoofableIdentityHeaders)) headers name
  by_cases spoofable : name ∈ spoofableIdentityHeaders
  · simpa [stripSpoofedHeaders, spoofable] using filtered
  · simpa [stripSpoofedHeaders, spoofable] using filtered

theorem SameHeaders.strip (differ : DifferOnlyIn identityNames headers headers') :
    SameHeaders (stripSpoofedHeaders headers) (stripSpoofedHeaders headers') := by
  intro name
  rw [get_strip, get_strip]
  by_cases spoofable : name ∈ spoofableIdentityHeaders
  · rw [if_pos spoofable, if_pos spoofable]
  · rw [if_neg spoofable, if_neg spoofable]
    exact differ name spoofable

theorem SameHeaders.assign (same : SameHeaders headers headers') (extra : Headers) :
    SameHeaders (headers.assign extra) (headers'.assign extra) := by
  intro name
  have kept : ∀ headers : Headers, Headers.get (headers.assign extra) name =
      ((Headers.get (headers.filter fun header => decide (header.1 ∉ extra.map (·.1))) name).or
        (extra.get name)) := by
    intro headers
    unfold Headers.get Headers.assign
    rw [List.find?_append, Option.map_or]
  rw [kept, kept, get_filter fun name => decide (name ∉ extra.map (·.1)),
    get_filter fun name => decide (name ∉ extra.map (·.1)), same name]

theorem identity_strip (headers : Headers) : identityEntries (stripSpoofedHeaders headers) = [] := by
  unfold identityEntries stripSpoofedHeaders
  rw [List.filter_filter, List.filter_eq_nil_iff]
  intro header _ kept
  simp only [Bool.and_eq_true, decide_eq_true_eq] at kept
  exact kept.2 kept.1

theorem identity_build (claims : JwtAccessTokenClaims) (requestId : String) :
    identityEntries (buildIdentityHeaders claims requestId) = identityOf claims := by
  unfold identityEntries buildIdentityHeaders identityOf
  cases tenant : claims.tenant_id with
  | none => simp [identityNames]
  | some tenantId =>
    by_cases empty : tenantId = ""
    · simp [identityNames, Option.filter_some, empty]
    · simp [identityNames, Option.filter_some, empty]

theorem identity_inject (headers : Headers) (claims : JwtAccessTokenClaims) (requestId : String) :
    identityEntries ((stripSpoofedHeaders headers).assign (buildIdentityHeaders claims requestId)) =
      identityOf claims := by
  rw [← identity_build claims requestId]
  have stripped := identity_strip headers
  unfold identityEntries Headers.assign at *
  rw [List.filter_append, List.filter_filter]
  have nothing : (stripSpoofedHeaders headers).filter (fun header => decide (header.1 ∈ identityNames) &&
      decide (header.1 ∉ (buildIdentityHeaders claims requestId).map (·.1))) = [] := by
    rw [List.filter_eq_nil_iff] at stripped ⊢
    intro header member kept
    rw [Bool.and_eq_true] at kept
    exact stripped header member kept.1
  rw [nothing, List.nil_append]

end Maps

section TwoRuns

variable (env : ProxyEnv) (req : ProxyRequest) {headers : Headers} (same : SameHeaders req.headers headers)
include same

theorem validateAccessToken_same (optional : Bool) :
    validateAccessToken env optional { req with headers := headers } = validateAccessToken env optional req := by
  have bearer : bearerOf headers = bearerOf req.headers := by
    unfold bearerOf
    rw [same "authorization"]
  unfold validateAccessToken
  rw [bearer]

theorem auditDenial_same (claims : Option JwtAccessTokenClaims) (error : AppError) :
    auditDenial { req with headers := headers } claims error = auditDenial req claims error := by
  unfold auditDenial resourcePath
  rw [same "user-agent"]

theorem auditAllowedIfFlagged_same (route : RouteConfig) (claims : Option JwtAccessTokenClaims) :
    auditAllowedIfFlagged route { req with headers := headers } claims = auditAllowedIfFlagged route req claims := by
  unfold auditAllowedIfFlagged resourcePath
  rw [same "user-agent"]

theorem enforceAuthorization_same (route : RouteConfig) (claims : Option JwtAccessTokenClaims) :
    enforceAuthorization env route claims { req with headers := headers } =
      enforceAuthorization env route claims req := by
  have denies : ∀ error, deny { req with headers := headers } claims error = deny req claims error := by
    intro error
    unfold deny
    rw [auditDenial_same req same]
  unfold enforceAuthorization
  simp only [denies]
  rfl

theorem dispatch_lockstep (route : RouteConfig) (forwardPath : String) :
    Lockstep AlikeUpstream (dispatchToUpstream route forwardPath req)
      (dispatchToUpstream route forwardPath { req with headers := headers }) := by
  intro reply
  exact ⟨reply, .dispatch route { req with url := forwardPath } headers reply same, Lockstep.refl .same _⟩

theorem dispatched_lockstep (route : RouteConfig) (forwardPath : String) (auth : Option JwtAccessTokenClaims) :
    Lockstep AlikeUpstream
      (tryCatch (do dispatchToUpstream route forwardPath req; auditAllowedIfFlagged route req auth) Proxy.next)
      (tryCatch (do
        dispatchToUpstream route forwardPath { req with headers := headers }
        auditAllowedIfFlagged route { req with headers := headers } auth) Proxy.next) := by
  rw [auditAllowedIfFlagged_same req same]
  have dispatched := dispatch_lockstep req same route forwardPath
  exact (dispatched.bind fun _ => Lockstep.refl .same _).handle fun _ => Lockstep.refl .same _

end TwoRuns

theorem forward_lockstep (env : ProxyEnv) (route : RouteConfig) (forwardPath : String) (req : ProxyRequest)
    {headers : Headers} (differ : DifferOnlyIn identityNames req.headers headers) :
    Lockstep AlikeUpstream (forward env route forwardPath req)
      (forward env route forwardPath { req with headers := headers }) := by
  have same : SameHeaders (stripped req).headers (stripSpoofedHeaders headers) := .strip differ
  unfold forward
  show Lockstep AlikeUpstream (validateAccessToken env (!route.auth_required) (stripped req) >>= _)
    (validateAccessToken env (!route.auth_required)
      { stripped req with headers := stripSpoofedHeaders headers } >>= _)
  rw [validateAccessToken_same env (stripped req) same]
  refine (Lockstep.refl .same _).bind fun validated => ?_
  cases validated with
  | error authError =>
    show Lockstep AlikeUpstream (auditDenial (stripped req) none authError >>= _)
      (auditDenial { stripped req with headers := stripSpoofedHeaders headers } none authError >>= _)
    rw [auditDenial_same (stripped req) same]
    exact Lockstep.refl .same _
  | ok auth =>
    show Lockstep AlikeUpstream (enforceAuthorization env route auth (stripped req) >>= _)
      (enforceAuthorization env route auth { stripped req with headers := stripSpoofedHeaders headers } >>= _)
    rw [enforceAuthorization_same env (stripped req) same]
    refine (Lockstep.refl .same _).bind fun denial => ?_
    cases denial with
    | some denial => exact Lockstep.refl .same _
    | none =>
      cases auth with
      | none => exact dispatched_lockstep (stripped req) same route forwardPath none
      | some claims =>
        have injected := same.assign (buildIdentityHeaders claims req.requestId)
        exact dispatched_lockstep
          { stripped req with headers := (stripped req).headers.assign (buildIdentityHeaders claims req.requestId) }
          injected route forwardPath (some claims)

theorem proxyRouter_lockstep (env : ProxyEnv) (routes : List RouteConfig) (req : ProxyRequest) {headers : Headers}
    (differ : DifferOnlyIn identityNames req.headers headers) :
    Lockstep AlikeUpstream (proxyRouter env routes req) (proxyRouter env routes { req with headers := headers }) := by
  refine Lockstep.handle ?_ fun _ => Lockstep.refl .same _
  have path : resourcePath { req with headers := headers } = resourcePath req := rfl
  unfold handle
  rw [path]
  cases resolveRoute env (resourcePath req) routes with
  | error thrown => rfl
  | ok found =>
    cases found with
    | none => exact Lockstep.refl .same _
    | some resolved => exact forward_lockstep env resolved.route resolved.forwardPath req differ

theorem Verified.unique {env : ProxyEnv} {req : ProxyRequest} {past : List ProxyEvent}
    {claims claims' : JwtAccessTokenClaims} (verified : Verified env req past claims)
    (verified' : Verified env req past claims') : claims = claims' := by
  obtain ⟨token, now, rest, bearer, accepted, rfl⟩ := verified
  obtain ⟨token', now', rest', bearer', accepted', same⟩ := verified'
  rw [bearer] at bearer'
  cases bearer'
  have second := (List.cons.inj (List.cons.inj same).2).1
  cases second
  rw [accepted] at accepted'
  cases accepted'
  rfl

def IdentityPermits (env : ProxyEnv) (req : ProxyRequest) (past : List ProxyEvent) : ProxyEffect → Prop
  | .proxy _ sent => Identifies env req past sent.headers
  | _ => True

theorem identifies_anonymous {env : ProxyEnv} {req : ProxyRequest} {past : List ProxyEvent}
    (absent : bearerOf req.headers = none) : Identifies env req past (stripped req).headers where
  verified := by
    rintro claims ⟨token, _, _, bearer, _⟩
    rw [absent] at bearer
    cases bearer
  anonymous := fun _ => identity_strip req.headers

theorem identifies_verified {env : ProxyEnv} {req : ProxyRequest} {past : List ProxyEvent}
    {claims : JwtAccessTokenClaims} (verified : Verified env req past claims) :
    Identifies env req past ((stripped req).headers.assign (buildIdentityHeaders claims req.requestId)) where
  verified := by
    intro other verified'
    rw [← verified.unique verified']
    exact identity_inject req.headers claims req.requestId
  anonymous := fun none => absurd verified (none claims)

theorem forward_identifies (env : ProxyEnv) (req : ProxyRequest) (route : RouteConfig) (forwardPath : String) :
    (forward env route forwardPath req).Obeys (IdentityPermits env req) (fun _ _ => True) [] := by
  refine forward_rule (fun _ op aside => ?_) fun past auth cleared => ?_
  · cases op with
    | proxy route sent => exact aside.elim
    | _ => trivial
  · cases auth with
    | some claims => exact identifies_verified cleared.verified
    | none =>
      rcases cleared.attached with ⟨_, _, absent⟩ | ⟨claims, same, _⟩
      · exact identifies_anonymous absent
      · cases same

theorem proxyRouter_identifies (env : ProxyEnv) (routes : List RouteConfig) (req : ProxyRequest) :
    (proxyRouter env routes req).Obeys (IdentityPermits env req) (fun _ _ => True) [] := by
  refine proxyRouter_rule (fun _ op aside => ?_) fun route forwardPath _ => forward_identifies env req route forwardPath
  cases op with
  | proxy route sent => exact aside.elim
  | _ => trivial

/-- Identity headers cannot be forged: requests that differ only in them are dispatched alike, and what is
    dispatched identifies exactly the caller whose token was verified. -/
theorem identity_headers_unforgeable (env : ProxyEnv) (routes : List RouteConfig) (req : ProxyRequest)
    (events : List ProxyEvent) (rest : Proxy Unit) (follows : (proxyRouter env routes req).Follows events rest) :
    (∀ headers, DifferOnlyIn identityNames req.headers headers → ∃ events' rest',
      (proxyRouter env routes { req with headers := headers }).Follows events' rest' ∧
        List.Forall₂ AlikeUpstream events events') ∧
    ∀ before after route sent reply, events = before ++ ⟨.proxy route sent, reply⟩ :: after →
      Identifies env req before sent.headers := by
  constructor
  · intro headers differ
    obtain ⟨events', rest', follows', along, _⟩ := (proxyRouter_lockstep env routes req differ).follows follows
    exact ⟨events', rest', follows', along⟩
  · intro before after route sent reply split
    have lawful := (proxyRouter_identifies env routes req).lawful Lawful.nil follows
    exact lawful before ⟨.proxy route sent, reply⟩ after split

/-! A caller with a token who claims to be somebody else -/

def callerClaims : JwtAccessTokenClaims where
  sub := "u"
  email := "u@example.com"
  roles := ["viewer", "editor"]
  auth_method := .password
  tenant_id := some "acme"
  scope := "openid profile email api:read"
  iat := 0
  exp := 900
  nbf := 0
  iss := "http://localhost:3000"
  aud := "platform"
  jti := "j"

def tokenProxy : ProxyEnv :=
  { sampleProxy with decodeJwt := fun text => if text = "token" then .signed ⟨"kid-1", callerClaims⟩ else .forged text }

def forgingRequest : ProxyRequest :=
  { sampleRequest "/api/users/1" with
    headers := [("x-user-id", "root"), ("authorization", "Bearer token"), ("x-tenant-id", "other")] }

def unrevokedRequest : (effect : ProxyEffect) → Except Thrown effect.Reply
  | .gateway .loadSigningKeys => .ok ()
  | .gateway (.redisGet _) => .ok none
  | effect => firstRequest effect

/-- The request is dispatched, as it would be without the forged headers, with headers that identify the caller. -/
theorem forged_headers_replaced :
    (∃ events' rest', (proxyRouter tokenProxy [usersRoute]
        { forgingRequest with headers := [("authorization", "Bearer token")] }).Follows events' rest' ∧
      List.Forall₂ AlikeUpstream
        ((proxyRouter tokenProxy [usersRoute] forgingRequest).replay unrevokedRequest).1 events') ∧
    ∃ before after route sent reply,
      ((proxyRouter tokenProxy [usersRoute] forgingRequest).replay unrevokedRequest).1 =
        before ++ ⟨.proxy route sent, reply⟩ :: after ∧ Identifies tokenProxy forgingRequest before sent.headers := by
  have differ : DifferOnlyIn identityNames forgingRequest.headers [("authorization", "Bearer token")] := by
    intro name other
    have honest : "x-user-id" ≠ name ∧ "x-tenant-id" ≠ name := by
      constructor <;> rintro rfl <;> exact other (by decide)
    simp [forgingRequest, Headers.get, List.find?_cons, honest.1, honest.2]
  have sends : dispatches ((proxyRouter tokenProxy [usersRoute] forgingRequest).replay unrevokedRequest).1 ≠ [] := by
    decide +kernel
  obtain ⟨⟨route, sent⟩, dispatched⟩ := List.exists_mem_of_ne_nil _ sends
  obtain ⟨⟨op, reply⟩, member, invoked⟩ := List.mem_filterMap.mp dispatched
  obtain ⟨before, after, split⟩ := List.append_of_mem member
  have unforgeable := identity_headers_unforgeable tokenProxy [usersRoute] forgingRequest _ _
    (Program.follows_replay unrevokedRequest _)
  cases op with
  | proxy route' sent' =>
    exact ⟨unforgeable.1 _ differ, before, after, route', sent', reply, split,
      unforgeable.2 before after route' sent' reply split⟩
  | _ => cases invoked

end GatewayProof
