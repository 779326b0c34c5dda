import AppGateway.Proxy.UpstreamFailure

namespace GatewayProof

open Async GatewayModel
open Async.Program (follows_replay)

def responses (req : ProxyRequest) (events : List ProxyEvent) : List (Nat × ErrorResponse) :=
  (nextCalls events).map fun error => errorHandler error req.requestId

/-- Node's connection errors: the message for an error code and an upstream, whose host and `address:port` appear
    in the messages that are documented. -/
structure NodeNetwork where
  host : String → String
  address : String → String
  message : String → String → String
  refused : ∀ upstream, message "ECONNREFUSED" upstream = "connect ECONNREFUSED " ++ address upstream
  notFound : ∀ upstream, message "ENOTFOUND" upstream = "getaddrinfo ENOTFOUND " ++ host upstream

def DifferInUpstream (route route' : RouteConfig) : Prop := route' = { route with upstream := route'.upstream }

theorem DifferInUpstream.path {route route' : RouteConfig} (differ : DifferInUpstream route route') :
    route'.path = route.path := by
  unfold DifferInUpstream at differ
  rw [differ]

theorem resolve_differ {env : ProxyEnv} {path : String} {routes routes' : List RouteConfig}
    (differ : List.Forall₂ DifferInUpstream routes routes') {resolved resolved' : ResolvedRoute}
    (found : resolveRoute env path routes = .ok (some resolved))
    (found' : resolveRoute env path routes' = .ok (some resolved')) :
    DifferInUpstream resolved.route resolved'.route := by
  induction differ with
  | nil => cases found
  | @cons head head' rest rest' same later ih =>
    have pattern := DifferInUpstream.path same
    simp only [resolveRoute] at found found'
    rw [pattern] at found'
    cases matched : env.matchPath head.path path with
    | error thrown => simp only [matched, reduceCtorEq] at found
    | ok hit =>
      rw [matched] at found found'
      cases hit with
      | true =>
        cases found
        cases found'
        exact same
      | false => exact ih found found'

theorem upstreamError_message (service cause : String) : (upstreamError service (some cause)).message =
    "Upstream service \"" ++ service ++ "\" returned an error" ++ (if cause = "" then "." else ": " ++ cause) := by
  unfold upstreamError
  by_cases empty : cause = ""
  · simp [Option.filter_some, empty]
  · simp [Option.filter_some, empty]

theorem upstreamError_inj {service first second : String}
    (same : upstreamError service (some first) = upstreamError service (some second)) : first = second := by
  have texts := congrArg AppError.message same
  rw [upstreamError_message, upstreamError_message, String.append_right_inj] at texts
  have dotted : ∀ cause : String, ": " ++ cause ≠ "." := by
    intro cause equal
    have characters := congrArg String.toList equal
    simp at characters
  by_cases blank : first = ""
  · by_cases blank' : second = ""
    · rw [blank, blank']
    · rw [if_pos blank, if_neg blank'] at texts
      exact absurd texts.symm (dotted second)
  · by_cases blank' : second = ""
    · rw [if_neg blank, if_pos blank'] at texts
      exact absurd texts (dotted first)
    · simpa [blank, blank'] using texts

theorem errorHandler_inj {error error' : AppError} {requestId : String} :
    errorHandler (.app error) requestId = errorHandler (.app error') requestId ↔ error = error' := by
  constructor
  · intro same
    simp only [errorHandler, Prod.mk.injEq, ErrorResponse.mk.injEq, and_true] at same
    obtain ⟨status, code, message⟩ := same
    cases error
    cases error'
    simp_all
  · intro same
    rw [same]

theorem mapUpstreamError_inj {route route' : RouteConfig} (differ : DifferInUpstream route route')
    (code first second : String) : mapUpstreamError route code first = mapUpstreamError route' code second ↔
      code = "ETIMEDOUT" ∨ code = "ECONNRESET" ∨ first = second := by
  unfold mapUpstreamError
  rw [differ.path]
  by_cases timeout : code = "ETIMEDOUT" ∨ code = "ECONNRESET"
  · simp only [timeout, if_true, true_iff]
    exact timeout.elim .inl fun reset => .inr (.inl reset)
  · rw [if_neg timeout, if_neg timeout]
    constructor
    · exact fun same => .inr (.inr (upstreamError_inj same))
    · intro holds
      rcases holds with expired | reset | same
      · exact absurd (.inl expired) timeout
      · exact absurd (.inr reset) timeout
      · rw [same]

structure FailsWith (network : NodeNetwork) (env : ProxyEnv) (req : ProxyRequest) (routes : List RouteConfig)
    (code : String) (route : RouteConfig) (events : List ProxyEvent) : Prop where
  complete : ∃ outcome, (proxyRouter env routes req).Follows events (.done outcome)
  fails : ∃ sent, ⟨.proxy route sent, .ok (.error code (network.message code route.upstream))⟩ ∈ events

/-- The same network error in the dispatch of a request to two upstreams: what the client learns is the same exactly
    when the error is mapped to a timeout, or when Node words it alike for both. -/
theorem upstream_leak_iff (network : NodeNetwork) {env : ProxyEnv} {req : ProxyRequest}
    {routes routes' : List RouteConfig} (differ : List.Forall₂ DifferInUpstream routes routes')
    {code : String} {route route' : RouteConfig} {events events' : List ProxyEvent}
    (run : FailsWith network env req routes code route events)
    (run' : FailsWith network env req routes' code route' events') :
    (responses req events = responses req events' ↔ code = "ETIMEDOUT" ∨ code = "ECONNRESET" ∨
      network.message code route.upstream = network.message code route'.upstream) ∧
    (code = "ECONNREFUSED" →
      (responses req events = responses req events' ↔ network.address route.upstream =
        network.address route'.upstream)) ∧
    (code = "ENOTFOUND" →
      (responses req events = responses req events' ↔ network.host route.upstream = network.host route'.upstream)) := by
  obtain ⟨outcome, follows⟩ := run.complete
  obtain ⟨outcome', follows'⟩ := run'.complete
  obtain ⟨sent, fails⟩ := run.fails
  obtain ⟨sent', fails'⟩ := run'.fails
  have dispatched := proxyRouter_dispatched follows fails
  have dispatched' := proxyRouter_dispatched follows' fails'
  obtain ⟨forwardPath, found⟩ := dispatched.first.resolves
  obtain ⟨forwardPath', found'⟩ := dispatched'.first.resolves
  have routesDiffer : DifferInUpstream route route' := resolve_differ differ found found'
  have equal : responses req events = responses req events' ↔ code = "ETIMEDOUT" ∨ code = "ECONNRESET" ∨
      network.message code route.upstream = network.message code route'.upstream := by
    rw [← mapUpstreamError_inj routesDiffer, ← @errorHandler_inj _ _ req.requestId, responses, responses,
      dispatched.calls, dispatched'.calls]
    simp only [failureOf, List.map_cons, List.map_nil, List.cons.injEq, and_true]
  refine ⟨equal, fun refused => ?_, fun unknown => ?_⟩
  · rw [equal, refused, network.refused, network.refused]
    simp
  · rw [equal, unknown, network.notFound, network.notFound]
    simp

/-! Two deployments of the same service -/

def sampleNetwork : NodeNetwork where
  host upstream := if upstream = "http://user-service:3001" then "user-service" else "user-service-2"
  address upstream := if upstream = "http://user-service:3001" then "10.0.0.7:3001" else "10.0.0.8:3001"
  message code upstream :=
    if code = "ECONNREFUSED" then
      "connect ECONNREFUSED " ++ if upstream = "http://user-service:3001" then "10.0.0.7:3001" else "10.0.0.8:3001"
    else if code = "ENOTFOUND" then
      "getaddrinfo ENOTFOUND " ++ if upstream = "http://user-service:3001" then "user-service" else "user-service-2"
    else "socket hang up"
  refused _ := rfl
  notFound _ := rfl

def movedRoute : RouteConfig := { usersRoute with upstream := "http://user-service-2:3001" }

theorem moved_differs : List.Forall₂ DifferInUpstream [usersRoute] [movedRoute] := by
  have differ : DifferInUpstream usersRoute movedRoute := rfl
  exact .cons differ .nil

def failingRequest (code : String) : (effect : ProxyEffect) → Except Thrown effect.Reply
  | .proxy route _ => .ok (.error code (sampleNetwork.message code route.upstream))
  | effect => firstRequest effect

def failingRun (code : String) (route : RouteConfig) : List ProxyEvent :=
  ((proxyRouter sampleProxy [route] (sampleRequest "/api/users/1")).replay (failingRequest code)).1

theorem failingRun_fails {code : String} {route : RouteConfig}
    (dispatched : (route, sampleRequest "/api/users/1") ∈ dispatches (failingRun code route)) :
    FailsWith sampleNetwork sampleProxy (sampleRequest "/api/users/1") [route] code route (failingRun code route) :=
  ⟨⟨_, follows_replay _ _⟩, ⟨_, replay_dispatched dispatched⟩⟩

/-- A connection that is reset is answered alike for both. -/
theorem reset_answered_alike : responses (sampleRequest "/api/users/1") (failingRun "ECONNRESET" usersRoute) =
    responses (sampleRequest "/api/users/1") (failingRun "ECONNRESET" movedRoute) :=
  (upstream_leak_iff sampleNetwork moved_differs (failingRun_fails (by decide +kernel))
    (failingRun_fails (by decide +kernel))).1.mpr (.inr (.inl rfl))

/-- A connection that is refused is not: the address of the upstream is in the answer. -/
theorem refused_address_leaks : ¬ ∀ (network : NodeNetwork) (env : ProxyEnv) (req : ProxyRequest)
    (routes routes' : List RouteConfig) (code : String) (route route' : RouteConfig) (events events' : List ProxyEvent),
    List.Forall₂ DifferInUpstream routes routes' → FailsWith network env req routes code route events →
      FailsWith network env req routes' code route' events' → responses req events = responses req events' := by
  intro hides
  have same := hides sampleNetwork sampleProxy (sampleRequest "/api/users/1") [usersRoute] [movedRoute] "ECONNREFUSED"
    usersRoute movedRoute _ _ moved_differs (failingRun_fails (by decide +kernel))
    (failingRun_fails (by decide +kernel))
  revert same
  decide +kernel

end GatewayProof
