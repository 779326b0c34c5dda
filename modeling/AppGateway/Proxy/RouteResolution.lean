import AppGateway.Codec.Percent
import AppGateway.Model.Platform
import AppGateway.Model.RouteSchema
import AppGateway.Proxy.Mediation

namespace GatewayProof

open Async GatewayModel
open Codec.Percent (decodeURIComponent WellFormed decodes_iff)

/-- What is documented of path-to-regexp: `match` throws on a pattern outside its grammar, and what the regexp of
    another captures, a wildcard's segments one by one, is decoded. -/
structure PathToRegexp (env : ProxyEnv) where
  regexp : String → Option (String → Option (List String))
  ungrammatical : ∀ pattern path, regexp pattern = none → ∃ message,
    env.matchPath pattern path = .error (.error message)
  unmatched : ∀ pattern path exec, regexp pattern = some exec → exec path = none →
  env.matchPath pattern path = .ok false
  matched : ∀ pattern path exec captures, regexp pattern = some exec → exec path = some captures →
    (∀ capture ∈ captures, (decodeURIComponent capture.toList).isSome = true) → env.matchPath pattern path = .ok true
  malformed : ∀ pattern path exec captures capture, regexp pattern = some exec → exec path = some captures →
    capture ∈ captures → decodeURIComponent capture.toList = none →
    ∃ message, env.matchPath pattern path = .error (.error message)

def Resolvable {env : ProxyEnv} (package : PathToRegexp env) (path : String) : List RouteConfig → Prop
  | [] => True
  | route :: routes => ∃ exec, package.regexp route.path = some exec ∧
    match exec path with
    | some captures => ∀ capture ∈ captures, WellFormed capture.toList
    | none => Resolvable package path routes

section Resolution

variable {env : ProxyEnv} {path : String} {routes : List RouteConfig} {route : RouteConfig}

inductive MatchCase (package : PathToRegexp env) (pattern path : String) : Except Thrown Bool → Prop where
  | ungrammatical (message : String) (outside : package.regexp pattern = none) :
      MatchCase package pattern path (.error (.error message))
  | unmatched {exec} (compiled : package.regexp pattern = some exec) (missed : exec path = none) :
      MatchCase package pattern path (.ok false)
  | matched {exec captures} (compiled : package.regexp pattern = some exec) (hit : exec path = some captures)
      (decoded : ∀ capture ∈ captures, WellFormed capture.toList) : MatchCase package pattern path (.ok true)
  | malformed {exec captures capture} (message : String) (compiled : package.regexp pattern = some exec)
      (hit : exec path = some captures) (member : capture ∈ captures) (undecodable : ¬ WellFormed capture.toList) :
      MatchCase package pattern path (.error (.error message))

theorem PathToRegexp.cases (package : PathToRegexp env) (pattern path : String) :
    MatchCase package pattern path (env.matchPath pattern path) := by
  cases compiled : package.regexp pattern with
  | none =>
    obtain ⟨message, thrown⟩ := package.ungrammatical pattern path compiled
    rw [thrown]
    exact .ungrammatical message compiled
  | some exec =>
    cases hit : exec path with
    | none =>
      rw [package.unmatched pattern path exec compiled hit]
      exact .unmatched compiled hit
    | some captures =>
      by_cases decoded : ∀ capture ∈ captures, WellFormed capture.toList
      · rw [package.matched pattern path exec captures compiled hit fun capture member =>
          decodes_iff.mpr (decoded capture member)]
        exact .matched compiled hit decoded
      · push Not at decoded
        obtain ⟨capture, member, undecodable⟩ := decoded
        have failed : decodeURIComponent capture.toList = none := by
          rw [← decodes_iff] at undecodable
          simpa using undecodable
        obtain ⟨message, thrown⟩ := package.malformed pattern path exec captures capture compiled hit member failed
        rw [thrown]
        exact .malformed message compiled hit member undecodable

theorem Resolvable.returns {package : PathToRegexp env} (resolvable : Resolvable package path routes) :
    ∃ resolved, resolveRoute env path routes = .ok resolved := by
  induction routes with
  | nil => exact ⟨none, rfl⟩
  | cons route routes ih =>
    obtain ⟨exec, compiled, rest⟩ := resolvable
    unfold resolveRoute
    generalize answer : env.matchPath route.path path = reply
    cases answer ▸ package.cases route.path path with
    | ungrammatical message outside =>
      rw [compiled] at outside
      cases outside
    | unmatched compiled' missed =>
      rw [compiled] at compiled'
      cases compiled'
      rw [missed] at rest
      exact ih rest
    | matched compiled' hit decoded => exact ⟨_, rfl⟩
    | malformed message compiled' hit member undecodable =>
      rw [compiled] at compiled'
      cases compiled'
      rw [hit] at rest
      exact absurd (rest _ member) undecodable

theorem not_resolvable_throws {package : PathToRegexp env} (stuck : ¬ Resolvable package path routes) :
    ∃ message, resolveRoute env path routes = .error (.error message) := by
  induction routes with
  | nil => exact absurd trivial stuck
  | cons route routes ih =>
    unfold resolveRoute
    generalize answer : env.matchPath route.path path = reply
    cases answer ▸ package.cases route.path path with
    | ungrammatical message outside => exact ⟨message, rfl⟩
    | unmatched compiled missed =>
      refine ih fun rest => stuck ⟨_, compiled, ?_⟩
      rw [missed]
      exact rest
    | matched compiled hit decoded =>
      refine absurd ⟨_, compiled, ?_⟩ stuck
      rw [hit]
      exact decoded
    | malformed message compiled hit member undecodable => exact ⟨message, rfl⟩

/-- The resolution step returns exactly on the resolvable paths; any other request is answered with a 500. -/
theorem resolveRoute_returns_iff (package : PathToRegexp env) (routes : List RouteConfig) (req : ProxyRequest) :
    ((∃ resolved, resolveRoute env (resourcePath req) routes = .ok resolved) ↔
      Resolvable package (resourcePath req) routes) ∧
    (¬ Resolvable package (resourcePath req) routes → ∃ thrown, proxyRouter env routes req = Proxy.next thrown ∧
      (errorHandler thrown req.requestId).1 = 500) := by
  refine ⟨⟨fun returned => ?_, Resolvable.returns⟩, fun stuck => ?_⟩
  · by_contra stuck
    obtain ⟨resolved, found⟩ := returned
    obtain ⟨message, thrown⟩ := not_resolvable_throws stuck
    rw [found] at thrown
    cases thrown
  · obtain ⟨message, thrown⟩ := not_resolvable_throws stuck
    refine ⟨.error message, ?_, rfl⟩
    unfold proxyRouter handle
    rw [thrown]
    rfl

end Resolution

/-! A gateway whose matchers come from regexps -/

def matchOf (regexp : String → Option (String → Option (List String))) (pattern path : String) : Except Thrown Bool :=
  match regexp pattern with
  | none => .error (.error "TypeError: Missing parameter name")
  | some exec =>
    match exec path with
    | none => .ok false
    | some captures =>
      if captures.all fun capture => (decodeURIComponent capture.toList).isSome then .ok true
      else .error (.error "URIError: URI malformed")

def PathToRegexp.of (env : ProxyEnv) (regexp : String → Option (String → Option (List String))) :
    PathToRegexp { env with matchPath := matchOf regexp } where
  regexp := regexp
  ungrammatical := by
    intro pattern path outside
    exact ⟨_, by simp only [matchOf, outside]; rfl⟩
  unmatched := by
    intro pattern path exec compiled missed
    simp only [matchOf, compiled, missed]
  matched := by
    intro pattern path exec captures compiled hit decoded
    have every : captures.all (fun capture => (decodeURIComponent capture.toList).isSome) = true :=
      List.all_eq_true.mpr decoded
    simp only [matchOf, compiled, hit, every, if_true]
  malformed := by
    intro pattern path exec captures capture compiled hit member failed
    have some_fails : ¬ captures.all (fun capture => (decodeURIComponent capture.toList).isSome) = true := by
      intro every
      have decoded := List.all_eq_true.mp every capture member
      simp [failed] at decoded
    exact ⟨_, by simp only [matchOf, compiled, hit, if_neg some_fails]; rfl⟩

def usersRegexp (pattern : String) : Option (String → Option (List String)) :=
  if pattern = "/api/users/*rest" then
    some fun path =>
      let rest := path.toList.drop 11
      if "/api/users/".toList.isPrefixOf path.toList ∧ rest ≠ [] then some (split '/' (String.ofList rest)) else none
  else none

def regexpProxy : ProxyEnv := { sampleProxy with matchPath := matchOf usersRegexp }

theorem regexp_answers :
    (∃ resolved, resolveRoute regexpProxy (resourcePath (sampleRequest "/api/users/42")) [usersRoute] = .ok resolved) ∧
      ∃ thrown, proxyRouter regexpProxy [usersRoute] (sampleRequest "/api/users/%") = Proxy.next thrown ∧
        (errorHandler thrown "req").1 = 500 := by
  have numbered := (resolveRoute_returns_iff (.of sampleProxy usersRegexp) [usersRoute]
    (sampleRequest "/api/users/42")).1
  have percent := resolveRoute_returns_iff (.of sampleProxy usersRegexp) [usersRoute] (sampleRequest "/api/users/%")
  constructor
  · refine numbered.mpr ⟨_, rfl, ?_⟩
    intro capture member
    have segments : split '/' (String.ofList ((resourcePath (sampleRequest "/api/users/42")).toList.drop 11)) =
        ["42"] := by decide +kernel
    rw [segments] at member
    rw [List.mem_singleton.mp member]
    exact decodes_iff.mp (by decide)
  · refine percent.2 ?_
    rintro ⟨exec, compiled, decoded⟩
    cases compiled
    have captured : WellFormed "%".toList := decoded "%" (by decide)
    exact absurd (decodes_iff.mpr captured) (by decide)

def usersInput (path : String) : RouteConfigInput where
  path := path
  upstream := "http://localhost:4001"
  auth_required := true
  required_scope := none
  allowed_roles := none
  rate_limit_override := none
  strip_prefix := false
  timeout_ms := some 30000
  audit_allowed_requests := some false

/-- Both a pattern and a path can be the cause. -/
theorem accepted_route_throws :
    (∃ routes, routeConfigListSchema (fun url => "http://".toList.isPrefixOf url.toList)
        [usersInput "/api/users/:path*"] = .ok routes ∧
      ∀ resolved, resolveRoute regexpProxy "/api/users/42" routes ≠ .ok resolved) ∧
    ∃ routes, routeConfigListSchema (fun url => "http://".toList.isPrefixOf url.toList)
        [usersInput "/api/users/*rest"] = .ok routes ∧
      ∀ resolved, resolveRoute regexpProxy "/api/users/%" routes ≠ .ok resolved := by
  constructor
  · refine ⟨_, rfl, fun resolved same => ?_⟩
    have thrown : resolveRoute regexpProxy "/api/users/42" [(usersInput "/api/users/:path*").parsed] =
        .error (.error "TypeError: Missing parameter name") := by rfl
    rw [List.map_cons, List.map_nil, thrown] at same
    cases same
  · refine ⟨_, rfl, fun resolved same => ?_⟩
    have thrown : resolveRoute regexpProxy "/api/users/%" [(usersInput "/api/users/*rest").parsed] =
        .error (.error "URIError: URI malformed") := by rfl
    rw [List.map_cons, List.map_nil, thrown] at same
    cases same

end GatewayProof
