import AppGateway.Model.Platform
import AppGateway.Proxy.IdentityHeaders

namespace GatewayProof

open Async GatewayModel
open Async.Program (Follows Uses follows_done follows_await follows_replay)

section Dispatched

variable {env : ProxyEnv} {route : RouteConfig} {forwardPath : String} {req : ProxyRequest}
  {auth : Option JwtAccessTokenClaims} {events : List ProxyEvent} {outcome : Except Thrown Unit}

theorem enforceAuthorization_passed
    (follows : (enforceAuthorization env route auth req).Follows events (.done (.ok none))) :
    ∀ event ∈ events, Silent event.op := by
  unfold enforceAuthorization at follows
  split at follows
  · cases (deny_follows follows).1
  split at follows
  · cases (deny_follows follows).1
  rcases follows.bind_cases with ⟨first, rest, limit, rfl, ran, returned⟩ | ⟨thrown, same, _⟩
  · cases limit with
    | some error => cases (deny_follows returned).1
    | none =>
      obtain ⟨rfl, -⟩ := follows_done.mp returned
      rw [List.append_nil]
      exact ran.uses runRateLimiter_silent
  · cases same

theorem enforceAuthorization_aside (route : RouteConfig) (auth : Option JwtAccessTokenClaims) (req : ProxyRequest) :
    (enforceAuthorization env route auth req).Uses Aside := by
  have obeys : (enforceAuthorization env route auth req).Obeys (fun _ op => Aside op) _ [] :=
    enforceAuthorization_obeys route auth req fun _ _ aside => aside
  exact obeys.uses fun _ _ aside => aside

theorem Silent.aside {effect : ProxyEffect} (silent : Silent effect) : Aside effect := by
  cases effect <;> trivial

theorem validateAccessToken_attached
    (follows : (validateAccessToken env (!route.auth_required) (stripped req)).Follows events (.done (.ok (.ok auth))))
    :
    (auth = none ∧ bearerOf req.headers = none) ∨ ∃ claims, auth = some claims ∧ Verified env req events claims := by
  have obeys : (validateAccessToken env (!route.auth_required) (stripped req)).Obeys (fun _ _ => True) _ [] :=
    validateAccessToken_obeys (!route.auth_required) req fun _ _ _ => trivial
  rcases obeys.follows follows auth rfl with ⟨nothing, _, absent⟩ | attached
  · exact .inl ⟨nothing, absent⟩
  · exact .inr attached

theorem afterDispatch_aside (reply : Except Thrown UpstreamEvent) :
    (afterDispatch route req auth reply).Uses Aside := by
  have audited : (auditAllowedIfFlagged route req auth).Uses Aside := by
    unfold auditAllowedIfFlagged
    split
    · trivial
    · refine ⟨trivial, fun written => ?_⟩
      cases written <;> trivial
  rcases reply with thrown | event
  · exact ⟨trivial, fun _ => trivial⟩
  cases event with
  | finish => exact audited.handle fun _ => ⟨trivial, fun _ => trivial⟩
  | close => exact audited.handle fun _ => ⟨trivial, fun _ => trivial⟩
  | error code message => exact ⟨trivial, fun _ => trivial⟩
  | failed message => exact ⟨trivial, fun _ => trivial⟩

theorem forward_dispatched (follows : (forward env route forwardPath req).Follows events (.done outcome))
    {called : RouteConfig} {sent : ProxyRequest} {reply : Except Thrown UpstreamEvent}
    (member : ⟨.proxy called sent, reply⟩ ∈ events) :
    called = route ∧ ∃ auth checks tail, events = checks ++ ⟨.proxy route sent, reply⟩ :: tail ∧
      (∀ event ∈ checks, Silent event.op) ∧
      ((auth = none ∧ bearerOf req.headers = none) ∨ ∃ claims, auth = some claims ∧ Verified env req checks claims) ∧
      (afterDispatch route (injected req auth) auth reply).Follows tail (.done outcome) := by
  have absent : ∀ {history : List ProxyEvent}, (∀ event ∈ history, Aside event.op) →
      (⟨.proxy called sent, reply⟩ : ProxyEvent) ∉ history := fun other inside => other _ inside
  have quiet : ∀ {history : List ProxyEvent}, (∀ event ∈ history, Silent event.op) →
    ∀ event ∈ history, Aside event.op :=
    fun silent event inside => (silent event inside).aside
  have nexts : ∀ {error : Thrown} {history : List ProxyEvent},
      (Proxy.next error).Follows history (.done outcome) → ∀ event ∈ history, Aside event.op :=
    fun handed => handed.uses ⟨trivial, fun _ => trivial⟩
  rcases follows.bind_cases with ⟨first, rest, validated, rfl, ran, went⟩ | ⟨thrown, _, ran⟩
  · have verified : ∀ event ∈ first, Silent event.op := ran.uses (validateAccessToken_silent _)
    rcases List.mem_append.mp member with early | late
    · exact absurd early (absent (quiet verified))
    cases validated with
    | error error =>
      have denied : (auditDenial (stripped req) none error).Uses Aside := by
        refine ⟨trivial, fun written => ?_⟩
        cases written <;> trivial
      have refused : (auditDenial (stripped req) none error >>= fun _ => Proxy.next (.app error)).Uses Aside :=
        denied.bind fun _ => ⟨trivial, fun _ => trivial⟩
      exact absurd late (absent (went.uses refused))
    | ok auth =>
      rcases went.bind_cases with ⟨checked, last, denial, rfl, enforced, handed⟩ | ⟨thrown, _, enforced⟩
      · rcases List.mem_append.mp late with checking | dispatching
        · exact absurd checking (absent (enforced.uses (enforceAuthorization_aside ..)))
        cases denial with
        | some error => exact absurd dispatching (absent (nexts handed))
        | none =>
          have awaits : (Program.await (.proxy route { injected req auth with url := forwardPath })
              (afterDispatch route (injected req auth) auth)).Follows last (.done outcome) := by
            rw [← dispatched_await]
            cases auth <;> exact handed
          obtain ⟨answer, later, rfl, tail⟩ := follows_await.mp awaits
          rcases List.mem_cons.mp dispatching with same | after
          · cases same
            refine ⟨rfl, auth, first ++ checked, later, by rw [List.append_assoc], fun event inside => ?_, ?_, tail⟩
            · exact (List.mem_append.mp inside).elim (verified event) (enforceAuthorization_passed enforced event)
            · rcases validateAccessToken_attached ran with nothing | ⟨claims, same, proof⟩
              · exact .inl nothing
              · exact .inr ⟨claims, same, proof.grow (List.prefix_append first checked)⟩
          · exact absurd after (absent (tail.uses (afterDispatch_aside answer)))
      · exact absurd late (absent (enforced.uses (enforceAuthorization_aside ..)))
  · exact absurd member (absent (quiet (ran.uses (validateAccessToken_silent _))))

end Dispatched

def allowedEntry (req : ProxyRequest) (auth : Option JwtAccessTokenClaims) : AuditLogEntry :=
  { event_type := "proxy.request_allowed"
    outcome := .success
    resource := resourcePath req
    user_id := auth.map (·.sub)
    ip_address := req.ip.filter (· ≠ "")
    user_agent := req.headers.get "user-agent" }

def failureOf (route : RouteConfig) : Except Thrown UpstreamEvent → List Thrown
  | .ok .finish | .ok .close => []
  | .ok (.error code message) => [.app (mapUpstreamError route code message)]
  | .ok (.failed message) => [.error message]
  | .error thrown => [thrown]

def Answered (reply : Except Thrown UpstreamEvent) : Prop := reply = .ok .finish ∨ reply = .ok .close

section After

variable {route : RouteConfig} {req : ProxyRequest} {auth : Option JwtAccessTokenClaims} {tail : List ProxyEvent}
  {outcome : Except Thrown Unit} {reply : Except Thrown UpstreamEvent}

theorem auditAllowedIfFlagged_follows (follows : (auditAllowedIfFlagged route req auth).Follows tail (.done outcome)) :
    outcome = .ok () ∧ nextCalls tail = [] ∧
      auditWrites tail = if route.audit_allowed_requests then [allowedEntry req auth] else [] := by
  unfold auditAllowedIfFlagged at follows
  cases flagged : route.audit_allowed_requests with
  | false =>
    simp only [flagged, Bool.false_eq_true, not_false_eq_true, if_true] at follows
    obtain ⟨rfl, same⟩ := follows_done.mp follows
    cases same
    exact ⟨rfl, rfl, rfl⟩
  | true =>
    simp only [flagged, not_true, if_false] at follows
    obtain ⟨written, later, rfl, ended⟩ := follows_await.mp follows
    cases written <;>
    · obtain ⟨rfl, same⟩ := follows_done.mp ended
      cases same
      exact ⟨rfl, rfl, rfl⟩

theorem afterDispatch_answered (answered : Answered reply) :
    afterDispatch route req auth reply = tryCatch (auditAllowedIfFlagged route req auth) Proxy.next := by
  rcases answered with rfl | rfl <;> rfl

theorem afterDispatch_failed (failed : ¬ Answered reply) : ∃ error, failureOf route reply = [error] ∧
    afterDispatch route req auth reply = Proxy.next error := by
  rcases reply with thrown | event
  · exact ⟨_, rfl, rfl⟩
  cases event with
  | finish => exact absurd (.inl rfl) failed
  | close => exact absurd (.inr rfl) failed
  | error code message => exact ⟨_, rfl, rfl⟩
  | failed message => exact ⟨_, rfl, rfl⟩

theorem afterDispatch_follows (follows : (afterDispatch route req auth reply).Follows tail (.done outcome)) :
    outcome = .ok () ∧ nextCalls tail = failureOf route reply ∧
      (Answered reply → auditWrites tail = if route.audit_allowed_requests then [allowedEntry req auth] else []) ∧
      (¬ Answered reply → auditWrites tail = []) := by
  by_cases answered : Answered reply
  · rw [afterDispatch_answered answered] at follows
    have silentEnd : failureOf route reply = [] := by rcases answered with rfl | rfl <;> rfl
    rcases follows.handle_cases with ⟨_, rfl, audited⟩ | ⟨_, _, thrown, _, audited, _⟩
    · obtain ⟨-, calls, writes⟩ := auditAllowedIfFlagged_follows audited
      exact ⟨rfl, calls.trans silentEnd.symm, fun _ => writes, fun failed => absurd answered failed⟩
    · cases (auditAllowedIfFlagged_follows audited).1
  · obtain ⟨error, failure, handsOn⟩ := @afterDispatch_failed route req auth reply answered
    rw [handsOn] at follows
    obtain ⟨returned, calls, writes, -⟩ := next_follows follows
    exact ⟨returned, calls.trans failure.symm, fun also => absurd also answered, fun _ => writes⟩

end After

structure Dispatched (env : ProxyEnv) (routes : List RouteConfig) (req : ProxyRequest) (route : RouteConfig)
    (reply : Except Thrown UpstreamEvent) (events : List ProxyEvent) : Prop where
  first : FirstMatch env routes (resourcePath req) route
  calls : nextCalls events = failureOf route reply
  failed : ¬ Answered reply → auditWrites events = []
  answered : Answered reply → ∃ auth,
    ((auth = none ∧ bearerOf req.headers = none) ∨ ∃ claims, auth = some claims ∧ Verified env req events claims) ∧
      auditWrites events = if route.audit_allowed_requests then [allowedEntry (injected req auth) auth] else []

section Router

variable {env : ProxyEnv} {routes : List RouteConfig} {req : ProxyRequest} {events : List ProxyEvent}
  {outcome : Except Thrown Unit} {route : RouteConfig} {sent : ProxyRequest} {reply : Except Thrown UpstreamEvent}

theorem next_no_dispatch {error : Thrown} (follows : (Proxy.next error).Follows events (.done outcome)) :
    (⟨.proxy route sent, reply⟩ : ProxyEvent) ∉ events := by
  obtain ⟨answer, later, rfl, tail⟩ := follows_await.mp follows
  obtain ⟨rfl, -⟩ := follows_done.mp tail
  intro inside
  cases List.mem_singleton.mp inside

theorem handle_dispatched (follows : (handle env routes req).Follows events (.done outcome))
    (member : ⟨.proxy route sent, reply⟩ ∈ events) :
    outcome = .ok () ∧ Dispatched env routes req route reply events := by
  unfold handle at follows
  split at follows
  · obtain ⟨rfl, -⟩ := follows_done.mp follows
    cases member
  · exact absurd member (next_no_dispatch follows)
  · rename_i resolved found
    obtain ⟨rfl, auth, checks, tail, rfl, silent, attached, after⟩ := forward_dispatched follows member
    obtain ⟨noNext, noAudit, -⟩ := silent_history silent
    obtain ⟨returned, calls, writes, unwritten⟩ := afterDispatch_follows after
    have split : ∀ last : List ProxyEvent, ∀ event : ProxyEvent,
      checks ++ event :: last = checks ++ [event] ++ last := by
      simp
    refine ⟨returned, resolveRoute_first found, ?_, fun failed => ?_, fun answered => ⟨auth, ?_, ?_⟩⟩
    · rw [split, nextCalls_append, nextCalls_append, noNext, calls]
      rfl
    · rw [split, auditWrites_append, auditWrites_append, noAudit, unwritten failed]
      rfl
    · rcases attached with nothing | ⟨claims, same, proof⟩
      · exact .inl nothing
      · exact .inr ⟨claims, same, proof.grow (List.prefix_append ..)⟩
    · rw [split, auditWrites_append, auditWrites_append, noAudit, writes answered]
      rfl

theorem proxyRouter_dispatched (follows : (proxyRouter env routes req).Follows events (.done outcome))
    (member : ⟨.proxy route sent, reply⟩ ∈ events) : Dispatched env routes req route reply events := by
  rcases follows.handle_cases with ⟨_, _, handled⟩ | ⟨first, rest, thrown, rfl, handled, handed⟩
  · exact (handle_dispatched handled member).2
  · rcases List.mem_append.mp member with early | late
    · cases (handle_dispatched handled early).1
    · exact absurd late (next_no_dispatch handed)

end Router

/-! The audit trail of flagged routes -/

def NamesRequest (env : ProxyEnv) (req : ProxyRequest) (events : List ProxyEvent) (entry : AuditLogEntry) : Prop :=
  entry.resource = some (resourcePath req) ∧
    (∀ claims, Verified env req events claims → entry.user_id = some claims.sub) ∧
    ((∀ claims, ¬ Verified env req events claims) → entry.user_id = none)

/-- Every dispatch on a flagged route has led to an attempt to write such an entry. -/
def AuditsDispatches (env : ProxyEnv) (req : ProxyRequest) (events : List ProxyEvent) : Prop :=
  ∀ route sent reply, ⟨.proxy route sent, reply⟩ ∈ events → route.audit_allowed_requests = true →
    ∃ entry ∈ auditWrites events, NamesRequest env req events entry

theorem allowedEntry_names {env : ProxyEnv} {req : ProxyRequest} {events : List ProxyEvent}
    {auth : Option JwtAccessTokenClaims}
    (attached : (auth = none ∧ bearerOf req.headers = none) ∨
      ∃ claims, auth = some claims ∧ Verified env req events claims) :
    NamesRequest env req events (allowedEntry (injected req auth) auth) := by
  rcases attached with ⟨rfl, absent⟩ | ⟨claims, rfl, proof⟩
  · refine ⟨rfl, fun claims verified => ?_, fun _ => rfl⟩
    obtain ⟨token, _, _, bearer, _⟩ := verified
    rw [absent] at bearer
    cases bearer
  · refine ⟨rfl, fun other verified => ?_, fun nobody => absurd proof (nobody claims)⟩
    rw [proof.unique verified]
    rfl

/-- A run of a handler that has dispatched on a flagged route is audited exactly when its response was finished
    or closed, not when the upstream failed. -/
theorem audit_trail_iff {env : ProxyEnv} {routes : List RouteConfig} {req : ProxyRequest} {events : List ProxyEvent}
    {outcome : Except Thrown Unit} (follows : (proxyRouter env routes req).Follows events (.done outcome))
    {route : RouteConfig} {sent : ProxyRequest} {reply : Except Thrown UpstreamEvent}
    (handed : ⟨.proxy route sent, reply⟩ ∈ events) (flagged : route.audit_allowed_requests = true) :
    AuditsDispatches env req events ↔ reply = .ok .finish ∨ reply = .ok .close := by
  have dispatched := proxyRouter_dispatched follows handed
  constructor
  · intro audits
    by_contra failed
    obtain ⟨entry, written, -⟩ := audits route sent reply handed flagged
    rw [dispatched.failed failed] at written
    cases written
  · intro answered other sent' reply' _ _
    obtain ⟨auth, attached, writes⟩ := dispatched.answered answered
    rw [flagged, if_pos rfl] at writes
    exact ⟨_, by rw [writes]; exact List.mem_singleton_self _, allowedEntry_names attached⟩

/-! A flagged route -/

def auditedRoute : RouteConfig := { usersRoute with audit_allowed_requests := true }

def refusedRequest : (effect : ProxyEffect) → Except Thrown effect.Reply
  | .proxy .. => .ok (.error "ECONNREFUSED" "connect ECONNREFUSED 10.0.0.7:3001")
  | effect => firstRequest effect

theorem replay_dispatched {answers : (effect : ProxyEffect) → Except Thrown effect.Reply} {program : Proxy Unit}
    {route : RouteConfig} {sent : ProxyRequest} (dispatched : (route, sent) ∈ dispatches (program.replay answers).1) :
    ⟨.proxy route sent, answers (.proxy route sent)⟩ ∈ (program.replay answers).1 := by
  obtain ⟨⟨op, reply⟩, present, same⟩ := List.mem_filterMap.mp dispatched
  have answer := Program.replay_reply answers program _ present
  cases op with
  | proxy route' sent' =>
    cases same
    have told : reply = answers (.proxy route sent) := answer
    rw [← told]
    exact present
  | _ => cases same

theorem finished_request_audited : AuditsDispatches sampleProxy (sampleRequest "/api/users/1")
    ((proxyRouter sampleProxy [auditedRoute] (sampleRequest "/api/users/1")).replay firstRequest).1 :=
  (audit_trail_iff (follows_replay firstRequest _) (@replay_dispatched _ _ auditedRoute
    (sampleRequest "/api/users/1") (by decide +kernel)) rfl).mpr (.inl rfl)

/-- An upstream that refuses the connection: nothing is audited. -/
theorem refused_request_unaudited : ¬ AuditsDispatches sampleProxy (sampleRequest "/api/users/1")
    ((proxyRouter sampleProxy [auditedRoute] (sampleRequest "/api/users/1")).replay refusedRequest).1 := by
  intro audits
  have handed : (auditedRoute, sampleRequest "/api/users/1") ∈ dispatches
      ((proxyRouter sampleProxy [auditedRoute] (sampleRequest "/api/users/1")).replay refusedRequest).1 := by
    decide +kernel
  obtain ⟨entry, written, -⟩ := audits auditedRoute _ _ (replay_dispatched handed) rfl
  have none_written : auditWrites
      ((proxyRouter sampleProxy [auditedRoute] (sampleRequest "/api/users/1")).replay refusedRequest).1 = [] := by
    decide +kernel
  rw [none_written] at written
  cases written

end GatewayProof
