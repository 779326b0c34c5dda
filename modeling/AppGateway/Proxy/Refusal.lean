import AppGateway.Handlers.Protocol
import AppGateway.Proxy.Mediation

namespace GatewayProof

open Async GatewayModel
open Async.Program (Follows Uses follows_done follows_await follows_replay)

def nextCalls (events : List ProxyEvent) : List Thrown :=
  events.filterMap fun event => match event.op with
    | .next error => some error
    | _ => none

def auditWrites (events : List ProxyEvent) : List AuditLogEntry :=
  events.filterMap fun event => match event.op with
    | .gateway (.insertAuditLog entry) => some entry
    | _ => none

def dispatches (events : List ProxyEvent) : List (RouteConfig × ProxyRequest) :=
  events.filterMap fun event => match event.op with
    | .proxy route sent => some (route, sent)
    | _ => none

def Silent : ProxyEffect → Prop
  | .next _ | .gateway (.insertAuditLog _) | .proxy .. => False
  | _ => True

/-- The request was refused with the error: handed to `next` once, audited once as a denial, not dispatched. -/
structure RefusedWith (req : ProxyRequest) (error : AppError) (events : List ProxyEvent) : Prop where
  next : nextCalls events = [.app error]
  audited : ∃ entry, auditWrites events = [entry] ∧ entry.event_type = "proxy.request_denied" ∧
    entry.outcome = .denied ∧ entry.failure_reason = some error.code ∧ entry.resource = some (resourcePath req)
  dispatched : dispatches events = []

inductive Denies (env : ProxyEnv) (route : RouteConfig) (auth : Option JwtAccessTokenClaims) (req : ProxyRequest)
    (events : List ProxyEvent) : AppError → Prop where
  | role (lacks : lacksRole route auth = true) : Denies env route auth req events (forbiddenError "Insufficient role")
  | scope {requiredScope : String} (role : lacksRole route auth = false)
      (missing : missingScope route auth = some requiredScope) :
      Denies env route auth req events (insufficientScopeError requiredScope)
  | rate {error : AppError} {limiting : List ProxyEvent} (role : lacksRole route auth = false)
      (scope : missingScope route auth = none) (began : limiting <+: events)
      (limited : (runRateLimiter env route req).Follows limiting (.done (.ok (some error)))) :
      Denies env route auth req events error

inductive Refuses (env : ProxyEnv) (route : RouteConfig) (req : ProxyRequest) (events : List ProxyEvent) :
    AppError → Prop where
  | authentication {error : AppError} {verification : List ProxyEvent} (began : verification <+: events)
      (verified : (validateAccessToken env (!route.auth_required) (stripped req)).Follows verification
        (.done (.ok (.error error)))) : Refuses env route req events error
  | authorization {error : AppError} {verification later : List ProxyEvent} {auth : Option JwtAccessTokenClaims}
      (began : events = verification ++ later)
      (verified : (validateAccessToken env (!route.auth_required) (stripped req)).Follows verification
        (.done (.ok (.ok auth))))
      (denied : Denies env route auth (stripped req) later error) : Refuses env route req events error

theorem Denies.grow {env : ProxyEnv} {route : RouteConfig} {auth : Option JwtAccessTokenClaims}
    {req : ProxyRequest} {events whole : List ProxyEvent} {error : AppError}
    (denies : Denies env route auth req events error) (grown : events <+: whole) :
    Denies env route auth req whole error := by
  cases denies with
  | role lacks => exact .role lacks
  | scope role missing => exact .scope role missing
  | rate role scope began limited => exact .rate role scope (began.trans grown) limited

section Observed

variable {events first rest : List ProxyEvent}

@[simp] theorem nextCalls_append : nextCalls (first ++ rest) = nextCalls first ++ nextCalls rest :=
  List.filterMap_append

@[simp] theorem auditWrites_append : auditWrites (first ++ rest) = auditWrites first ++ auditWrites rest :=
  List.filterMap_append

@[simp] theorem dispatches_append : dispatches (first ++ rest) = dispatches first ++ dispatches rest :=
  List.filterMap_append

theorem silent_history (silent : ∀ event ∈ events, Silent event.op) :
    nextCalls events = [] ∧ auditWrites events = [] ∧ dispatches events = [] := by
  simp only [nextCalls, auditWrites, dispatches, List.filterMap_eq_nil_iff]
  refine ⟨fun event member => ?_, fun event member => ?_, fun event member => ?_⟩ <;>
  · have quiet := silent event member
    split
    · rename_i op same
      rw [same] at quiet
      exact quiet.elim
    · rfl

end Observed

section Parts

variable {env : ProxyEnv} {route : RouteConfig} {auth : Option JwtAccessTokenClaims} {req : ProxyRequest}
  {events : List ProxyEvent}

theorem Reading.silent {effect : Effect} (reading : Reading effect) : Silent (.gateway effect) := by
  cases effect <;> trivial

theorem validateAccessToken_silent (optional : Bool) : (validateAccessToken env optional req).Uses Silent := by
  unfold validateAccessToken
  split
  · split <;> trivial
  rename_i token presented
  have verifying : (Proxy.service (verifyAccessToken env.toEnv (env.decodeJwt token))).Uses Silent :=
    (verifyAccessToken_reading _ _).embed fun _ reading => reading.silent
  refine verifying.bind fun result => ?_
  cases result <;> trivial

theorem countRequest_silent (key : String) (windowMs : Nat) : (countRequest key windowMs).Uses Silent := by
  refine Uses.handle ⟨trivial, fun counted => ?_⟩ fun _ => trivial
  rcases counted with thrown | count
  · trivial
  by_cases first : count = 1
  · simp only [Program.done_ok_bind, first, if_true]
    refine ⟨trivial, fun expires => ?_⟩
    cases expires <;> trivial
  · simp only [Program.done_ok_bind, first, if_false]
    trivial

theorem limitRequest_silent (maxRequests count windowResetAtMs : Nat) :
    (limitRequest maxRequests count windowResetAtMs).Uses Silent := by
  refine ⟨trivial, fun _ => ⟨trivial, fun _ => ⟨trivial, fun _ => ?_⟩⟩⟩
  simp only [Program.done_ok_bind]
  by_cases exceeds : maxRequests < count
  · simp only [exceeds, if_true]
    refine ⟨trivial, fun clock => ?_⟩
    rcases clock with thrown | now
    · trivial
    · exact ⟨trivial, fun _ => trivial⟩
  · simp only [exceeds, if_false]
    trivial

theorem runRateLimiter_silent : (runRateLimiter env route req).Uses Silent := by
  refine ⟨trivial, fun clock => ?_⟩
  rcases clock with thrown | now
  · trivial
  refine (countRequest_silent _ _).bind fun counted => ?_
  cases counted with
  | none => trivial
  | some count => exact limitRequest_silent ..

theorem auditDenial_follows {error : AppError} {outcome : Except Thrown Unit}
    (follows : (auditDenial req auth error).Follows events (.done outcome)) :
    outcome = .ok () ∧ nextCalls events = [] ∧ dispatches events = [] ∧
      ∃ entry, auditWrites events = [entry] ∧ entry.event_type = "proxy.request_denied" ∧
        entry.outcome = .denied ∧ entry.failure_reason = some error.code ∧
        entry.resource = some (resourcePath req) := by
  obtain ⟨reply, later, rfl, tail⟩ := follows_await.mp follows
  have ended : later = [] ∧ outcome = .ok () := by
    cases reply <;>
    · obtain ⟨nothing, same⟩ := follows_done.mp tail
      cases same
      exact ⟨nothing, rfl⟩
  obtain ⟨rfl, rfl⟩ := ended
  exact ⟨rfl, rfl, rfl, _, rfl, rfl, rfl, rfl, rfl⟩

theorem next_follows {error : Thrown} {outcome : Except Thrown Unit}
    (follows : (Proxy.next error).Follows events (.done outcome)) :
    outcome = .ok () ∧ nextCalls events = [error] ∧ auditWrites events = [] ∧ dispatches events = [] := by
  obtain ⟨reply, later, rfl, tail⟩ := follows_await.mp follows
  obtain ⟨rfl, same⟩ := follows_done.mp tail
  cases same
  exact ⟨rfl, rfl, rfl, rfl⟩

theorem RefusedWith.of_parts {error : AppError} {checks audit last : List ProxyEvent}
    {outcome outcome' : Except Thrown Unit} (silent : ∀ event ∈ checks, Silent event.op)
    (audited : (auditDenial (stripped req) auth error).Follows audit (.done outcome))
    (handed : (Proxy.next (.app error)).Follows last (.done outcome')) :
    outcome' = .ok () ∧ RefusedWith req error (checks ++ audit ++ last) := by
  obtain ⟨noNext, noAudit, noDispatch⟩ := silent_history silent
  obtain ⟨-, auditNext, auditDispatch, entry, written, denial⟩ := auditDenial_follows audited
  obtain ⟨returned, calls, lastAudit, lastDispatch⟩ := next_follows handed
  exact ⟨returned, by simp [noNext, auditNext, calls], ⟨entry, by simp [noAudit, written, lastAudit], denial⟩,
    by simp [noDispatch, auditDispatch, lastDispatch]⟩

theorem deny_follows {error : AppError} {outcome : Except Thrown (Option AppError)}
    (follows : (deny req auth error).Follows events (.done outcome)) :
    outcome = .ok (some error) ∧ (auditDenial req auth error).Follows events (.done (.ok ())) := by
  rcases follows.bind_cases with ⟨first, rest, _, rfl, audited, returned⟩ | ⟨thrown, rfl, audited⟩
  · obtain ⟨rfl, same⟩ := follows_done.mp returned
    cases same
    rw [List.append_nil]
    exact ⟨rfl, audited⟩
  · cases (auditDenial_follows audited).1

theorem enforceAuthorization_follows {error : AppError} {whole : List ProxyEvent}
    {outcome : Except Thrown (Option AppError)} (denies : Denies env route auth req whole error)
    (began : events <+: whole) (follows : (enforceAuthorization env route auth req).Follows events (.done outcome)) :
    outcome = .ok (some error) ∧ ∃ checks audit, events = checks ++ audit ∧
      (∀ event ∈ checks, Silent event.op) ∧ (auditDenial req auth error).Follows audit (.done (.ok ())) := by
  unfold enforceAuthorization at follows
  cases denies with
  | role lacks =>
    simp only [lacks, if_true] at follows
    obtain ⟨returned, audited⟩ := deny_follows follows
    exact ⟨returned, [], events, rfl, by simp, audited⟩
  | scope role missing =>
    simp only [role, missing, Bool.false_eq_true, if_false] at follows
    obtain ⟨returned, audited⟩ := deny_follows follows
    exact ⟨returned, [], events, rfl, by simp, audited⟩
  | @rate _ limiting role scope beginning limited =>
    simp only [role, scope, Bool.false_eq_true, if_false] at follows
    rcases follows.bind_cases with ⟨first, rest, limit, rfl, ran, returned⟩ | ⟨thrown, rfl, ran⟩
    · obtain ⟨rfl, same⟩ := ran.determined limited ((List.prefix_append first rest).trans began) beginning
      cases same
      obtain ⟨returned, audited⟩ := deny_follows returned
      exact ⟨returned, first, rest, rfl, ran.uses runRateLimiter_silent, audited⟩
    · obtain ⟨-, same⟩ := ran.determined limited began beginning
      cases same

end Parts

theorem forward_refused {env : ProxyEnv} {route : RouteConfig} {forwardPath : String} {req : ProxyRequest}
    {events whole : List ProxyEvent} {error : AppError} {outcome : Except Thrown Unit}
    (follows : (forward env route forwardPath req).Follows events (.done outcome)) (within : events <+: whole)
    (refuses : Refuses env route req whole error) : outcome = .ok () ∧ RefusedWith req error events := by
  have prior : ∀ {first : List ProxyEvent} {validated},
      (validateAccessToken env (!route.auth_required) (stripped req)).Follows first (.done (.ok validated)) →
      ∀ event ∈ first, Silent event.op := fun verified => verified.uses (validateAccessToken_silent _)
  rcases follows.bind_cases with ⟨first, rest, validated, rfl, ran, went⟩ | ⟨thrown, rfl, ran⟩
  · have began := (List.prefix_append first rest).trans within
    cases refuses with
    | authentication began' verified =>
      obtain ⟨rfl, same⟩ := ran.determined verified began began'
      cases same
      rcases went.bind_cases with ⟨audit, last, _, rfl, audited, handed⟩ | ⟨thrown, rfl, audited⟩
      · rw [← List.append_assoc]
        exact RefusedWith.of_parts (prior ran) audited handed
      · cases (auditDenial_follows audited).1
    | @authorization verification later _ split verified denied =>
      obtain ⟨rfl, same⟩ := ran.determined verified began (split ▸ List.prefix_append verification later)
      cases same
      rw [split, List.prefix_append_right_inj] at within
      rcases went.bind_cases with ⟨checked, last, denial, rfl, enforced, handed⟩ | ⟨thrown, rfl, enforced⟩
      · have checking := (List.prefix_append checked last).trans within
        obtain ⟨same, checks, audit, rfl, silent, audited⟩ := enforceAuthorization_follows denied checking enforced
        cases same
        rw [← List.append_assoc, ← List.append_assoc]
        refine RefusedWith.of_parts (fun event member => ?_) audited handed
        rcases List.mem_append.mp member with early | late
        · exact prior ran event early
        · exact silent event late
      · cases (enforceAuthorization_follows denied within enforced).1
  · cases refuses with
    | authentication began verified =>
      obtain ⟨-, same⟩ := ran.determined verified within began
      cases same
    | authorization split verified denied =>
      obtain ⟨-, same⟩ := ran.determined verified within (split ▸ List.prefix_append _ _)
      cases same

/-- When the verification itself fails, so does the handler, with nothing else done. -/
theorem forward_failed {env : ProxyEnv} {route : RouteConfig} {forwardPath : String} {req : ProxyRequest}
    {events whole verification : List ProxyEvent} {thrown : Thrown} {outcome : Except Thrown Unit}
    (follows : (forward env route forwardPath req).Follows events (.done outcome)) (within : events <+: whole)
    (began : verification <+: whole)
    (failed : (validateAccessToken env (!route.auth_required) (stripped req)).Follows verification
      (.done (.error thrown))) : outcome = .error thrown ∧ ∀ event ∈ events, Silent event.op := by
  rcases follows.bind_cases with ⟨first, rest, validated, rfl, ran, went⟩ | ⟨other, rfl, ran⟩
  · obtain ⟨-, same⟩ := ran.determined failed ((List.prefix_append first rest).trans within) began
    cases same
  · obtain ⟨rfl, same⟩ := ran.determined failed within began
    cases same
    exact ⟨rfl, ran.uses (validateAccessToken_silent _)⟩

theorem enforceAuthorization_denies {env : ProxyEnv} {route : RouteConfig} {auth : Option JwtAccessTokenClaims}
    {req : ProxyRequest} {events : List ProxyEvent} {error : AppError}
    (follows : (enforceAuthorization env route auth req).Follows events (.done (.ok (some error)))) :
    Denies env route auth req events error := by
  unfold enforceAuthorization at follows
  split at follows
  · rename_i lacks
    cases (deny_follows follows).1
    exact .role lacks
  rename_i role
  have role : lacksRole route auth = false := by simpa using role
  split at follows
  · rename_i requiredScope missing
    cases (deny_follows follows).1
    exact .scope role missing
  rename_i scope
  rcases follows.bind_cases with ⟨first, rest, limit, rfl, ran, returned⟩ | ⟨thrown, same, _⟩
  · cases limit with
    | none => cases (follows_done.mp returned).2
    | some limited =>
      cases (deny_follows returned).1
      exact .rate role scope (List.prefix_append first rest) ran
  · cases same

theorem forward_decided {env : ProxyEnv} {route : RouteConfig} {forwardPath : String} {req : ProxyRequest}
    {events : List ProxyEvent} {outcome : Except Thrown Unit}
    (follows : (forward env route forwardPath req).Follows events (.done outcome)) :
    (∃ error, Refuses env route req events error) ∨ dispatches events ≠ [] ∨ ∃ thrown, outcome = .error thrown := by
  rcases follows.bind_cases with ⟨first, rest, validated, rfl, ran, went⟩ | ⟨thrown, rfl, _⟩
  · cases validated with
    | error error => exact .inl ⟨error, .authentication (List.prefix_append first rest) ran⟩
    | ok auth =>
      rcases went.bind_cases with ⟨checked, last, denial, rfl, enforced, handed⟩ | ⟨thrown, rfl, _⟩
      · cases denial with
        | some error =>
          have denies := (enforceAuthorization_denies enforced).grow (List.prefix_append checked last)
          exact .inl ⟨error, .authorization rfl ran denies⟩
        | none =>
          obtain ⟨reply, later, rfl, _⟩ := follows_await.mp handed
          refine .inr (.inl ?_)
          simp [dispatches]
      · exact .inr (.inr ⟨thrown, rfl⟩)
  · exact .inr (.inr ⟨thrown, rfl⟩)

theorem handle_matched {env : ProxyEnv} {routes : List RouteConfig} {req : ProxyRequest} {route : RouteConfig}
    (first : FirstMatch env routes (resourcePath req) route) :
    ∃ forwardPath, handle env routes req = forward env route forwardPath req := by
  obtain ⟨forwardPath, found⟩ := first.resolves
  refine ⟨forwardPath, ?_⟩
  unfold handle
  rw [found]

/-- Complete mediation: a dispatch comes only past all checks, and a refusal under them hands its error on
    once, writes one audit entry and dispatches nothing. A failing revocation lookup is no refusal: its
    error goes to `next`, with no dispatch either. -/
theorem proxyRouter_complete_mediation (env : ProxyEnv) (routes : List RouteConfig) (req : ProxyRequest) :
    (∀ events rest, (proxyRouter env routes req).Follows events rest →
      ∀ before route sent reply after, events = before ++ ⟨.proxy route sent, reply⟩ :: after →
        Mediated env routes req before route) ∧
    ∀ events outcome route, (proxyRouter env routes req).Follows events (.done outcome) →
      FirstMatch env routes (resourcePath req) route →
      (∀ error, Refuses env route req events error → RefusedWith req error events) ∧
      ∀ verification thrown, verification <+: events →
        (validateAccessToken env (!route.auth_required) (stripped req)).Follows verification
          (.done (.error thrown)) →
        nextCalls events = [thrown] ∧ auditWrites events = [] ∧ dispatches events = [] := by
  refine ⟨fun events rest follows before route sent reply after split => (dispatch_mediated follows split).1, ?_⟩
  intro events outcome route follows first
  obtain ⟨forwardPath, same⟩ := handle_matched first
  have through : ((forward env route forwardPath req).handle Proxy.next).Follows events (.done outcome) := by
    rw [← same]
    exact follows
  rcases through.handle_cases with ⟨_, rfl, ran⟩ | ⟨began, last, thrown, rfl, ran, handed⟩
  · refine ⟨fun error refuses => (forward_refused ran (List.prefix_refl _) refuses).2, ?_⟩
    intro verification thrown began failed
    cases (forward_failed ran (List.prefix_refl _) began failed).1
  · have within := List.prefix_append began last
    refine ⟨fun error refuses => ?_, fun verification thrown' prior failed => ?_⟩
    · cases (forward_refused ran within refuses).1
    · obtain ⟨same, silent⟩ := forward_failed ran within prior failed
      cases same
      obtain ⟨noNext, noAudit, noDispatch⟩ := silent_history silent
      obtain ⟨-, calls, lastAudit, lastDispatch⟩ := next_follows handed
      simp [noNext, noAudit, noDispatch, calls, lastAudit, lastDispatch]

theorem anonymous_request_refused :
    RefusedWith (sampleRequest "/api/users/1") (unauthorizedError "Missing or malformed Authorization header")
      ((proxyRouter sampleProxy [{ usersRoute with auth_required := true }]
        (sampleRequest "/api/users/1")).replay firstRequest).1 := by
  have first : FirstMatch sampleProxy [{ usersRoute with auth_required := true }]
      (resourcePath (sampleRequest "/api/users/1")) { usersRoute with auth_required := true } :=
    ⟨[], [], rfl, by decide +kernel, by simp⟩
  have verified : (validateAccessToken sampleProxy false (stripped (sampleRequest "/api/users/1"))).Follows []
      (.done (.ok (.error (unauthorizedError "Missing or malformed Authorization header")))) := .here _
  exact ((proxyRouter_complete_mediation sampleProxy [{ usersRoute with auth_required := true }]
    (sampleRequest "/api/users/1")).2 _ _ _ (follows_replay firstRequest _) first).1 _
      (.authentication List.nil_prefix verified)

end GatewayProof
