import AppGateway.Async.Realization
import AppGateway.Codec.SchemaLaws
import AppGateway.Handlers.Calls
import AppGateway.Model.AuthRoutes

namespace GatewayProof

open Async Codec GatewayModel

/-! What the schemas let through -/

section Bodies

variable {zod : ZodFormats} {body read : Option Json}

theorem validate_ok {schema : Schema} (accepted : validate zod.toZod schema body = .ok read) :
    schema.parse body = ([], read) := by
  unfold validate at accepted
  split at accepted
  · cases accepted
  · rename_i data parsed
    cases accepted
    rw [zod.safeParse_eq] at parsed
    exact Schema.safeParse_ok.mp parsed

theorem bodyText_object {members : List (String × Json)} {name text : String}
    (there : (Json.object members).member? name = some (.string text)) :
    bodyText (some (.object members)) name = some text := by
  simp only [bodyText, Option.bind_some, there, Json.text?]

theorem bodyText_absent {members : List (String × Json)} {name : String}
    (absent : (Json.object members).member? name = none) : bodyText (some (.object members)) name = none := by
  simp only [bodyText, Option.bind_some, absent, Option.bind_none]

theorem string_read {text : Schema.Text} {value read : Option Json}
    (parsed : (Schema.string text).parse value = ([], read)) :
    ∃ given, read = some (.string given) ∧ Schema.run text.checks given = ([], given) :=
  Schema.parse_conforms (.string text) rfl value read parsed

theorem optional_read {text : Schema.Text} {value read : Option Json}
    (parsed : (Schema.optional (.string text)).parse value = ([], read)) :
    read = none ∨ ∃ given, read = some (.string given) ∧ Schema.run text.checks given = ([], given) :=
  Schema.parse_conforms (.optional (.string text)) rfl value read parsed

theorem testing_passes {passes : String → Bool} {message given : String}
    (passed : Schema.run (Schema.Text.testing [(passes, message)]).checks given = ([], given)) :
    passes given = true := by
  simp only [Schema.Text.testing, List.map_cons, List.map_nil, Schema.run] at passed
  split at passed
  · assumption
  · cases passed

structure LoginBody (zod : ZodFormats) (body : Option Json) (email password : String) : Prop where
  emailRead : bodyText body "email" = some email
  passwordRead : bodyText body "password" = some password
  trimmed : trim email = email
  address : zod.isEmail email = true
  given : notEmpty password = true

theorem login_body (accepted : validate zod.toZod (loginSchema zod) body = .ok read) :
    ∃ email password, LoginBody zod read email password := by
  obtain ⟨given, members, rfl, rfl, each⟩ := Schema.parse_object_member (by simp) (validate_ok accepted)
  obtain ⟨email, emailRead, checked⟩ := string_read (each _ (List.mem_cons_self ..))
  obtain ⟨password, passwordRead, passed⟩ := string_read (each _ (List.mem_cons_of_mem _ (List.mem_cons_self ..)))
  have trimmed : trim email = email := by
    have last := emailChecks_last zod email
    rw [checked] at last
    exact last.symm
  have address : zod.isEmail email = true := by
    have messages := congrArg Prod.fst checked
    simp only [emailChecks, Schema.run, trimmed] at messages
    by_cases valid : zod.isEmail email = true
    · exact valid
    · rw [if_neg valid] at messages
      split at messages <;> cases messages
  exact ⟨email, password, bodyText_object emailRead, bodyText_object passwordRead, trimmed, address,
    testing_passes passed⟩

theorem refresh_body (accepted : validate zod.toZod (refreshSchema zod) body = .ok read) :
    ∃ refreshToken, bodyText read "refresh_token" = some refreshToken ∧ notEmpty refreshToken = true ∧
      ∀ key, bodyText read "idempotency_key" = some key → zod.isUuid key = true := by
  obtain ⟨given, members, rfl, rfl, each⟩ := Schema.parse_object_member (by simp) (validate_ok accepted)
  obtain ⟨refreshToken, tokenRead, passed⟩ := string_read (each _ (List.mem_cons_self ..))
  refine ⟨refreshToken, bodyText_object tokenRead, testing_passes passed, fun key found => ?_⟩
  rcases optional_read (each _ (List.mem_cons_of_mem _ (List.mem_cons_self ..))) with absent | ⟨own, keyRead, uuid⟩
  · rw [bodyText_absent absent] at found
    cases found
  · rw [bodyText_object keyRead] at found
    cases found
    exact testing_passes uuid

end Bodies

theorem validate_error {zod : Zod} {schema : Schema} {body : Option Json} {error : ValidationError}
    (refused : validate zod schema body = .error error) :
    ∃ issues, issues ≠ [] ∧ (schema.parse body).1 = issues ∧
      error = validationError "Request validation failed" (flatten issues) := by
  unfold validate at refused
  split at refused
  · rename_i issues parsed
    cases refused
    rw [zod.safeParse_eq] at parsed
    obtain ⟨some_issue, same⟩ := Schema.safeParse_error parsed
    exact ⟨issues, some_issue, same, rfl⟩
  · cases refused

section Flatten

theorem mem_pushFieldError {errors : List (String × List String)} {name message other : String} :
    other ∈ (pushFieldError errors name message).map (·.1) ↔ other = name ∨ other ∈ errors.map (·.1) := by
  unfold pushFieldError
  split
  · rename_i listed
    have names : (errors.map fun field => if field.1 = name then (field.1, field.2 ++ [message]) else field).map (·.1) =
        errors.map (·.1) := by
      rw [List.map_map]
      apply List.map_congr_left
      intro field _
      simp only [Function.comp]
      split <;> rfl
    rw [names]
    constructor
    · exact .inr
    · rintro (rfl | inside)
      · obtain ⟨field, there, same⟩ := List.any_eq_true.mp listed
        rw [← of_decide_eq_true same]
        exact List.mem_map_of_mem there
      · exact inside
  · simp [or_comm]

theorem foldl_push_names {issues : List Schema.Issue} {flattened : FlattenedError} {other : String} :
    other ∈ (issues.foldl FlattenedError.push flattened).fieldErrors.map (·.1) ↔
      other ∈ flattened.fieldErrors.map (·.1) ∨
        ∃ issue ∈ issues, ∃ step rest, issue.path = step :: rest ∧ other = Schema.Step.name step := by
  induction issues generalizing flattened with
  | nil => simp
  | cons issue issues ih =>
    rw [List.foldl_cons, ih]
    cases path : issue.path with
    | nil =>
      have same : (flattened.push issue).fieldErrors = flattened.fieldErrors := by rw [FlattenedError.push, path]
      rw [same]
      simp [path]
    | cons step rest =>
      have pushed : (flattened.push issue).fieldErrors =
          pushFieldError flattened.fieldErrors (Schema.Step.name step) issue.message := by
        rw [FlattenedError.push, path]
      rw [pushed, mem_pushFieldError]
      simp only [List.mem_cons, exists_eq_or_imp, path, List.cons.injEq]
      constructor
      · rintro ((rfl | earlier) | later)
        · exact .inr (.inl ⟨step, rest, ⟨rfl, rfl⟩, rfl⟩)
        · exact .inl earlier
        · exact .inr (.inr later)
      · rintro (earlier | ⟨step', rest', ⟨rfl, rfl⟩, rfl⟩ | later)
        · exact .inl (.inr earlier)
        · exact .inl (.inl rfl)
        · exact .inr later

theorem foldl_push_told {issues : List Schema.Issue} {flattened : FlattenedError}
    (told : flattened.formErrors ≠ [] ∨ flattened.fieldErrors ≠ [] ∨ issues ≠ []) :
    (issues.foldl FlattenedError.push flattened).formErrors ≠ [] ∨
      (issues.foldl FlattenedError.push flattened).fieldErrors ≠ [] := by
  induction issues generalizing flattened with
  | nil =>
    rcases told with form | field | absurdly
    · exact .inl form
    · exact .inr field
    · exact absurd rfl absurdly
  | cons issue issues ih =>
    apply ih
    cases path : issue.path with
    | nil =>
      left
      rw [FlattenedError.push, path]
      simp
    | cons step rest =>
      right
      left
      have named : Schema.Step.name step ∈ (flattened.push issue).fieldErrors.map (·.1) := by
        rw [FlattenedError.push, path]
        exact mem_pushFieldError.mpr (.inl rfl)
      intro empty
      rw [empty] at named
      cases named

theorem flatten_names {shape : List (String × Schema)} {body : Option Json} {name : String}
    (listed : name ∈ (flatten ((Schema.object shape).parse body).1).fieldErrors.map (·.1)) : name ∈
    shape.map (·.1) := by
  rcases foldl_push_names.mp listed with nothing | ⟨issue, found, step, rest, path, rfl⟩
  · cases nothing
  · rcases Schema.parse_object_issue found with ⟨whole, _⟩ | ⟨field, inside, rest', path'⟩
    · rw [path] at whole
      cases whole
    · rw [path] at path'
      cases path'
      exact List.mem_map_of_mem inside

end Flatten

def memberNames : Schema → List String
  | .object shape => shape.map (·.1)
  | _ => []

structure BodyRefusal (schema : Schema) (error : ValidationError) : Prop where
  code : error.error = ⟨"VALIDATION_ERROR", "Request validation failed", 400⟩
  named : ∀ name ∈ error.details.fieldErrors.map (·.1), name ∈ memberNames schema
  told : error.details.formErrors ≠ [] ∨ error.details.fieldErrors ≠ []

theorem validate_refusal {zod : Zod} {shape : List (String × Schema)} {body : Option Json} {error : ValidationError}
    (refused : validate zod (.object shape) body = .error error) : BodyRefusal (.object shape) error := by
  obtain ⟨issues, some_issue, same, rfl⟩ := validate_error refused
  subst same
  exact ⟨rfl, fun name listed => flatten_names listed, foldl_push_told (.inr (.inr some_issue))⟩

/-! The session calls that requests come to -/

variable (env : RouterEnv)

def AuthRequest.session? : AuthRequest → Option HandlerCall
  | .login client body =>
    match validate env.formats.toZod (loginSchema env.formats) body with
    | .ok read =>
      some (.login client ((bodyText read "email").getD "") ((bodyText read "password").getD ""))
    | .error _ => none
  | .refresh client body =>
    match validate env.formats.toZod (refreshSchema env.formats) body with
    | .ok read =>
      some (.refresh client ((bodyText read "refresh_token").getD "") (bodyText read "idempotency_key"))
    | .error _ => none
  | .logout bearer body =>
    match validate env.formats.toZod logoutSchema body with
    | .ok read => some (.logout bearer (bodyText read "refresh_token"))
    | .error _ => none
  | .me _ | .jwks => none

def AuthRequest.session (request : AuthRequest) : HandlerCall :=
  (AuthRequest.session? env request).getD (.logout none none)

def AuthRequest.isSession (request : AuthRequest) : Bool := (AuthRequest.session? env request).isSome

theorem code_session (request : AuthRequest) (session : AuthRequest.isSession env request = true) :
    AuthRequest.code env request = ((AuthRequest.session env request).code env.toEnv).mapped .session := by
  cases request with
  | login client body =>
    simp only [AuthRequest.isSession, AuthRequest.session?] at session
    simp only [AuthRequest.code, postLogin, AuthRequest.session, AuthRequest.session?]
    split at session
    · rename_i read accepted
      obtain ⟨email, password, valid⟩ := login_body accepted
      simp only [accepted, valid.emailRead, valid.passwordRead]
      rfl
    · cases session
  | refresh client body =>
    simp only [AuthRequest.isSession, AuthRequest.session?] at session
    simp only [AuthRequest.code, postRefresh, AuthRequest.session, AuthRequest.session?]
    split at session
    · rename_i read accepted
      obtain ⟨refreshToken, given, _⟩ := refresh_body accepted
      simp only [accepted, given]
      rfl
    · cases session
  | logout bearer body =>
    simp only [AuthRequest.isSession, AuthRequest.session?] at session
    simp only [AuthRequest.code, postLogout, AuthRequest.session, AuthRequest.session?]
    split at session
    · rename_i read accepted
      simp only [accepted, Option.getD_some, HandlerCall.code, logout, Program.mapped, Program.bind_eq,
        Program.bind_assoc]
      congr 1
      funext verified
      cases verified <;> rfl
    · cases session
  | me bearer => cases session
  | jwks => cases session

end GatewayProof
