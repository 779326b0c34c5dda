import Mathlib.Data.List.DropRight
import AppGateway.Codec.Zod
import AppGateway.Model.ProxyRouter

/-! `middleware/validate.ts` and `schemas/auth.schemas.ts`. -/

namespace GatewayModel

open Codec

/-- What `flatten()` makes of issues: the messages on the value itself, and those below each of its members. -/
structure FlattenedError where
  formErrors : List String
  fieldErrors : List (String × List String)
deriving DecidableEq, Repr

def Schema.Step.name : Schema.Step → String
  | .member name => name
  | .item index => toString index

def pushFieldError (errors : List (String × List String)) (name message : String) : List (String × List String) :=
  if errors.any (·.1 = name) then
    errors.map fun field => if field.1 = name then (field.1, field.2 ++ [message]) else field
  else errors ++ [(name, [message])]

def FlattenedError.push (flattened : FlattenedError) (issue : Schema.Issue) : FlattenedError :=
  match issue.path with
  | [] => { flattened with formErrors := flattened.formErrors ++ [issue.message] }
  | step :: _ => { flattened with
      fieldErrors := pushFieldError flattened.fieldErrors (Schema.Step.name step) issue.message }

def flatten (issues : List Schema.Issue) : FlattenedError := issues.foldl FlattenedError.push ⟨[], []⟩

structure ValidationError where
  error : AppError
  details : FlattenedError
deriving DecidableEq, Repr

def validationError (message : String) (details : FlattenedError) : ValidationError :=
  ⟨⟨"VALIDATION_ERROR", message, 400⟩, details⟩

/-- `validate(schema)`: the body the handler gets, or the error for `next`. -/
def validate (zod : Zod) (schema : Schema) (body : Option Json) : Except ValidationError (Option Json) :=
  match zod.safeParse schema body with
  | .error issues => .error (validationError "Request validation failed" (flatten issues))
  | .ok data => .ok data

/-- zod, with the formats that it checks with expressions of its own. -/
structure ZodFormats extends Zod where
  isEmail : String → Bool
  isUuid : String → Bool

def notEmpty (text : String) : Bool := 1 ≤ utf16Length text

theorem trim_trim (text : String) : trim (trim text) = trim text := by
  have shown : ∀ text, (trim text).toList = ((text.toList.dropWhile isTrimmed).rdropWhile isTrimmed) := by
    intro text
    rw [trim, String.toList_ofList]
    rfl
  apply String.toList_inj.mp
  rw [shown (trim text), shown text]
  generalize left : text.toList.dropWhile isTrimmed = front
  have bare : front.dropWhile isTrimmed = front := by rw [← left, List.dropWhile_idempotent]
  have kept : (front.rdropWhile isTrimmed).dropWhile isTrimmed = front.rdropWhile isTrimmed := by
    cases ends : front.rdropWhile isTrimmed with
    | nil => rfl
    | cons c rest =>
      obtain ⟨back, whole⟩ := List.rdropWhile_prefix isTrimmed front
      rw [ends] at whole
      rw [← whole, List.cons_append, List.dropWhile_cons] at bare
      split at bare
      · have shorter : ((rest ++ back).dropWhile isTrimmed).length ≤ (rest ++ back).length :=
          (List.dropWhile_suffix isTrimmed).length_le
        rw [bare, List.length_cons] at shorter
        omega
      · rename_i mark
        rw [List.dropWhile_cons_of_neg mark]
  rw [kept, List.rdropWhile_idempotent]

variable (zod : ZodFormats)

def emailChecks : List Schema.Check :=
  [.change trim, .test notEmpty "email is required", .test zod.isEmail "email must be a valid address"]

theorem emailChecks_last (text : String) : (Schema.run (emailChecks zod) text).2 = trim text := rfl

theorem emailChecks_stable (text : String) (passed : (Schema.run (emailChecks zod) text).1 = []) :
    Schema.run (emailChecks zod) (Schema.run (emailChecks zod) text).2 =
      ([], (Schema.run (emailChecks zod) text).2) := by
  have same : Schema.run (emailChecks zod) (trim text) = Schema.run (emailChecks zod) text := by
    simp only [emailChecks, Schema.run, trim_trim]
  rw [emailChecks_last, same]
  exact Prod.ext passed (emailChecks_last zod text)

def loginSchema : Schema :=
  .object
    [("email", .string ⟨emailChecks zod, emailChecks_stable zod⟩),
     ("password", .string (.testing [(notEmpty, "password is required")]))]

def refreshSchema : Schema :=
  .object
    [("refresh_token", .string (.testing [(notEmpty, "refresh_token is required")])),
     ("idempotency_key", .optional (.string (.testing [(zod.isUuid, "idempotency_key must be a valid UUID")])))]

def logoutSchema : Schema :=
  .object
    [("refresh_token",
      .optional (.string (.testing [(notEmpty, "String must contain at least 1 character(s)")])))]

end GatewayModel
