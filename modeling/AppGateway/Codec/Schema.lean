import Mathlib.Data.List.Basic
import AppGateway.Codec.Json

/-! Schemas of JSON values that collect every issue and return the value they have read, as those of zod do. -/

namespace Codec

namespace Schema

/-- A check of a string changes it or tests it. Each check sees what the ones before it have made. -/
inductive Check where
  | change (made : String → String)
  | test (passes : String → Bool) (message : String)

def run : List Check → String → List String × String
  | [], text => ([], text)
  | .change made :: checks, text => run checks (made text)
  | .test passes message :: checks, text =>
    let (messages, last) := run checks text
    (if passes text then messages else message :: messages, last)

/-- What the checks let through they let through again, unchanged. -/
structure Text where
  checks : List Check
  stable : ∀ text, (run checks text).1 = [] → run checks (run checks text).2 = ([], (run checks text).2)

theorem run_tests {checks : List Check} (tests : ∀ check ∈ checks, ∃ passes message, check = .test passes message)
    (text : String) : (run checks text).2 = text := by
  induction checks with
  | nil => rfl
  | cons check checks ih =>
    obtain ⟨passes, message, rfl⟩ := tests check (List.mem_cons_self ..)
    exact ih fun other member => tests other (List.mem_cons_of_mem _ member)

theorem tests_stable (tests : List ((String → Bool) × String)) (text : String)
    (passed : (run (tests.map fun test => .test test.1 test.2) text).1 = []) :
    run (tests.map fun test => .test test.1 test.2) (run (tests.map fun test => .test test.1 test.2) text).2 =
      ([], (run (tests.map fun test => .test test.1 test.2) text).2) := by
  have only : ∀ check ∈ tests.map fun test => Check.test test.1 test.2, ∃ passes message,
      check = .test passes message := by
    intro check member
    obtain ⟨test, _, rfl⟩ := List.mem_map.mp member
    exact ⟨test.1, test.2, rfl⟩
  have same := run_tests only text
  rw [same]
  exact Prod.ext passed same

def Text.testing (tests : List ((String → Bool) × String)) : Text where
  checks := tests.map fun test => .test test.1 test.2
  stable := tests_stable tests

inductive Step where
  | member (name : String)
  | item (index : Nat)
deriving DecidableEq, Repr

structure Issue where
  path : List Step
  message : String
deriving DecidableEq, Repr

def Issue.under (step : Step) (issue : Issue) : Issue := { issue with path := step :: issue.path }

end Schema

inductive Schema where
  | string (text : Schema.Text)
  | boolean
  | number (tests : List ((Json.Number → Bool) × String))
  | nullable (inner : Schema)
  | optional (inner : Schema)
  | withDefault (value : Json) (inner : Schema)
  | array (item : Schema)
  | object (shape : List (String × Schema))

namespace Schema

theorem induction {holds : Schema → Prop} (string : ∀ text, holds (.string text)) (boolean : holds .boolean)
    (number : ∀ tests, holds (.number tests)) (nullable : ∀ inner, holds inner → holds (.nullable inner))
    (optional : ∀ inner, holds inner → holds (.optional inner))
    (withDefault : ∀ value inner, holds inner → holds (.withDefault value inner))
    (array : ∀ item, holds item → holds (.array item))
    (object : ∀ shape, (∀ field ∈ shape, holds field.2) → holds (.object shape)) (schema : Schema) : holds schema :=
  @Schema.rec holds (fun shape => ∀ field ∈ shape, holds field.2) (fun field => holds field.2) string boolean number
    nullable optional withDefault array object (by simp)
    (fun _ _ first others => List.forall_mem_cons.mpr ⟨first, others⟩) (fun _ _ inner => inner) schema

def kind : Json → String
  | .null => "null"
  | .bool _ => "boolean"
  | .number _ => "number"
  | .string _ => "string"
  | .array _ => "array"
  | .object _ => "object"

def mismatch (expected : String) (value : Option Json) : List Issue × Option Json :=
  match value with
  | none => ([⟨[], "Required"⟩], none)
  | some json => ([⟨[], "Expected " ++ expected ++ ", received " ++ kind json⟩], none)

def failures (tests : List ((Json.Number → Bool) × String)) (given : Json.Number) : List Issue :=
  (tests.filter fun test => !test.1 given).map fun test => ⟨[], test.2⟩

def items (parse : Option Json → List Issue × Option Json) (index : Nat) : List Json → List Issue × List Json
  | [] => ([], [])
  | item :: rest =>
    let (issues, value) := parse (some item)
    let (more, values) := items parse (index + 1) rest
    (issues.map (Issue.under (.item index)) ++ more, value.toList ++ values)

mutual

/-- All issues of a value, and what has been read of it; without a value it is `undefined`. -/
def parse : Schema → Option Json → List Issue × Option Json
  | .string text, value =>
    match value with
    | some (.string given) =>
      let (messages, last) := run text.checks given
      (messages.map fun message => ⟨[], message⟩, some (.string last))
    | _ => mismatch "string" value
  | .boolean, value =>
    match value with
    | some (.bool truth) => ([], some (.bool truth))
    | _ => mismatch "boolean" value
  | .number tests, value =>
    match value with
    | some (.number given) => (failures tests given, some (.number given))
    | _ => mismatch "number" value
  | .nullable inner, value =>
    match value with
    | some .null => ([], some .null)
    | _ => parse inner value
  | .optional inner, value =>
    match value with
    | none => ([], none)
    | some _ => parse inner value
  | .withDefault standard inner, value => parse inner (some (value.getD standard))
  | .array item, value =>
    match value with
    | some (.array given) =>
      let (issues, values) := items (fun value => parse item value) 0 given
      (issues, some (.array values))
    | _ => mismatch "array" value
  | .object shape, value =>
    match value with
    | some (.object members) =>
      let (issues, read) := fields shape (.object members)
      (issues, some (.object read))
    | _ => mismatch "object" value

def fields : List (String × Schema) → Json → List Issue × List (String × Json)
  | [], _ => ([], [])
  | (name, schema) :: shape, json =>
    let (issues, value) := parse schema (json.member? name)
    let (more, read) := fields shape json
    (issues.map (Issue.under (.member name)) ++ more, (value.map fun value => (name, value)).toList ++ read)

end

section Equations
-- so many proofs rewrite with the equations of these that they are made here, once
attribute [local simp] run items parse fields mismatch
end Equations

def safeParse (schema : Schema) (value : Option Json) : Except (List Issue) (Option Json) :=
  match schema.parse value with
  | ([], read) => .ok read
  | (issue :: issues, _) => .error (issue :: issues)

theorem safeParse_ok {schema : Schema} {value read : Option Json} :
    schema.safeParse value = .ok read ↔ schema.parse value = ([], read) := by
  unfold safeParse
  split
  · rename_i read' parsed
    simp [parsed]
  · rename_i issue issues read' parsed
    simp [parsed]

theorem safeParse_error {schema : Schema} {value : Option Json} {issues : List Issue}
    (refused : schema.safeParse value = .error issues) : issues ≠ [] ∧ (schema.parse value).1 = issues := by
  unfold safeParse at refused
  split at refused
  · cases refused
  · rename_i issue others read' parsed
    cases refused
    exact ⟨List.cons_ne_nil _ _, by rw [parsed]⟩

/-! What has been read -/

mutual

def wellFormed : Schema → Bool
  | .string _ | .boolean | .number _ => true
  | .nullable inner | .optional inner | .withDefault _ inner => wellFormed inner
  | .array item => wellFormed item
  | .object shape => decide (shape.map (·.1)).Nodup && wellFormedFields shape

def wellFormedFields : List (String × Schema) → Bool
  | [] => true
  | (_, schema) :: shape => wellFormed schema && wellFormedFields shape

end

theorem wellFormedFields_eq (shape : List (String × Schema)) :
    wellFormedFields shape = shape.all fun field => wellFormed field.2 := by
  induction shape with
  | nil => rfl
  | cons field shape ih => rw [wellFormedFields, ih, List.all_cons]

mutual

/-- The values a schema returns. -/
def Conforms : Schema → Option Json → Prop
  | .string text, value => ∃ given, value = some (.string given) ∧ run text.checks given = ([], given)
  | .boolean, value => ∃ truth, value = some (.bool truth)
  | .number tests, value => ∃ given, value = some (.number given) ∧ failures tests given = []
  | .nullable inner, value => value = some .null ∨ Conforms inner value
  | .optional inner, value => value = none ∨ Conforms inner value
  | .withDefault _ inner, value => value ≠ none ∧ Conforms inner value
  | .array item, value => ∃ given, value = some (.array given) ∧ ∀ each ∈ given, Conforms item (some each)
  | .object shape, value => ∃ members, value = some (.object members) ∧
      (members.map (·.1)).Sublist (shape.map (·.1)) ∧ AllConform shape (.object members)

def AllConform : List (String × Schema) → Json → Prop
  | [], _ => True
  | (name, schema) :: shape, json => Conforms schema (json.member? name) ∧ AllConform shape json

end

theorem allConform_iff (shape : List (String × Schema)) (json : Json) :
    AllConform shape json ↔ ∀ field ∈ shape, Conforms field.2 (json.member? field.1) := by
  induction shape with
  | nil => simp [AllConform]
  | cons field shape ih => rw [AllConform, ih, List.forall_mem_cons]

end Schema
end Codec
