import AppGateway.Codec.SchemaLaws

namespace Codec

open Schema

/-- A value without issues, or the issues. -/
def Schema.outcome : List Issue × Option Json → Except (List Issue) (Option Json)
  | ([], read) => .ok read
  | (issue :: issues, _) => .error (issue :: issues)

def Schema.issuesOf : Except (List Issue) (Option Json) → List Issue
  | .ok _ => []
  | .error issues => issues

def Schema.valueOf : Except (List Issue) (Option Json) → Option Json
  | .ok read => read
  | .error _ => none

/-- The kind of value a schema asks for itself; the others leave that to their inner schema. -/
def Schema.expects : Schema → Option String
  | .string _ => some "string"
  | .boolean => some "boolean"
  | .number _ => some "number"
  | .array _ => some "array"
  | .object _ => some "object"
  | _ => none

/-- What is documented of zod: how `safeParse` goes by the combinators that a schema is built with. -/
structure Zod where
  safeParse : Schema → Option Json → Except (List Issue) (Option Json)
  mismatched : ∀ {schema expected value}, schema.expects = some expected →
    (∀ json, value = some json → kind json ≠ expected) → safeParse schema value = outcome (mismatch expected value)
  string : ∀ text given, safeParse (.string text) (some (.string given)) =
    outcome ((run text.checks given).1.map fun message => ⟨[], message⟩, some (.string (run text.checks given).2))
  boolean : ∀ truth, safeParse .boolean (some (.bool truth)) = .ok (some (.bool truth))
  number : ∀ tests given, safeParse (.number tests) (some (.number given)) =
    outcome (failures tests given, some (.number given))
  null : ∀ inner, safeParse (.nullable inner) (some .null) = .ok (some .null)
  nullable : ∀ inner value, value ≠ some .null → safeParse (.nullable inner) value = safeParse inner value
  absent : ∀ inner, safeParse (.optional inner) none = .ok none
  optional : ∀ inner json, safeParse (.optional inner) (some json) = safeParse inner (some json)
  withDefault : ∀ standard inner value,
    safeParse (.withDefault standard inner) value = safeParse inner (some (value.getD standard))
  array : ∀ item given, safeParse (.array item) (some (.array given)) =
    outcome (given.zipIdx.flatMap fun placed =>
        (issuesOf (safeParse item (some placed.1))).map (Issue.under (.item placed.2)),
      some (.array (given.filterMap fun each => valueOf (safeParse item (some each)))))
  object : ∀ shape members, safeParse (.object shape) (some (.object members)) =
    outcome (shape.flatMap fun field =>
        (issuesOf (safeParse field.2 ((Json.object members).member? field.1))).map (Issue.under (.member field.1)),
      some (.object (shape.filterMap fun field =>
        (valueOf (safeParse field.2 ((Json.object members).member? field.1))).map fun value => (field.1, value))))

namespace Schema

theorem safeParse_eq_outcome (schema : Schema) (value : Option Json) :
    schema.safeParse value = outcome (schema.parse value) := rfl

theorem issuesOf_outcome (parsed : List Issue × Option Json) : issuesOf (outcome parsed) = parsed.1 := by
  obtain ⟨issues, read⟩ := parsed
  cases issues with
  | nil => rfl
  | cons issue issues => rfl

theorem valueOf_outcome {parsed : List Issue × Option Json} (passed : parsed.1 = []) :
    valueOf (outcome parsed) = parsed.2 := by
  obtain ⟨issues, read⟩ := parsed
  cases passed
  rfl

/-- Only without issues the value counts. -/
theorem outcome_congr {issues issues' : List Issue} {read read' : Option Json} (same : issues = issues')
    (agree : issues = [] → read = read') : outcome (issues, read) = outcome (issues', read') := by
  subst same
  cases issues with
  | nil => rw [agree rfl]
  | cons issue issues => rfl

theorem safeParse_array (item : Schema) (given : List Json) : (Schema.array item).safeParse (some (.array given)) =
    outcome (given.zipIdx.flatMap fun placed =>
        (issuesOf (item.safeParse (some placed.1))).map (Issue.under (.item placed.2)),
      some (.array (given.filterMap fun each => valueOf (item.safeParse (some each))))) := by
  have parsed : (Schema.array item).parse (some (.array given)) =
      ((items (fun value => item.parse value) 0 given).1,
        some (.array (items (fun value => item.parse value) 0 given).2)) :=
    rfl
  rw [safeParse_eq_outcome, parsed, items_eq]
  simp only [safeParse_eq_outcome, issuesOf_outcome]
  refine outcome_congr rfl fun passed => ?_
  congr 2
  apply List.filterMap_congr
  intro each member
  obtain ⟨index, placed⟩ := List.getElem?_of_mem member
  rw [valueOf_outcome]
  have none_there := List.flatMap_eq_nil_iff.mp passed (each, index) (List.mk_mem_zipIdx_iff_getElem?.mpr placed)
  exact List.map_eq_nil_iff.mp none_there

theorem safeParse_object (shape : List (String × Schema)) (members : List (String × Json)) :
    (Schema.object shape).safeParse (some (.object members)) =
      outcome (shape.flatMap fun field =>
          (issuesOf (field.2.safeParse ((Json.object members).member? field.1))).map (Issue.under (.member field.1)),
        some (.object (shape.filterMap fun field =>
          (valueOf (field.2.safeParse ((Json.object members).member? field.1))).map fun value =>
            (field.1, value)))) := by
  have parsed : (Schema.object shape).parse (some (.object members)) =
      ((fields shape (.object members)).1, some (.object (fields shape (.object members)).2)) := rfl
  rw [safeParse_eq_outcome, parsed, fields_eq]
  simp only [safeParse_eq_outcome, issuesOf_outcome]
  refine outcome_congr rfl fun passed => ?_
  congr 2
  apply List.filterMap_congr
  intro field member
  rw [valueOf_outcome]
  exact List.map_eq_nil_iff.mp (List.flatMap_eq_nil_iff.mp passed field member)

theorem safeParse_nullable (inner : Schema) {value : Option Json} (present : value ≠ some .null) :
    (Schema.nullable inner).safeParse value = inner.safeParse value := by
  rw [safeParse_eq_outcome, safeParse_eq_outcome]
  rcases value with _ | json
  · rfl
  · cases json with
    | null => exact absurd rfl present
    | bool | number | string | array | object => rfl

theorem safeParse_mismatched {schema : Schema} {expected : String} {value : Option Json}
    (asks : schema.expects = some expected) (other : ∀ json, value = some json → kind json ≠ expected) :
    schema.safeParse value = outcome (mismatch expected value) := by
  rw [safeParse_eq_outcome]
  cases schema with
  | nullable | optional | withDefault => cases asks
  | string | boolean | number | array | object =>
    cases asks
    rcases value with _ | json
    · rfl
    · have different := other json rfl
      cases json with
      | null | bool | number | string | array | object =>
        first
        | rfl
        | exact absurd rfl different

end Schema

namespace Zod

theorem agree (zod : Zod) {schema : Schema} {expected : String} (asks : schema.expects = some expected)
    (own : ∀ json, kind json = expected → zod.safeParse schema (some json) = schema.safeParse (some json))
    (value : Option Json) : zod.safeParse schema value = schema.safeParse value := by
  by_cases mismatched : ∀ json, value = some json → kind json ≠ expected
  · exact (zod.mismatched asks mismatched).trans (safeParse_mismatched asks mismatched).symm
  · push Not at mismatched
    obtain ⟨json, rfl, same⟩ := mismatched
    exact own json same

/-- The laws leave nothing open. -/
theorem safeParse_eq (zod : Zod) (schema : Schema) (value : Option Json) :
    zod.safeParse schema value = schema.safeParse value := by
  induction schema using Schema.induction generalizing value with
  | string text =>
    refine zod.agree rfl (fun json same => ?_) value
    cases json with
    | string given => exact zod.string text given
    | _ => simp [kind] at same
  | boolean =>
    refine zod.agree rfl (fun json same => ?_) value
    cases json with
    | bool truth => exact zod.boolean truth
    | _ => simp [kind] at same
  | number tests =>
    refine zod.agree rfl (fun json same => ?_) value
    cases json with
    | number given => exact zod.number tests given
    | _ => simp [kind] at same
  | nullable inner ih =>
    by_cases null : value = some .null
    · subst null
      exact zod.null inner
    · rw [zod.nullable inner value null, ih, safeParse_nullable inner null]
  | optional inner ih =>
    cases value with
    | none => exact zod.absent inner
    | some json => exact (zod.optional inner json).trans (ih (some json))
  | withDefault standard inner ih => exact (zod.withDefault standard inner value).trans (ih _)
  | array item ih =>
    refine zod.agree rfl (fun json same => ?_) value
    cases json with
    | array given =>
      rw [zod.array, safeParse_array]
      simp only [ih]
    | _ => simp [kind] at same
  | object shape ih =>
    refine zod.agree rfl (fun json same => ?_) value
    cases json with
    | object members =>
      rw [zod.object, safeParse_object]
      congr 2
      · exact List.flatMap_congr fun field member => by rw [ih field member]
      · congr 2
        exact List.filterMap_congr fun field member => by rw [ih field member]
    | _ => simp [kind] at same

/-- `Schema.safeParse` is as documented. -/
def interpreter : Zod where
  safeParse := Schema.safeParse
  mismatched := safeParse_mismatched
  string _ _ := rfl
  boolean _ := rfl
  number _ _ := rfl
  null _ := rfl
  nullable inner _ := safeParse_nullable inner
  absent _ := rfl
  optional _ _ := rfl
  withDefault _ _ _ := rfl
  array := safeParse_array
  object := safeParse_object

end Zod
end Codec
