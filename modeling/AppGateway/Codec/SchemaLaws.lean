import Mathlib.Data.List.Nodup
import AppGateway.Codec.Schema

namespace Codec.Schema

section Members

variable {members : List (String × Json)} {name : String} {value : Json}

theorem member?_eq_none (absent : name ∉ members.map (·.1)) : (Json.object members).member? name = none := by
  simp only [Json.member?, Option.map_eq_none_iff, List.find?_eq_none, List.mem_reverse, decide_eq_true_eq]
  intro member inside same
  exact absent (List.mem_map.mpr ⟨member, inside, same⟩)

theorem member?_eq_some (distinct : (members.map (·.1)).Nodup) (inside : (name, value) ∈ members) :
    (Json.object members).member? name = some value := by
  simp only [Json.member?]
  cases found : members.reverse.find? fun member => member.1 = name with
  | none =>
    have missing := List.find?_eq_none.mp found (name, value) (List.mem_reverse.mpr inside)
    simp at missing
  | some member =>
    have there := List.mem_reverse.mp (List.mem_of_find?_eq_some found)
    have named : member.1 = name := by simpa using List.find?_some found
    have same := List.inj_on_of_nodup_map distinct there inside named
    rw [same]
    rfl

end Members

theorem fields_eq (shape : List (String × Schema)) (json : Json) :
    fields shape json =
      (shape.flatMap fun field => (parse field.2 (json.member? field.1)).1.map (Issue.under (.member field.1)),
       shape.filterMap fun field => (parse field.2 (json.member? field.1)).2.map fun value => (field.1, value)) := by
  induction shape with
  | nil => rfl
  | cons field shape ih =>
    obtain ⟨name, schema⟩ := field
    rw [fields, ih, List.flatMap_cons, List.filterMap_cons]
    generalize parse schema (json.member? name) = parsed
    obtain ⟨issues, value⟩ := parsed
    cases value <;> rfl

theorem fields_issues {shape : List (String × Schema)} {json : Json} :
    (fields shape json).1 = [] ↔ ∀ field ∈ shape, (parse field.2 (json.member? field.1)).1 = [] := by
  simp only [fields_eq, List.flatMap_eq_nil_iff, List.map_eq_nil_iff]

theorem mem_fields {shape : List (String × Schema)} {json : Json} {issue : Issue} :
    issue ∈ (fields shape json).1 ↔ ∃ field ∈ shape, ∃ inner ∈ (parse field.2 (json.member? field.1)).1,
      issue = inner.under (.member field.1) := by
  simp only [fields_eq, List.mem_flatMap, List.mem_map, eq_comm]

section Read

variable {shape : List (String × Schema)} {read : String × Schema → Option Json}

def readMembers (shape : List (String × Schema)) (read : String × Schema → Option Json) : List (String × Json) :=
  shape.filterMap fun field => (read field).map fun value => (field.1, value)

theorem readMembers_sublist : ((readMembers shape read).map (·.1)).Sublist (shape.map (·.1)) := by
  induction shape with
  | nil => simp [readMembers]
  | cons field shape ih =>
    have rest : ((readMembers shape read).map (·.1)).Sublist (shape.map (·.1)) := ih
    cases found : read field with
    | none => simpa [readMembers, List.filterMap_cons, found] using rest.cons field.1
    | some value => simpa [readMembers, List.filterMap_cons, found] using rest.cons_cons field.1

theorem readMembers_member? (distinct : (shape.map (·.1)).Nodup) {field : String × Schema} (inside : field ∈ shape) :
    (Json.object (readMembers shape read)).member? field.1 = read field := by
  cases found : read field with
  | some value =>
    apply member?_eq_some (distinct.sublist readMembers_sublist)
    exact List.mem_filterMap.mpr ⟨field, inside, by rw [found]; rfl⟩
  | none =>
    apply member?_eq_none
    intro named
    obtain ⟨⟨name, value⟩, there, same⟩ := List.mem_map.mp named
    obtain ⟨other, member, made⟩ := List.mem_filterMap.mp there
    obtain ⟨value', read', pair⟩ := Option.map_eq_some_iff.mp made
    cases pair
    have equal := List.inj_on_of_nodup_map distinct member inside same
    rw [equal, found] at read'
    cases read'

end Read

section Items

variable {parse : Option Json → List Issue × Option Json} {given values : List Json} {index : Nat}

theorem items_each {holds : Option Json → Prop}
    (each : ∀ item ∈ given, ∀ value, parse (some item) = ([], value) → holds value)
    (accepted : items parse index given = ([], values)) : ∀ value ∈ values, holds (some value) := by
  induction given generalizing index values with
  | nil =>
    cases accepted
    simp
  | cons item rest ih =>
    simp only [items] at accepted
    generalize read : parse (some item) = parsed at accepted
    generalize after : items parse (index + 1) rest = others at accepted
    obtain ⟨issues, value⟩ := parsed
    obtain ⟨more, later⟩ := others
    simp only [Prod.mk.injEq, List.append_eq_nil_iff, List.map_eq_nil_iff] at accepted
    obtain ⟨⟨rfl, rfl⟩, rfl⟩ := accepted
    have first := each item (List.mem_cons_self ..) value read
    have tail := ih (fun other inside => each other (List.mem_cons_of_mem _ inside)) after
    intro made inside
    rcases List.mem_append.mp inside with own | other
    · rw [Option.mem_toList] at own
      rw [← own]
      exact first
    · exact tail made other

theorem items_self (each : ∀ item ∈ given, parse (some item) = ([], some item)) :
    items parse index given = ([], given) := by
  induction given generalizing index with
  | nil => rfl
  | cons item rest ih =>
    have first := each item (List.mem_cons_self ..)
    have tail := @ih (index + 1) fun other inside => each other (List.mem_cons_of_mem _ inside)
    simp only [items, first, tail]
    rfl

theorem items_eq (parse : Option Json → List Issue × Option Json) (index : Nat) (given : List Json) :
    items parse index given =
      ((given.zipIdx index).flatMap fun placed => (parse (some placed.1)).1.map (Issue.under (.item placed.2)),
       given.filterMap fun item => (parse (some item)).2) := by
  induction given generalizing index with
  | nil => rfl
  | cons item rest ih =>
    rw [items, ih, List.zipIdx_cons, List.flatMap_cons, List.filterMap_cons]
    generalize parse (some item) = parsed
    obtain ⟨issues, value⟩ := parsed
    cases value <;> rfl

end Items

section Accepted

variable {value : Option Json}

theorem run_testing (tests : List ((String → Bool) × String)) (text : String) :
    (run (Text.testing tests).checks text).1 = [] ↔ ∀ test ∈ tests, test.1 text = true := by
  induction tests with
  | nil => simp [Text.testing, run]
  | cons test tests ih =>
    simp only [Text.testing] at ih
    simp only [Text.testing, List.map_cons, run]
    by_cases passes : test.1 text <;> simp [passes, ih]

theorem parse_testing {tests : List ((String → Bool) × String)} : (parse (.string (.testing tests)) value).1 = [] ↔
    ∃ text, value = some (.string text) ∧ ∀ test ∈ tests, test.1 text = true := by
  cases value with
  | none => simp [parse, mismatch]
  | some json => cases json <;> simp [parse, mismatch, run_testing]

theorem read_testing (tests : List ((String → Bool) × String)) (text : String) :
    (parse (.string (.testing tests)) (some (.string text))).2 = some (.string text) := by
  have same : (run (Text.testing tests).checks text).2 = text := by
    apply run_tests
    intro check member
    obtain ⟨test, _, rfl⟩ := List.mem_map.mp member
    exact ⟨test.1, test.2, rfl⟩
  simp only [parse, same]

theorem parse_boolean : (parse .boolean value).1 = [] ↔ ∃ truth, value = some (.bool truth) := by
  cases value with
  | none => simp [parse, mismatch]
  | some json => cases json <;> simp [parse, mismatch]

theorem parse_number {tests : List ((Json.Number → Bool) × String)} : (parse (.number tests) value).1 = [] ↔
    ∃ number, value = some (.number number) ∧ ∀ test ∈ tests, test.1 number = true := by
  cases value with
  | none => simp [parse, mismatch]
  | some json => cases json <;> simp [parse, mismatch, failures]

theorem parse_nullable {inner : Schema} : (parse (.nullable inner) value).1 = [] ↔
    value = some .null ∨ (parse inner value).1 = [] := by
  by_cases null : value = some .null
  · simp [null, parse]
  · simp only [parse, null, false_or]

theorem read_nullable {inner : Schema} {json : Json} (given : json ≠ .null) :
    parse (.nullable inner) (some json) = parse inner (some json) := by
  cases json <;> first | rfl | exact absurd rfl given

theorem parse_default {standard : Json} {inner : Schema} :
    parse (.withDefault standard (.optional inner)) value = parse inner (some (value.getD standard)) := rfl

theorem parse_array {item : Schema} : (parse (.array item) value).1 = [] ↔
    ∃ given, value = some (.array given) ∧ ∀ each ∈ given, (parse item (some each)).1 = [] := by
  cases value with
  | none => simp [parse, mismatch]
  | some json =>
    cases json with
    | array given =>
      simp only [parse, items_eq, List.flatMap_eq_nil_iff, List.map_eq_nil_iff, Option.some.injEq, Json.array.injEq,
        exists_eq_left']
      constructor
      · intro all each member
        obtain ⟨place, inside⟩ := List.getElem?_of_mem member
        exact all (each, place) (List.mem_zipIdx_iff_getElem?.mpr inside)
      · intro all placed inside
        exact all placed.1 (List.mem_of_getElem? (List.mem_zipIdx_iff_getElem?.mp inside))
    | _ => simp [parse, mismatch]

theorem read_array {item : Schema} {given : List Json} (each : ∀ own ∈ given, parse item (some own) = ([], some own)) :
    (parse (.array item) (some (.array given))).2 = some (.array given) := by
  have all : items (fun value => parse item value) 0 given = ([], given) := items_self each
  simp only [parse, all]

theorem fields_member? {shape : List (String × Schema)} (distinct : (shape.map (·.1)).Nodup) {field : String × Schema}
    (inside : field ∈ shape) (json : Json) :
    (Json.object (fields shape json).2).member? field.1 = (parse field.2 (json.member? field.1)).2 := by
  have shown : (fields shape json).2 = readMembers shape fun field => (parse field.2 (json.member? field.1)).2 := by
    rw [fields_eq]
    rfl
  rw [shown, readMembers_member? distinct inside]

end Accepted

theorem parse_some (schema : Schema) : ∀ json, parse schema (some json) ≠ ([], none) := by
  induction schema using induction with
  | string text => intro json; cases json <;> simp [parse, mismatch]
  | boolean => intro json; cases json <;> simp [parse, mismatch]
  | number tests => intro json; cases json <;> simp [parse, mismatch]
  | nullable inner ih =>
    intro json
    simp only [parse]
    split
    · simp
    · exact ih json
  | optional inner ih => exact ih
  | withDefault standard inner ih => exact ih
  | array item ih => intro json; cases json <;> simp [parse, mismatch]
  | object shape ih => intro json; cases json <;> simp [parse, mismatch]

theorem parse_conforms (schema : Schema) : wellFormed schema = true → ∀ value read,
    parse schema value = ([], read) → Conforms schema read := by
  induction schema using induction with
  | string text =>
    intro _ value read accepted
    cases value with
    | none => cases accepted
    | some json =>
      cases json with
      | string given =>
        simp only [parse, Prod.mk.injEq, List.map_eq_nil_iff] at accepted
        obtain ⟨passed, rfl⟩ := accepted
        exact ⟨_, rfl, text.stable given passed⟩
      | _ => cases accepted
  | boolean =>
    intro _ value read accepted
    cases value with
    | none => cases accepted
    | some json =>
      cases json with
      | bool truth =>
        cases accepted
        exact ⟨truth, rfl⟩
      | _ => cases accepted
  | number tests =>
    intro _ value read accepted
    cases value with
    | none => cases accepted
    | some json =>
      cases json with
      | number given =>
        simp only [parse, Prod.mk.injEq] at accepted
        obtain ⟨passed, rfl⟩ := accepted
        exact ⟨given, rfl, passed⟩
      | _ => cases accepted
  | nullable inner ih =>
    intro formed value read accepted
    simp only [parse] at accepted
    split at accepted
    · cases accepted
      exact .inl rfl
    · exact .inr (ih formed value read accepted)
  | optional inner ih =>
    intro formed value read accepted
    simp only [parse] at accepted
    split at accepted
    · cases accepted
      exact .inl rfl
    · exact .inr (ih formed _ read accepted)
  | withDefault standard inner ih =>
    intro formed value read accepted
    simp only [parse] at accepted
    refine ⟨?_, ih formed _ read accepted⟩
    rintro rfl
    exact parse_some inner _ accepted
  | array item ih =>
    intro formed value read accepted
    cases value with
    | none => cases accepted
    | some json =>
      cases json with
      | array given =>
        simp only [parse] at accepted
        generalize all : items (fun value => parse item value) 0 given = parsed at accepted
        obtain ⟨issues, values⟩ := parsed
        simp only [Prod.mk.injEq] at accepted
        obtain ⟨rfl, rfl⟩ := accepted
        exact ⟨values, rfl, items_each (fun each _ value read => ih formed (some each) value read) all⟩
      | _ => cases accepted
  | object shape ih =>
    intro formed value read accepted
    simp only [wellFormed, wellFormedFields_eq, Bool.and_eq_true, decide_eq_true_eq, List.all_eq_true] at formed
    obtain ⟨distinct, inner⟩ := formed
    cases value with
    | none => cases accepted
    | some json =>
      cases json with
      | object members =>
        simp only [parse, Prod.mk.injEq] at accepted
        obtain ⟨passed, rfl⟩ := accepted
        have each := fields_issues.mp passed
        have shown : (fields shape (.object members)).2 =
            readMembers shape fun field => (parse field.2 ((Json.object members).member? field.1)).2 := by
          rw [fields_eq]
          rfl
        rw [shown]
        refine ⟨_, rfl, readMembers_sublist, ?_⟩
        rw [allConform_iff]
        intro field inside
        rw [readMembers_member? distinct inside]
        exact ih field inside (inner field inside) _ _ (Prod.ext (each field inside) rfl)
      | _ => cases accepted

section Objects

variable {shape : List (String × Schema)} {value read : Option Json}

theorem parse_object_member (distinct : (shape.map (·.1)).Nodup) (accepted : parse (.object shape) value = ([], read)) :
    ∃ given members, value = some (.object given) ∧ read = some (.object members) ∧
      ∀ field ∈ shape, parse field.2 ((Json.object given).member? field.1) =
        ([], (Json.object members).member? field.1) := by
  cases value with
  | none => cases accepted
  | some json =>
    cases json with
    | object given =>
      simp only [parse, Prod.mk.injEq] at accepted
      obtain ⟨passed, rfl⟩ := accepted
      refine ⟨given, _, rfl, rfl, fun field inside => ?_⟩
      have shown : (fields shape (.object given)).2 =
          readMembers shape fun field => (parse field.2 ((Json.object given).member? field.1)).2 := by
        rw [fields_eq]
        rfl
      rw [shown, readMembers_member? distinct inside]
      exact Prod.ext (fields_issues.mp passed field inside) rfl
    | _ => cases accepted

theorem parse_object_issue {issue : Issue} (found : issue ∈ (parse (.object shape) value).1) :
    (issue.path = [] ∧ ∀ members, value ≠ some (.object members)) ∨
      ∃ field ∈ shape, ∃ rest, issue.path = .member field.1 :: rest := by
  cases value with
  | none =>
    simp only [parse, mismatch, List.mem_singleton] at found
    subst found
    exact .inl ⟨rfl, by simp⟩
  | some json =>
    cases json with
    | object given =>
      obtain ⟨field, inside, inner, _, rfl⟩ := mem_fields.mp found
      exact .inr ⟨field, inside, inner.path, rfl⟩
    | _ =>
      simp only [parse, mismatch, List.mem_singleton] at found
      subst found
      exact .inl ⟨rfl, by simp⟩

end Objects

end Codec.Schema
