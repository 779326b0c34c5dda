import Mathlib.Data.List.Basic

namespace Codec.Decimal

theorem colon_not_digit (n : Nat) : ':' ∉ Nat.toDigits 10 n := by
  intro member
  exact absurd (Nat.isDigit_of_mem_toDigits (by decide) (by decide) member) (by decide)

/-- Texts split at a colon in two ways: the longer front takes a group of the shorter one's back. -/
theorem append_colon_cases {front back front' back' : List Char}
    (same : front ++ ':' :: back = front' ++ ':' :: back') :
    (front = front' ∧ back = back') ∨
    (∃ group, front' = front ++ ':' :: group ∧ back = group ++ ':' :: back') ∨
    (∃ group, front = front' ++ ':' :: group ∧ back' = group ++ ':' :: back) := by
  rcases List.append_eq_append_iff.mp same with ⟨middle, longer, rest⟩ | ⟨middle, longer, rest⟩
  · cases middle with
    | nil =>
      cases rest
      exact .inl ⟨by simpa using longer.symm, rfl⟩
    | cons first group =>
      cases rest
      exact .inr (.inl ⟨group, longer, rfl⟩)
  · cases middle with
    | nil =>
      cases rest
      exact .inl ⟨by simpa using longer, rfl⟩
    | cons first group =>
      cases rest
      exact .inr (.inr ⟨group, longer, rfl⟩)

theorem append_colon_inj {front back front' back' : List Char} (digits : ':' ∉ back) (digits' : ':' ∉ back')
    (same : front ++ ':' :: back = front' ++ ':' :: back') : front = front' ∧ back = back' := by
  rcases append_colon_cases same with equal | ⟨group, _, rfl⟩ | ⟨group, _, rfl⟩
  · exact equal
  · exact absurd (List.mem_append_right _ (List.mem_cons_self ..)) digits
  · exact absurd (List.mem_append_right _ (List.mem_cons_self ..)) digits'

theorem numbered_inj {text text' : String} {n n' : Nat}
    (same : text ++ ":" ++ toString n = text' ++ ":" ++ toString n') : text = text' ∧ n = n' := by
  have chars := congrArg String.toList same
  simp only [String.toList_append, Nat.toString_eq_repr, Nat.toList_repr, List.append_assoc] at chars
  obtain ⟨front, digits⟩ := append_colon_inj (colon_not_digit n) (colon_not_digit n') chars
  refine ⟨String.toList_inj.mp front, ?_⟩
  have values := congrArg (fun digits => Nat.ofDigitChars 10 digits 0) digits
  simpa [Nat.ofDigitChars_toDigits] using values

end Codec.Decimal
