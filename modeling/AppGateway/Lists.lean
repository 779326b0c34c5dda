import Mathlib.Data.List.Forall2
import Mathlib.Tactic.Common

namespace Lists

variable {α : Type} {xs : List α}

theorem concat_eq_some {last x : α} {index : Nat} :
    (xs ++ [last])[index]? = some x ↔ xs[index]? = some x ∨ index = xs.length ∧ x = last := by
  rw [List.getElem?_append]
  split
  · rename_i inside
    constructor
    · exact .inl
    · rintro (found | ⟨here, _⟩)
      · exact found
      · omega
  · rename_i outside
    have absent : xs[index]? = none := List.getElem?_eq_none (Nat.not_lt.mp outside)
    rw [List.getElem?_singleton]
    split
    · rename_i here
      constructor
      · rintro ⟨⟩
        exact .inr ⟨by omega, rfl⟩
      · rintro (found | ⟨_, rfl⟩)
        · rw [absent] at found
          cases found
        · rfl
    · constructor
      · intro nothing
        cases nothing
      · rintro (found | ⟨here, _⟩)
        · rw [absent] at found
          cases found
        · omega

theorem concat_split {front rest : List α} {last x : α} (split : xs ++ [last] = front ++ x :: rest) (apart : x ≠ last) :
    xs[front.length]? = some x ∧ xs.take front.length = front := by
  rcases List.eq_nil_or_concat rest with rfl | ⟨middle, final, rfl⟩
  · exact absurd (List.cons.inj (List.append_inj' split rfl).2).1.symm apart
  · rw [List.concat_eq_append, ← List.cons_append, ← List.append_assoc] at split
    obtain rfl := (List.append_inj' split rfl).1
    simp

theorem set_cases {index other : Nat} {x y : α} (there : (xs.set index x)[other]? = some y) :
    other = index ∧ y = x ∨ other ≠ index ∧ xs[other]? = some y := by
  rw [List.getElem?_set] at there
  split at there
  · rename_i same
    split at there
    · exact .inl ⟨same.symm, (Option.some.inj there).symm⟩
    · cases there
  · rename_i differs
    exact .inr ⟨fun same => differs same.symm, there⟩

theorem set_same {index : Nat} {x : α} (there : xs[index]? = some x) : xs.set index x = xs := by
  obtain ⟨inside, rfl⟩ := List.getElem?_eq_some_iff.mp there
  exact List.set_getElem_self inside

theorem countP_set_same {counts : α → Bool} {index : Nat} {old new : α}
    (there : xs[index]? = some old) (same : counts new = counts old) :
    (xs.set index new).countP counts = xs.countP counts := by
  obtain ⟨inside, found⟩ := List.getElem?_eq_some_iff.mp there
  rw [List.countP_set inside, found, same]
  have bound : (if counts old then 1 else 0) ≤ xs.countP counts := by
    split
    · exact List.countP_pos_iff.mpr ⟨old, List.mem_of_getElem? there, by assumption⟩
    · exact Nat.zero_le _
  omega

theorem filter_eq_take {keep : α → Bool} {bound : Nat}
    (first : ∀ (position : Nat) x, xs[position]? = some x → (keep x = true ↔ position < bound)) :
    xs.filter keep = xs.take bound := by
  induction xs generalizing bound with
  | nil => simp
  | cons x xs ih =>
    have head := first 0 x rfl
    cases bound with
    | zero =>
      have dropped : ∀ y ∈ x :: xs, ¬ keep y = true := by
        intro y member
        obtain ⟨position, found⟩ := List.getElem?_of_mem member
        rw [first position y found]
        omega
      simpa using dropped
    | succ bound =>
      rw [List.filter_cons_of_pos (head.mpr (Nat.succ_pos _)), List.take_succ_cons]
      congr 1
      refine ih fun position y found => ?_
      rw [first (position + 1) y (by simpa using found)]
      omega

theorem countP_le_of_first {keep : α → Bool} {bound : Nat}
    (first : ∀ (position : Nat) x, xs[position]? = some x → keep x = true → position < bound) :
    xs.countP keep ≤ bound := by
  have late : (xs.drop bound).countP keep = 0 := by
    rw [List.countP_eq_zero]
    intro x member kept
    obtain ⟨position, found⟩ := List.getElem?_of_mem member
    rw [List.getElem?_drop] at found
    have before := first _ x found kept
    omega
  calc xs.countP keep = (xs.take bound).countP keep + (xs.drop bound).countP keep := by
        rw [← List.countP_append, List.take_append_drop]
    _ ≤ bound := by
        rw [late]
        exact Nat.le_trans List.countP_le_length (List.length_take_le _ _)

theorem countP_le_add {keep first second : α → Bool}
    (covered : ∀ x ∈ xs, keep x = true → first x = true ∨ second x = true) :
    xs.countP keep ≤ xs.countP first + xs.countP second := by
  induction xs with
  | nil => simp
  | cons x xs ih =>
    have rest := ih fun y member => covered y (List.mem_cons_of_mem _ member)
    have head := covered x (List.mem_cons_self ..)
    simp only [List.countP_cons]
    by_cases kept : keep x = true
    · rcases head kept with one | two
      · simp only [kept, one, if_true]
        omega
      · simp only [kept, two, if_true]
        omega
    · rw [if_neg kept]
      omega

section Related

variable {β : Type} {related : α → β → Prop} {ys : List β} {x : α} {y : β} {index : Nat}

theorem forall₂_getElem? (all : List.Forall₂ related xs ys) (found : xs[index]? = some x) :
    ∃ y, ys[index]? = some y ∧ related x y := by
  induction all generalizing index with
  | nil => cases found
  | cons first rest ih =>
    cases index with
    | zero =>
      cases found
      exact ⟨_, rfl, first⟩
    | succ index => exact ih found

theorem forall₂_set (all : List.Forall₂ related xs ys) (new : related x y) (index : Nat) :
    List.Forall₂ related (xs.set index x) (ys.set index y) := by
  induction all generalizing index with
  | nil => exact .nil
  | cons first rest ih =>
    cases index with
    | zero => exact .cons new rest
    | succ index => exact .cons first (ih index)

end Related

end Lists
