import Mathlib.Data.List.Basic

namespace Store

structure Entry (Key Value : Type) where
  key : Key
  value : Value
  expiresAt : Nat
deriving DecidableEq, Repr

abbrev Expiring (Key Value : Type) := List (Entry Key Value)

namespace Expiring

variable {Key Value : Type} [DecidableEq Key]

def lookup (store : Expiring Key Value) (now : Nat) (key : Key) : Option (Entry Key Value) :=
  store.find? fun entry => entry.key = key ∧ now < entry.expiresAt

def get (store : Expiring Key Value) (now : Nat) (key : Key) : Option Value :=
  (store.lookup now key).map (·.value)

def del (store : Expiring Key Value) (key : Key) : Expiring Key Value :=
  store.filter fun entry => entry.key ≠ key

def set (store : Expiring Key Value) (key : Key) (value : Value) (expiresAt : Nat) :
    Expiring Key Value :=
  ⟨key, value, expiresAt⟩ :: store.del key

def setNx (store : Expiring Key Value) (now : Nat) (key : Key) (value : Value) (expiresAt : Nat) :
    Bool × Expiring Key Value :=
  match store.get now key with
  | some _ => (false, store)
  | none => (true, store.set key value expiresAt)

theorem get_set_same (store : Expiring Key Value) (now : Nat) (key : Key) (value : Value)
    (expiresAt : Nat) :
    (store.set key value expiresAt).get now key = if now < expiresAt then some value else none := by
  by_cases live : now < expiresAt
  · simp [get, lookup, set, live]
  · simp only [get, lookup, set, live, List.find?_cons, and_false, decide_false, if_false,
      Option.map_eq_none_iff, List.find?_eq_none]
    intro entry member
    have other : entry.key ≠ key := by simpa [del] using (List.mem_filter.mp member).2
    simp [other]

theorem lookup_del_other (store : Expiring Key Value) (now : Nat) {key other : Key}
    (different : other ≠ key) : (store.del key).lookup now other = store.lookup now other := by
  induction store with
  | nil => rfl
  | cons entry store ih =>
    by_cases same : entry.key = key
    · have skip : entry.key ≠ other := fun equal => different (equal.symm.trans same)
      simpa [del, lookup, List.filter_cons, List.find?_cons, same, skip, Ne.symm different] using ih
    · simp only [del, lookup, List.filter_cons, same, ne_eq, not_false_eq_true, decide_true, if_true,
        List.find?_cons] at ih ⊢
      split
      · rfl
      · exact ih

theorem get_set_other (store : Expiring Key Value) (now : Nat) {key other : Key} (value : Value)
    (expiresAt : Nat) (different : other ≠ key) :
    (store.set key value expiresAt).get now other = store.get now other := by
  have skip : ¬ key = other := fun equal => different equal.symm
  simp only [get, lookup, set, List.find?_cons, skip, false_and, decide_false]
  exact congrArg (Option.map (·.value)) (lookup_del_other store now different)

theorem get_del_same (store : Expiring Key Value) (now : Nat) (key : Key) :
    (store.del key).get now key = none := by
  simp only [get, lookup, Option.map_eq_none_iff, List.find?_eq_none]
  intro entry member
  have other : entry.key ≠ key := by simpa [del] using (List.mem_filter.mp member).2
  simp [other]

theorem get_del_other (store : Expiring Key Value) (now : Nat) {key other : Key}
    (different : other ≠ key) : (store.del key).get now other = store.get now other := by
  simp only [get, lookup_del_other store now different]

theorem mem_of_get {store : Expiring Key Value} {now : Nat} {key : Key} {value : Value}
    (found : store.get now key = some value) :
    ∃ entry ∈ store, entry.key = key ∧ entry.value = value ∧ now < entry.expiresAt := by
  simp only [get, lookup, Option.map_eq_some_iff] at found
  obtain ⟨entry, first, rfl⟩ := found
  have holds := List.find?_some first
  simp only [decide_eq_true_eq] at holds
  exact ⟨entry, List.mem_of_find?_eq_some first, holds.1, rfl, holds.2⟩

theorem get_ne_none {store : Expiring Key Value} {now : Nat} {key : Key} {entry : Entry Key Value}
    (stored : entry ∈ store) (named : entry.key = key) (live : now < entry.expiresAt) :
    store.get now key ≠ none := by
  intro missing
  simp only [get, lookup, Option.map_eq_none_iff, List.find?_eq_none] at missing
  exact missing entry stored (by simp [named, live])

theorem lookup_of_mem {store : Expiring Key Value} {now : Nat} {entry : Entry Key Value} (stored : entry ∈ store)
    (live : now < entry.expiresAt) : ∃ found ∈ store, store.lookup now entry.key = some found ∧
    found.key = entry.key := by
  cases first : store.lookup now entry.key with
  | none => exact absurd (by simp [get, first]) (get_ne_none stored rfl live)
  | some found =>
    have holds := List.find?_some first
    simp only [decide_eq_true_eq] at holds
    exact ⟨found, List.mem_of_find?_eq_some first, rfl, holds.1⟩

theorem get_none_later {store : Expiring Key Value} {now later : Nat} {key : Key} (missing : store.get now key = none)
    (after : now ≤ later) : store.get later key = none := by
  simp only [get, lookup, Option.map_eq_none_iff, List.find?_eq_none] at missing ⊢
  intro entry member found
  refine missing entry member ?_
  simp only [decide_eq_true_eq] at found ⊢
  exact ⟨found.1, by omega⟩

theorem mem_set {store : Expiring Key Value} {key : Key} {value : Value} {expiresAt : Nat}
    {entry : Entry Key Value} (member : entry ∈ store.set key value expiresAt) :
    entry = ⟨key, value, expiresAt⟩ ∨ entry ∈ store := by
  rcases List.mem_cons.mp member with rfl | kept
  · exact .inl rfl
  · exact .inr (List.mem_of_mem_filter kept)

end Expiring
end Store
