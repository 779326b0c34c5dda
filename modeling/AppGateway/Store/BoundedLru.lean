import Mathlib.Data.List.Basic

namespace Store

/-- A map of at most `maxSize` entries, the least recently used one first. -/
structure BoundedLru (maxSize : Nat) (Key Value : Type) where
  store : List (Key × Value)
  bounded : store.length ≤ maxSize

namespace BoundedLru

variable {maxSize : Nat} {Key Value : Type} [DecidableEq Key]

def empty : BoundedLru maxSize Key Value := ⟨[], Nat.zero_le _⟩

def find (cache : BoundedLru maxSize Key Value) (key : Key) : Option Value :=
  (cache.store.find? fun entry => entry.1 = key).map (·.2)

def without (cache : BoundedLru maxSize Key Value) (key : Key) : List (Key × Value) :=
  cache.store.filter fun entry => entry.1 ≠ key

theorem without_length (cache : BoundedLru maxSize Key Value) (key : Key) : (cache.without key).length ≤ maxSize :=
  Nat.le_trans (List.length_filter_le ..) cache.bounded

theorem without_length_lt (cache : BoundedLru maxSize Key Value) {key : Key} {value : Value}
    (found : cache.find key = some value) : (cache.without key).length < maxSize := by
  obtain ⟨entry, present, _⟩ := Option.map_eq_some_iff.mp found
  have named : entry.1 = key := by simpa using List.find?_some present
  have smaller : (cache.without key).length < cache.store.length :=
    List.length_filter_lt_length_iff_exists.mpr ⟨entry, List.mem_of_find?_eq_some present, by simpa using named⟩
  exact Nat.lt_of_lt_of_le smaller cache.bounded

def get (cache : BoundedLru maxSize Key Value) (key : Key) : Option Value × BoundedLru maxSize Key Value :=
  match found : cache.find key with
  | none => (none, cache)
  | some value =>
    (some value, ⟨cache.without key ++ [(key, value)], by
      rw [List.length_append]
      exact cache.without_length_lt found⟩)

/-- The new entry is the last; over the limit, the first one goes. -/
def set (cache : BoundedLru maxSize Key Value) (key : Key) (value : Value) : BoundedLru maxSize Key Value :=
  if exceeds : maxSize < (cache.without key ++ [(key, value)]).length then
    ⟨(cache.without key ++ [(key, value)]).tail, by
      have fits := cache.without_length key
      simp only [List.length_tail, List.length_append, List.length_cons, List.length_nil]
      omega⟩
  else ⟨cache.without key ++ [(key, value)], Nat.not_lt.mp exceeds⟩

@[simp] theorem find_empty (key : Key) : (empty : BoundedLru maxSize Key Value).find key = none := rfl

@[simp] theorem get_fst (cache : BoundedLru maxSize Key Value) (key : Key) :
    (cache.get key).1 = cache.find key := by
  unfold get
  split
  · rename_i missing
    exact missing.symm
  · rename_i value found
    exact found.symm

theorem get_of_find_none {cache : BoundedLru maxSize Key Value} {key : Key} (missing : cache.find key = none) :
    cache.get key = (none, cache) := by
  unfold get
  split
  · rfl
  · rename_i value found
    rw [missing] at found
    cases found

theorem mem_of_find {cache : BoundedLru maxSize Key Value} {key : Key} {value : Value}
    (found : cache.find key = some value) : (key, value) ∈ cache.store := by
  obtain ⟨entry, present, same⟩ := Option.map_eq_some_iff.mp found
  have named : entry.1 = key := by simpa using List.find?_some present
  rw [← named, ← same]
  exact List.mem_of_find?_eq_some present

theorem mem_get {cache : BoundedLru maxSize Key Value} {key : Key} {entry : Key × Value}
    (member : entry ∈ (cache.get key).2.store) : entry ∈ cache.store := by
  unfold get at member
  split at member
  · exact member
  · rename_i value found
    rcases List.mem_append.mp member with kept | moved
    · exact List.mem_of_mem_filter kept
    · rw [List.mem_singleton.mp moved]
      exact mem_of_find found

theorem mem_set {cache : BoundedLru maxSize Key Value} {key : Key} {value : Value} {entry : Key × Value}
    (member : entry ∈ (cache.set key value).store) : entry ∈ cache.store ∨ entry = (key, value) := by
  have appended : entry ∈ cache.without key ++ [(key, value)] := by
    unfold set at member
    split at member
    · exact List.mem_of_mem_tail member
    · exact member
  rcases List.mem_append.mp appended with kept | new
  · exact .inl (List.mem_of_mem_filter kept)
  · exact .inr (List.mem_singleton.mp new)

end BoundedLru
end Store
