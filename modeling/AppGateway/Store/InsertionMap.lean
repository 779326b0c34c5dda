import Mathlib.Data.List.Nodup

namespace Store

/-- A map that iterates over its keys in the order they were inserted in. -/
structure InsertionMap (Key Value : Type) where
  entries : List (Key × Value)
  distinct : (entries.map Prod.fst).Nodup

namespace InsertionMap

variable {Key Value : Type}

def empty : InsertionMap Key Value := ⟨[], List.nodup_nil⟩

def keys (map : InsertionMap Key Value) : List Key := map.entries.map Prod.fst

def size (map : InsertionMap Key Value) : Nat := map.entries.length

variable [DecidableEq Key]

def get (map : InsertionMap Key Value) (key : Key) : Option Value :=
  (map.entries.find? fun entry => entry.1 = key).map (·.2)

def delete (map : InsertionMap Key Value) (key : Key) : InsertionMap Key Value :=
  ⟨map.entries.filter fun entry => entry.1 ≠ key, map.distinct.sublist (List.filter_sublist.map Prod.fst)⟩

theorem map_replace (entries : List (Key × Value)) (key : Key) (value : Value) :
    (entries.map fun entry => if entry.1 = key then (key, value) else entry).map Prod.fst = entries.map Prod.fst := by
  rw [List.map_map]
  apply List.map_congr_left
  intro entry _
  by_cases named : entry.1 = key
  · simp [named]
  · simp [named]

def set (map : InsertionMap Key Value) (key : Key) (value : Value) : InsertionMap Key Value :=
  if present : key ∈ map.entries.map Prod.fst then
    ⟨map.entries.map fun entry => if entry.1 = key then (key, value) else entry, by
      rw [map_replace]
      exact map.distinct⟩
  else
    ⟨map.entries ++ [(key, value)], by
      rw [List.map_append]
      exact List.nodup_append.mpr ⟨map.distinct, List.nodup_singleton _, by
        intro other member last same _
        simp_all⟩⟩

theorem get_eq_some {map : InsertionMap Key Value} {key : Key} {value : Value} :
    map.get key = some value ↔ (key, value) ∈ map.entries := by
  constructor
  · intro found
    obtain ⟨entry, present, same⟩ := Option.map_eq_some_iff.mp found
    have named : entry.1 = key := by simpa using List.find?_some present
    rw [← named, ← same]
    exact List.mem_of_find?_eq_some present
  · intro member
    have some_entry : (map.entries.find? fun entry => entry.1 = key).isSome := by
      rw [List.find?_isSome]
      exact ⟨_, member, by simp⟩
    obtain ⟨entry, present⟩ := Option.isSome_iff_exists.mp some_entry
    have named : entry.1 = key := by simpa using List.find?_some present
    have same : entry = (key, value) :=
      List.inj_on_of_nodup_map map.distinct (List.mem_of_find?_eq_some present) member named
    rw [get, present, same]
    rfl

theorem get_eq_none {map : InsertionMap Key Value} {key : Key} : map.get key = none ↔ key ∉ map.keys := by
  rw [Option.eq_none_iff_forall_ne_some]
  constructor
  · intro missing member
    obtain ⟨entry, present, rfl⟩ := List.mem_map.mp member
    exact missing entry.2 (get_eq_some.mpr present)
  · intro absent value found
    exact absent (List.mem_map.mpr ⟨_, get_eq_some.mp found, rfl⟩)

theorem keys_delete (map : InsertionMap Key Value) (key : Key) : (map.delete key).keys = map.keys.filter (· ≠ key) := by
  unfold keys delete
  rw [List.filter_map]
  rfl

/-- Deleting a key and setting it again moves it to the end. -/
theorem entries_delete_set (map : InsertionMap Key Value) (key : Key) (value : Value) :
    ((map.delete key).set key value).entries = (map.entries.filter fun entry => entry.1 ≠ key) ++ [(key, value)] := by
  have absent : key ∉ (map.delete key).entries.map Prod.fst := by
    show key ∉ (map.delete key).keys
    rw [keys_delete]
    simp
  unfold set
  rw [dif_neg absent]
  rfl

theorem entries_delete_head {map : InsertionMap Key Value} {key : Key} (first : map.keys.head? = some key) :
    (map.delete key).entries = map.entries.tail := by
  obtain ⟨entries, distinct⟩ := map
  cases entries with
  | nil => cases first
  | cons entry rest =>
    cases first
    show (entry :: rest).filter (fun other => other.1 ≠ entry.1) = rest
    rw [List.filter_cons_of_neg (by simp), List.filter_eq_self]
    intro other member
    have different : other.1 ≠ entry.1 := by
      intro same
      exact (List.nodup_cons.mp distinct).1 (same ▸ List.mem_map_of_mem member)
    simpa using different

end InsertionMap
end Store
