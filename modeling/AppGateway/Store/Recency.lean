import Mathlib.Data.Finset.Card
import Mathlib.Data.List.Nodup

namespace Store

variable {Key : Type} [DecidableEq Key]

/-- The keys of a history of accesses, the latest access first, each at the place of its latest access. -/
def recency : List Key → List Key
  | [] => []
  | key :: earlier => key :: (recency earlier).filter (· ≠ key)

theorem mem_recency {accesses : List Key} {key : Key} : key ∈ recency accesses ↔ key ∈ accesses := by
  induction accesses with
  | nil => exact Iff.rfl
  | cons latest earlier ih =>
    by_cases same : key = latest
    · simp [recency, same]
    · simp [recency, same, ih]

theorem recency_nodup (accesses : List Key) : (recency accesses).Nodup := by
  induction accesses with
  | nil => exact List.nodup_nil
  | cons latest earlier ih =>
    rw [recency, List.nodup_cons]
    exact ⟨by simp, ih.filter _⟩

def accessedSince (key : Key) (accesses : List Key) : Finset Key := (accesses.takeWhile (· ≠ key)).toFinset

theorem takeWhile_filter_ne {key other : Key} (different : other ≠ key) (keys : List Key) :
    (keys.filter (· ≠ other)).takeWhile (· ≠ key) = (keys.takeWhile (· ≠ key)).filter (· ≠ other) := by
  induction keys with
  | nil => rfl
  | cons first rest ih =>
    by_cases named : first = key
    · simp [named, different.symm]
    · by_cases same : first = other
      · simpa [same, different] using ih
      · simpa [named, same] using ih

theorem accessedSince_eq (key : Key) (accesses : List Key) :
    accessedSince key accesses = ((recency accesses).takeWhile (· ≠ key)).toFinset := by
  unfold accessedSince
  induction accesses with
  | nil => rfl
  | cons latest earlier ih =>
    by_cases same : latest = key
    · simp [recency, same]
    · rw [recency, List.takeWhile_cons_of_pos (by simpa using same), List.takeWhile_cons_of_pos (by simpa using same),
        List.toFinset_cons, List.toFinset_cons, ih, takeWhile_filter_ne same]
      ext other
      simp only [Finset.mem_insert, List.mem_toFinset, List.mem_filter]
      by_cases again : other = latest
      · simp [again]
      · simp [again]

theorem idxOf_eq_length (key : Key) (keys : List Key) : keys.idxOf key = (keys.takeWhile (· ≠ key)).length := by
  induction keys with
  | nil => rfl
  | cons first rest ih =>
    by_cases named : first = key
    · simp [named]
    · rw [List.idxOf_cons_ne _ named, List.takeWhile_cons_of_pos (by simpa using named), List.length_cons, ih]

theorem idxOf_recency (key : Key) (accesses : List Key) :
    (recency accesses).idxOf key = (accessedSince key accesses).card := by
  rw [accessedSince_eq, idxOf_eq_length, List.toFinset_card_of_nodup]
  exact (recency_nodup accesses).sublist (List.takeWhile_sublist _)

theorem take_filter_ne {keys : List Key} (distinct : keys.Nodup) (key : Key) (size : Nat) :
    ((keys.take (size + 1)).filter (· ≠ key)).take size = (keys.filter (· ≠ key)).take size := by
  induction keys generalizing size with
  | nil => rfl
  | cons first rest ih =>
    obtain ⟨absent, distinct⟩ := List.nodup_cons.mp distinct
    rw [List.take_succ_cons]
    by_cases named : first = key
    · subst named
      have others : ∀ other ∈ rest, other ≠ first := fun other member same => absent (same ▸ member)
      have kept : rest.filter (· ≠ first) = rest := List.filter_eq_self.mpr (by simpa using others)
      have kept_take : (rest.take size).filter (· ≠ first) = rest.take size :=
        List.filter_eq_self.mpr fun other member => by simpa using others other (List.mem_of_mem_take member)
      rw [List.filter_cons_of_neg (by simp), List.filter_cons_of_neg (by simp), kept, kept_take, List.take_take,
        Nat.min_self]
    · rw [List.filter_cons_of_pos (by simpa using named), List.filter_cons_of_pos (by simpa using named)]
      cases size with
      | zero => rfl
      | succ size => rw [List.take_succ_cons, List.take_succ_cons, ih distinct]

theorem take_recency_cons (size : Nat) (key : Key) (accesses : List Key) :
    (recency (key :: accesses)).take size = (key :: ((recency accesses).take size).filter (· ≠ key)).take size := by
  cases size with
  | zero => rfl
  | succ size => rw [recency, List.take_succ_cons, List.take_succ_cons, take_filter_ne (recency_nodup accesses)]

end Store
