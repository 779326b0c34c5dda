import AppGateway.Model.BoundedLru
import AppGateway.Store.BoundedLru
import AppGateway.Store.Recency

namespace GatewayProof

open GatewayModel
open Store (InsertionMap recency accessedSince)

variable {Key Value : Type} [DecidableEq Key]

/-- What the calls of a history, the latest first, make of a new cache. -/
def cacheAfter (maxSize : Nat) : List (CacheCall Key Value) → GatewayModel.BoundedLru Key Value
  | [] => .new maxSize
  | .get key :: earlier => ((cacheAfter maxSize earlier).get key).2
  | .set key value :: earlier => (cacheAfter maxSize earlier).set key value

def accesses (maxSize : Nat) : List (CacheCall Key Value) → List Key
  | [] => []
  | .get key :: earlier =>
    if ((cacheAfter maxSize earlier).get key).1.isSome then key :: accesses maxSize earlier else
      accesses maxSize earlier
  | .set key _ :: earlier => key :: accesses maxSize earlier

def lastSet (key : Key) : List (CacheCall Key Value) → Option Value
  | [] => none
  | .get _ :: earlier => lastSet key earlier
  | .set other value :: earlier => if other = key then some value else lastSet key earlier

/-- The cache holds the keys of the latest accesses, the oldest first, with the values last set. -/
structure Recent (maxSize : Nat) (calls : List (CacheCall Key Value)) (cache : GatewayModel.BoundedLru Key Value) :
    Prop where
  limit : cache.maxSize = maxSize
  keys : cache.store.keys.reverse = (recency (accesses maxSize calls)).take maxSize
  values : ∀ key value, (key, value) ∈ cache.store.entries → lastSet key calls = some value

section Step

variable {maxSize : Nat} {calls : List (CacheCall Key Value)} {cache : GatewayModel.BoundedLru Key Value}

theorem get_fst (cache : GatewayModel.BoundedLru Key Value) (key : Key) : (cache.get key).1 = cache.store.get key := by
  unfold GatewayModel.BoundedLru.get
  split
  · rename_i missing
    exact missing.symm
  · rename_i value found
    exact found.symm

theorem Recent.size (recent : Recent maxSize calls cache) : cache.store.size ≤ maxSize := by
  have lengths := congrArg List.length recent.keys
  rw [List.length_reverse, List.length_take, InsertionMap.keys, List.length_map] at lengths
  show cache.store.entries.length ≤ maxSize
  omega

theorem Recent.fits (recent : Recent maxSize calls cache) : cache.store.size ≤ cache.maxSize :=
  Nat.le_trans recent.size (Nat.le_of_eq recent.limit.symm)

theorem keys_moved (store : InsertionMap Key Value) (key : Key) (value : Value) :
    ((store.delete key).set key value).keys.reverse = key :: store.keys.reverse.filter (· ≠ key) := by
  rw [InsertionMap.keys, InsertionMap.entries_delete_set, List.map_append, List.reverse_append, List.filter_reverse,
    ← InsertionMap.keys_delete]
  rfl

theorem Recent.moved (recent : Recent maxSize calls cache) (key : Key) (value : Value) :
    (((cache.store.delete key).set key value).keys.reverse).take maxSize =
      (recency (key :: accesses maxSize calls)).take maxSize := by
  rw [keys_moved, recent.keys, ← Store.take_recency_cons]

theorem size_moved (store : InsertionMap Key Value) (key : Key) (value : Value) :
    ((store.delete key).set key value).size = (store.keys.filter (· ≠ key)).length + 1 := by
  have lengths := congrArg List.length (keys_moved store key value)
  rw [List.length_reverse, InsertionMap.keys, List.length_map, List.length_cons, List.filter_reverse,
    List.length_reverse] at lengths
  exact lengths

theorem set_keys (fits : cache.store.size ≤ cache.maxSize) (key : Key) (value : Value) :
    (cache.set key value).store.keys.reverse =
      (((cache.store.delete key).set key value).keys.reverse).take cache.maxSize ∧
    ∀ entry ∈ (cache.set key value).store.entries, entry ∈ ((cache.store.delete key).set key value).entries := by
  have size := size_moved cache.store key value
  have fewer : (cache.store.keys.filter (· ≠ key)).length ≤ cache.store.size := by
    have shorter := List.length_filter_le (fun other => decide (other ≠ key)) cache.store.keys
    rw [InsertionMap.keys, List.length_map] at shorter
    exact shorter
  cases moved : (cache.store.delete key).set key value with
  | mk entries distinct =>
  rw [moved] at size
  have length : entries.length = (cache.store.keys.filter (· ≠ key)).length + 1 := size
  simp only [GatewayModel.BoundedLru.set, moved]
  by_cases exceeds : cache.maxSize < entries.length
  · cases entries with
    | nil => cases exceeds
    | cons oldest rest =>
      have first : (InsertionMap.mk (oldest :: rest) distinct).keys.head? = some oldest.1 := rfl
      have evicted := InsertionMap.entries_delete_head first
      simp only [InsertionMap.size, exceeds, if_true, first]
      rw [InsertionMap.keys, evicted]
      constructor
      · show (rest.map Prod.fst).reverse = ((oldest.1 :: rest.map Prod.fst).reverse).take cache.maxSize
        rw [List.reverse_cons, List.take_append_of_le_length, List.take_of_length_le]
        · rw [List.length_reverse, List.length_map]
          rw [List.length_cons] at exceeds length
          omega
        · rw [List.length_reverse, List.length_map]
          rw [List.length_cons] at exceeds length
          omega
      · intro entry member
        exact List.mem_of_mem_tail member
  · simp only [InsertionMap.size, exceeds, if_false]
    refine ⟨?_, fun entry member => member⟩
    rw [List.take_of_length_le]
    rw [List.length_reverse, InsertionMap.keys, List.length_map]
    exact Nat.not_lt.mp exceeds

theorem set_maxSize (cache : GatewayModel.BoundedLru Key Value) (key : Key) (value : Value) :
    (cache.set key value).maxSize = cache.maxSize := by
  simp only [GatewayModel.BoundedLru.set]
  split
  · split <;> rfl
  · rfl

theorem filter_length_lt {store : InsertionMap Key Value} {key : Key} (present : key ∈ store.keys) :
    (store.keys.filter (· ≠ key)).length < store.size := by
  have shorter : (store.keys.filter (· ≠ key)).length < store.keys.length :=
    List.length_filter_lt_length_iff_exists.mpr ⟨key, present, by simp⟩
  rwa [InsertionMap.keys, List.length_map] at shorter

theorem set_present (fits : cache.store.size ≤ cache.maxSize) {key : Key} (present : key ∈ cache.store.keys)
    (value : Value) : (cache.set key value).store = (cache.store.delete key).set key value := by
  have size := size_moved cache.store key value
  have fewer := filter_length_lt present
  simp only [GatewayModel.BoundedLru.set]
  rw [if_neg (by omega)]

theorem get_moved {store : InsertionMap Key Value} {key other : Key} (different : other ≠ key) (value : Value) :
    ((store.delete key).set key value).get other = store.get other := by
  apply Option.ext
  intro found
  rw [InsertionMap.get_eq_some, InsertionMap.get_eq_some, InsertionMap.entries_delete_set]
  simp [different]

theorem recent_after (maxSize : Nat) (calls : List (CacheCall Key Value)) :
    Recent maxSize calls (cacheAfter maxSize calls) := by
  induction calls with
  | nil =>
    refine ⟨rfl, ?_, nofun⟩
    simp [cacheAfter, accesses, recency, GatewayModel.BoundedLru.new, InsertionMap.empty, InsertionMap.keys]
  | cons call earlier recent =>
    have fits := recent.fits
    cases call with
    | get key =>
      cases found : (cacheAfter maxSize earlier).store.get key with
      | none =>
        have missed : cacheAfter maxSize (.get key :: earlier) = cacheAfter maxSize earlier := by
          simp only [cacheAfter, GatewayModel.BoundedLru.get, found]
        have same : accesses maxSize (.get key :: earlier) = accesses maxSize earlier := by
          rw [accesses, get_fst, found]
          rfl
        rw [missed]
        exact ⟨recent.limit, by rw [same, recent.keys], recent.values⟩
      | some value =>
        have member := InsertionMap.get_eq_some.mp found
        have hit : cacheAfter maxSize (.get key :: earlier) =
            ⟨(cacheAfter maxSize earlier).maxSize, ((cacheAfter maxSize earlier).store.delete key).set key value⟩ := by
          simp only [cacheAfter, GatewayModel.BoundedLru.get, found]
        have accessed : accesses maxSize (.get key :: earlier) = key :: accesses maxSize earlier := by
          rw [accesses, get_fst, found]
          rfl
        rw [hit]
        refine ⟨recent.limit, ?_, fun other last stored => ?_⟩
        · rw [accessed, ← recent.moved key value, List.take_of_length_le]
          have size := size_moved (cacheAfter maxSize earlier).store key value
          have present : key ∈ (cacheAfter maxSize earlier).store.keys := List.mem_map_of_mem member
          have fewer := filter_length_lt present
          have bound := recent.size
          rw [List.length_reverse, InsertionMap.keys, List.length_map]
          show ((cacheAfter maxSize earlier).store.delete key |>.set key value).size ≤ maxSize
          omega
        · rw [InsertionMap.entries_delete_set] at stored
          rcases List.mem_append.mp stored with kept | moved
          · exact recent.values other last (List.mem_of_mem_filter kept)
          · cases List.mem_singleton.mp moved
            exact recent.values key value member
    | set key value =>
      obtain ⟨keys, entries⟩ := set_keys fits key value
      refine ⟨(set_maxSize ..).trans recent.limit, ?_, fun other found member => ?_⟩
      · rw [cacheAfter, keys, recent.limit, recent.moved]
        rfl
      · have moved := entries _ member
        rw [InsertionMap.entries_delete_set] at moved
        rcases List.mem_append.mp moved with kept | last
        · obtain ⟨stored, different⟩ := List.mem_filter.mp kept
          have named : key ≠ other := fun same => of_decide_eq_true different same.symm
          rw [lastSet, if_neg named]
          exact recent.values other found stored
        · cases List.mem_singleton.mp last
          rw [lastSet, if_pos rfl]

end Step

section History

variable (maxSize : Nat) (calls : List (CacheCall Key Value))

theorem lastSet_none {key : Key} (untouched : key ∉ accesses maxSize calls) : lastSet key calls = none := by
  induction calls with
  | nil => rfl
  | cons call earlier ih =>
    cases call with
    | get other =>
      refine ih fun member => untouched ?_
      rw [accesses]
      split
      · exact List.mem_cons_of_mem _ member
      · exact member
    | set other value =>
      rw [accesses, List.mem_cons, not_or] at untouched
      rw [lastSet, if_neg (Ne.symm untouched.1)]
      exact ih untouched.2

theorem mem_keys_iff {key : Key} (accessed : key ∈ accesses maxSize calls) :
    key ∈ (cacheAfter maxSize calls).store.keys ↔ (accessedSince key (accesses maxSize calls)).card < maxSize := by
  rw [← List.mem_reverse, (recent_after maxSize calls).keys,
    List.mem_take_iff_idxOf_lt (Store.mem_recency.mpr accessed), Store.idxOf_recency]

/-- `BoundedLru` is an LRU map: a key is found, with the value it was last set to, exactly when fewer than `maxSize`
    other keys were accessed after it; the size is bounded; and overwriting a key that is there evicts nothing. -/
theorem boundedLru_history :
    (∀ key, ((cacheAfter maxSize calls).get key).1 =
      if (accessedSince key (accesses maxSize calls)).card < maxSize then lastSet key calls else none) ∧
    (cacheAfter maxSize calls).store.size ≤ maxSize ∧
    ∀ key value, ((cacheAfter maxSize calls).get key).1.isSome → ∀ other, other ≠ key →
      (((cacheAfter maxSize calls).set key value).get other).1 = ((cacheAfter maxSize calls).get other).1 := by
  have recent := recent_after maxSize calls
  refine ⟨fun key => ?_, recent.size, fun key value present other different => ?_⟩
  · rw [get_fst]
    by_cases accessed : key ∈ accesses maxSize calls
    · have held := mem_keys_iff maxSize calls accessed
      cases found : (cacheAfter maxSize calls).store.get key with
      | none => rw [if_neg (mt held.mpr (InsertionMap.get_eq_none.mp found))]
      | some value =>
        have member := InsertionMap.get_eq_some.mp found
        rw [if_pos (held.mp (List.mem_map_of_mem member)), recent.values key value member]
    · rw [lastSet_none maxSize calls accessed, ite_self]
      cases found : (cacheAfter maxSize calls).store.get key with
      | none => rfl
      | some value =>
        have last := recent.values key value (InsertionMap.get_eq_some.mp found)
        rw [lastSet_none maxSize calls accessed] at last
        cases last
  · rw [get_fst] at present
    have stored : key ∈ (cacheAfter maxSize calls).store.keys := by
      by_contra absent
      rw [InsertionMap.get_eq_none.mpr absent] at present
      cases present
    rw [get_fst, get_fst, set_present recent.fits stored, get_moved different]

end History

/-! The caches of the key service -/

def cachesAfter (maxSize : Nat) : List (CacheCall Key Value) → Store.BoundedLru maxSize Key Value
  | [] => .empty
  | .get key :: earlier => ((cachesAfter maxSize earlier).get key).2
  | .set key value :: earlier => (cachesAfter maxSize earlier).set key value

theorem set_entries {maxSize : Nat} {lru : Store.BoundedLru maxSize Key Value}
    {cache : GatewayModel.BoundedLru Key Value}
    (limit : cache.maxSize = maxSize) (same : lru.store = cache.store.entries) (key : Key) (value : Value) :
    (lru.set key value).store = (cache.set key value).store.entries := by
  have moved : lru.without key ++ [(key, value)] = ((cache.store.delete key).set key value).entries := by
    rw [InsertionMap.entries_delete_set, ← same]
    rfl
  unfold Store.BoundedLru.set
  split
  · rename_i exceeds
    rw [moved] at exceeds
    simp only [GatewayModel.BoundedLru.set, limit, InsertionMap.size, exceeds, if_true, moved]
    cases first : ((cache.store.delete key).set key value).keys.head? with
    | none =>
      rw [InsertionMap.keys, List.head?_eq_none_iff, List.map_eq_nil_iff] at first
      rw [first] at exceeds
      cases exceeds
    | some oldestKey => rw [InsertionMap.entries_delete_head first]
  · rename_i fits
    rw [moved] at fits
    simp only [GatewayModel.BoundedLru.set, limit, InsertionMap.size, fits, if_false, moved]

/-- The caches in the state of the key service are `BoundedLru`s. -/
theorem cachesAfter_store (maxSize : Nat) (calls : List (CacheCall Key Value)) :
    (cachesAfter maxSize calls).store = (cacheAfter maxSize calls).store.entries := by
  induction calls with
  | nil => rfl
  | cons call earlier ih =>
    cases call with
    | set key value => exact set_entries (recent_after maxSize earlier).limit ih key value
    | get key =>
      have same : (cachesAfter maxSize earlier).find key = (cacheAfter maxSize earlier).store.get key := by
        rw [Store.BoundedLru.find, ih]
        rfl
      cases found : (cacheAfter maxSize earlier).store.get key with
      | none =>
        rw [found] at same
        simp only [cachesAfter, cacheAfter, GatewayModel.BoundedLru.get, found,
          Store.BoundedLru.get_of_find_none same, ih]
      | some value =>
        rw [found] at same
        have moved : (cachesAfter maxSize (.get key :: earlier)).store =
            (cachesAfter maxSize earlier).without key ++ [(key, value)] := by
          show ((cachesAfter maxSize earlier).get key).2.store = _
          unfold Store.BoundedLru.get
          split
          · rename_i missing
            rw [same] at missing
            cases missing
          · rename_i other present
            rw [same] at present
            cases present
            rfl
        simp only [moved, cacheAfter, GatewayModel.BoundedLru.get, found, InsertionMap.entries_delete_set, ← ih]
        rfl

end GatewayProof
