import Mathlib.Logic.Function.Basic

namespace Store

structure Counter where
  count : Nat
  expiresAt : Option Nat
deriving DecidableEq, Repr

/-- A store of counters. A counter whose expiry has passed is as good as dropped. -/
abbrev Counters (Key : Type) := Key → Option Counter

namespace Counters

variable {Key : Type} [DecidableEq Key]

def lookup (store : Counters Key) (now : Nat) (key : Key) : Option Counter :=
  (store key).filter fun counter => counter.expiresAt.all fun expiresAt => now < expiresAt

def read (store : Counters Key) (now : Nat) (key : Key) : Nat :=
  ((store.lookup now key).map (·.count)).getD 0

/-- A counter that is there keeps its expiry, a new one has none. -/
def incr (store : Counters Key) (now : Nat) (key : Key) : Nat × Counters Key :=
  let counter : Counter :=
    match store.lookup now key with
    | some counter => { counter with count := counter.count + 1 }
    | none => ⟨1, none⟩
  (counter.count, Function.update store key (some counter))

/-- Without effect on a key that is not there. -/
def pexpire (store : Counters Key) (now : Nat) (key : Key) (ms : Nat) : Counters Key :=
  match store.lookup now key with
  | some counter => Function.update store key (some { counter with expiresAt := some (now + ms) })
  | none => store

theorem incr_other (store : Counters Key) (now : Nat) {key other : Key} (different : other ≠ key) :
    (store.incr now key).2 other = store other := by
  simp [incr, different]

theorem pexpire_other (store : Counters Key) (now ms : Nat) {key other : Key} (different : other ≠ key) :
    store.pexpire now key ms other = store other := by
  unfold pexpire
  cases store.lookup now key with
  | none => rfl
  | some counter => simp [different]

def held (store : Counters Key) (key : Key) : Nat := ((store key).map (·.count)).getD 0

theorem incr_le (store : Counters Key) (now : Nat) (key : Key) : (store.incr now key).1 ≤ store.held key + 1 := by
  cases found : store.lookup now key with
  | none => simp [incr, found]
  | some counter =>
    have stored : store key = some counter := (Option.filter_eq_some_iff.mp found).1
    simp [incr, held, found, stored]

theorem held_incr (store : Counters Key) (now : Nat) (key : Key) :
    (store.incr now key).2.held key = (store.incr now key).1 := by simp [incr, held]

theorem held_pexpire (store : Counters Key) (now : Nat) (key : Key) (ms : Nat) (read : Key) :
    (store.pexpire now key ms).held read = store.held read := by
  by_cases same : read = key
  · subst same
    cases found : store.lookup now read with
    | none => simp [pexpire, found]
    | some counter =>
      have stored : store read = some counter := (Option.filter_eq_some_iff.mp found).1
      simp [pexpire, held, found, stored]
  · rw [held, pexpire_other store now ms same, held]

theorem incr_congr {store other : Counters Key} (now : Nat) {key : Key} (same : store key = other key) :
    (store.incr now key).1 = (other.incr now key).1 ∧
      ∀ read, store read = other read → (store.incr now key).2 read = (other.incr now key).2 read := by
  have found : store.lookup now key = other.lookup now key := by rw [lookup, lookup, same]
  refine ⟨by simp only [incr, found], fun read agree => ?_⟩
  by_cases own : read = key
  · subst own
    simp [incr, found]
  · rw [incr_other store now own, incr_other other now own, agree]

theorem pexpire_congr {store other : Counters Key} (now ms : Nat) {key read : Key} (same : store key = other key)
    (agree : store read = other read) : store.pexpire now key ms read = other.pexpire now key ms read := by
  have found : store.lookup now key = other.lookup now key := by rw [lookup, lookup, same]
  by_cases own : read = key
  · subst own
    simp only [pexpire, found]
    cases other.lookup now read with
    | none => exact agree
    | some counter => simp
  · rw [pexpire_other store now ms own, pexpire_other other now ms own, agree]

omit [DecidableEq Key]

/-- The counter of a key holds this count, zero when there is none, and is not dropped before a bound. -/
inductive HoldsUntil (store : Counters Key) (key : Key) (bound : Nat) : Nat → Prop where
  | absent (missing : store key = none) : HoldsUntil store key bound 0
  | counted {count : Nat} {expiresAt : Option Nat} (stored : store key = some ⟨count, expiresAt⟩)
      (positive : 0 < count) (late : ∀ instant, expiresAt = some instant → bound ≤ instant) :
      HoldsUntil store key bound count

section HoldsUntil

variable {store : Counters Key} {key : Key} {count bound now : Nat}

theorem HoldsUntil.congr {other : Counters Key} (holds : store.HoldsUntil key bound count)
    (same : other key = store key) : other.HoldsUntil key bound count := by
  cases holds with
  | absent missing => exact .absent (same.trans missing)
  | counted stored positive late => exact .counted (same.trans stored) positive late

theorem lookup_live {expiresAt : Option Nat} (stored : store key = some ⟨count, expiresAt⟩)
    (late : ∀ instant, expiresAt = some instant → bound ≤ instant) (early : now < bound) :
    store.lookup now key = some ⟨count, expiresAt⟩ := by
  cases expiresAt with
  | none => simp [lookup, stored]
  | some instant =>
    have live := late instant rfl
    have before : now < instant := by omega
    simp [lookup, stored, before]

theorem HoldsUntil.read (holds : store.HoldsUntil key bound count) (early : now < bound) :
    store.read now key = count := by
  cases holds with
  | absent missing => simp [Counters.read, lookup, missing]
  | counted stored positive late => simp [Counters.read, lookup_live stored late early]

theorem HoldsUntil.incr [DecidableEq Key] (holds : store.HoldsUntil key bound count) (early : now < bound) :
    (store.incr now key).1 = count + 1 ∧ (store.incr now key).2.HoldsUntil key bound (count + 1) := by
  cases holds with
  | absent missing =>
    have free : store.lookup now key = none := by simp [lookup, missing]
    constructor
    · simp [Counters.incr, free]
    · have stored : (store.incr now key).2 key = some ⟨0 + 1, none⟩ := by simp [Counters.incr, free]
      exact .counted stored (by omega) fun _ same => by cases same
  | @counted _ expiresAt stored positive late =>
    have found := lookup_live stored late early
    constructor
    · simp [Counters.incr, found]
    · have stored : (store.incr now key).2 key = some ⟨count + 1, expiresAt⟩ := by simp [Counters.incr, found]
      exact .counted stored (by omega) late

theorem HoldsUntil.pexpire [DecidableEq Key] {ms : Nat} (holds : store.HoldsUntil key bound count)
    (late : bound ≤ now + ms) : (store.pexpire now key ms).HoldsUntil key bound count := by
  unfold Counters.pexpire
  cases found : store.lookup now key with
  | none => exact holds
  | some counter =>
    have live : store key = some counter := (Option.filter_eq_some_iff.mp found).1
    cases holds with
    | absent missing =>
      rw [missing] at live
      cases live
    | counted stored positive _ =>
      obtain rfl := Option.some.inj (stored.symm.trans live)
      have expiring : Function.update store key (some ⟨count, some (now + ms)⟩) key =
          some ⟨count, some (now + ms)⟩ := by simp
      refine .counted expiring positive fun instant same => ?_
      obtain rfl := Option.some.inj same
      exact late

end HoldsUntil

end Counters
end Store
