import AppGateway.Async.Modular
import Mathlib.Data.List.Perm.Basic

namespace Async

variable {Op : Type} {Reply : Op → Type} {Thrown State Choice External Call Out Entry : Type}

def Thread.sent (entryOf : Op → Option Entry) (thread : Thread Reply Thrown Call Out) : List Entry :=
  thread.past.filterMap fun event => entryOf event.op

def Thread.acknowledged (entryOf : Op → Option Entry) (thread : Thread Reply Thrown Call Out) : List Entry :=
  thread.past.filterMap fun event =>
    match event.reply with
    | .ok _ => entryOf event.op
    | .error _ => none

namespace System

/-- A part of the state that is only appended to: an operation with an entry appends that, unless it throws. -/
structure Journal (system : System Reply Thrown State Choice External Call Out) (log : State → List Entry)
    (entryOf : Op → Option Entry) : Prop where
  appends : ∀ op choice state reply after, system.exec op choice state = some (reply, after) →
    log after = log state ++ (entryOf op).toList ∨ log after = log state ∧ ∃ thrown, reply = .error thrown
  external : ∀ event state, log (system.external event state) = log state

variable {system : System Reply Thrown State Choice External Call Out} {log : State → List Entry}
  {entryOf : Op → Option Entry}
  {allowed : Config Reply Thrown State Call Out → Label Choice External Call → Prop}
  {start config after : Config Reply Thrown State Call Out}

theorem count_flatMap_set {α β : Type} [DecidableEq β] {xs : List α} {index : Nat} {old new : α} {f : α → List β}
    {extra : List β} (there : xs[index]? = some old) (grown : f new = f old ++ extra) (y : β) :
    ((xs.set index new).flatMap f).count y = (xs.flatMap f).count y + extra.count y := by
  obtain ⟨inside, rfl⟩ := List.getElem?_eq_some_iff.mp there
  have whole : xs = xs.take index ++ xs[index] :: xs.drop (index + 1) := by
    rw [List.getElem_cons_drop, List.take_append_drop]
  rw [List.set_eq_take_append_cons_drop, if_pos inside]
  conv_rhs => rw [whole]
  simp only [List.flatMap_append, List.flatMap_cons, List.count_append, grown]
  omega

theorem Journal.log_next (journal : Journal system log entryOf) {label : Label Choice External Call}
    (moved : system.next config label = some after) : log config.state <+: log after.state := by
  rcases next_cases moved with ⟨call, _, rfl⟩ | ⟨index, choice, thread, advanced, state, _, _, stepped, rfl⟩ |
    ⟨index, thread, _, _, rfl⟩ | ⟨event, _, rfl⟩
  · exact List.prefix_refl _
  · obtain ⟨op, resume, reply, _, _, executed, rfl⟩ := advance_cases stepped
    rcases journal.appends op choice _ reply state executed with same | ⟨same, _⟩
    · rw [same]
      exact List.prefix_append _ _
    · exact ⟨[], (List.append_nil _).trans same.symm⟩
  · exact List.prefix_refl _
  · exact ⟨[], (List.append_nil _).trans (journal.external event config.state).symm⟩

theorem Journal.grows (journal : Journal system log entryOf) (reached : Reaches system allowed start config) :
    log start.state <+: log config.state := by
  induction reached with
  | refl => exact List.prefix_refl _
  | step _ _ moved ih => exact ih.trans (journal.log_next moved)

/-- Every entry is in the journal as often as calls were acknowledged for it, and at most as often as it was sent. -/
def Accounts [DecidableEq Entry] (log : State → List Entry) (entryOf : Op → Option Entry)
    (config : Config Reply Thrown State Call Out) : Prop :=
  ∀ entry, (config.threads.flatMap (Thread.acknowledged entryOf)).count entry ≤ (log config.state).count entry ∧
    (log config.state).count entry ≤ (config.threads.flatMap (Thread.sent entryOf)).count entry

theorem Accounts.of_same [DecidableEq Entry] {threads : List (Thread Reply Thrown Call Out)} {state : State}
    (accounts : Accounts log entryOf config) (same : log state = log config.state)
    (acknowledged : threads.flatMap (Thread.acknowledged entryOf) =
      config.threads.flatMap (Thread.acknowledged entryOf))
    (sent : threads.flatMap (Thread.sent entryOf) = config.threads.flatMap (Thread.sent entryOf)) :
    Accounts log entryOf ({ state, threads } : Config Reply Thrown State Call Out) := by
  intro entry
  simp only [same, acknowledged, sent]
  exact accounts entry

theorem flatMap_set_same {α β : Type} {xs : List α} {index : Nat} {old new : α} {f : α → List β}
    (there : xs[index]? = some old) (same : f new = f old) : (xs.set index new).flatMap f = xs.flatMap f := by
  obtain ⟨inside, rfl⟩ := List.getElem?_eq_some_iff.mp there
  rw [List.flatMap_def, List.flatMap_def, List.map_set, same, ← List.map_set, List.set_getElem_self]

theorem Journal.accounts_next [DecidableEq Entry] (journal : Journal system log entryOf)
    {label : Label Choice External Call} (accounts : Accounts log entryOf config)
    (moved : system.next config label = some after) : Accounts log entryOf after := by
  rcases next_cases moved with ⟨call, _, rfl⟩ | ⟨index, choice, thread, advanced, state, _, there, stepped, rfl⟩ |
    ⟨index, thread, _, there, rfl⟩ | ⟨event, _, rfl⟩
  · refine accounts.of_same rfl ?_ ?_ <;> simp [Thread.start, Thread.acknowledged, Thread.sent]
  · obtain ⟨op, resume, reply, _, _, executed, rfl⟩ := advance_cases stepped
    intro entry
    obtain ⟨lower, upper⟩ := accounts entry
    have sent := @count_flatMap_set _ _ _ _ _ _
      { thread with past := thread.past ++ [⟨op, reply⟩], program := resume reply } (Thread.sent entryOf)
      (entryOf op).toList there (by cases h : entryOf op <;> simp [Thread.sent, h]) entry
    rcases journal.appends op choice _ reply state executed with same | ⟨same, thrown, rfl⟩
    · have acknowledged := fun extra grown => @count_flatMap_set _ _ _ _ _ _
        { thread with past := thread.past ++ [⟨op, reply⟩], program := resume reply } (Thread.acknowledged entryOf)
        extra there grown entry
      rw [same, List.count_append, sent]
      cases reply with
      | ok value =>
        rw [acknowledged (entryOf op).toList (by cases h : entryOf op <;> simp [Thread.acknowledged, h])]
        omega
      | error thrown =>
        rw [acknowledged [] (by simp [Thread.acknowledged]), List.count_nil]
        omega
    · have acknowledged := @count_flatMap_set _ _ _ _ _ _
        { thread with past := thread.past ++ [⟨op, .error thrown⟩], program := resume (.error thrown) }
        (Thread.acknowledged entryOf) [] there (by simp [Thread.acknowledged]) entry
      rw [same, sent, acknowledged, List.count_nil]
      omega
  · exact accounts.of_same rfl (flatMap_set_same there rfl) (flatMap_set_same there rfl)
  · exact accounts.of_same (journal.external event config.state) rfl rfl

theorem Journal.accounts [DecidableEq Entry] (journal : Journal system log entryOf)
    (reached : Reaches system allowed start config) (initial : start.threads = []) (empty : log start.state = []) :
    Accounts log entryOf config := by
  induction reached with
  | refl =>
    intro entry
    simp [initial, empty]
  | step _ _ moved ih => exact journal.accounts_next ih moved

theorem Accounts.mem [DecidableEq Entry] {entry : Entry} (accounts : Accounts log entryOf config)
    (logged : entry ∈ log config.state) : ∃ thread ∈ config.threads, entry ∈ thread.sent entryOf := by
  have positive : 0 < (log config.state).count entry := List.count_pos_iff.mpr logged
  have upper := (accounts entry).2
  exact List.mem_flatMap.mp (List.count_pos_iff.mp (by omega))

theorem Accounts.perm [DecidableEq Entry] (accounts : Accounts log entryOf config)
    (answered : ∀ thread ∈ config.threads, thread.acknowledged entryOf = thread.sent entryOf) :
    (log config.state).Perm (config.threads.flatMap (Thread.sent entryOf)) := by
  rw [List.perm_iff_count]
  intro entry
  obtain ⟨lower, upper⟩ := accounts entry
  rw [List.flatMap_congr answered] at lower
  omega

end System
end Async
