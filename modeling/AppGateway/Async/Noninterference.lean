import AppGateway.Async.System

namespace Async

/-! Positions among the kept elements of a list -/

section Kept

variable {α : Type} {keeps : α → Bool} {xs : List α} {index : Nat} {x y : α}

def keptBefore (keeps : α → Bool) (xs : List α) (index : Nat) : Nat := (xs.take index).countP keeps

theorem keptBefore_map {β : Type} (f : β → α) (ys : List β) (index : Nat) :
    keptBefore keeps (ys.map f) index = keptBefore (keeps ∘ f) ys index := by
  rw [keptBefore, keptBefore, ← List.map_take, List.countP_map]

theorem take_keptBefore (keeps : α → Bool) (xs : List α) (index : Nat) :
    (xs.filter keeps).take (keptBefore keeps xs index) = (xs.take index).filter keeps := by
  have split := congrArg (List.filter keeps) (List.take_append_drop index xs)
  rw [List.filter_append] at split
  rw [← split, keptBefore, List.countP_eq_length_filter, List.take_left']
  rfl

theorem keptBefore_twice {wider : α → Bool} (implies : ∀ x, keeps x = true → wider x = true) (xs : List α)
    (index : Nat) : keptBefore keeps (xs.filter wider) (keptBefore wider xs index) = keptBefore keeps xs index := by
  rw [keptBefore, take_keptBefore, List.countP_filter, keptBefore]
  congr 1
  funext x
  cases kept : keeps x with
  | false => rfl
  | true => simp [implies x kept]

theorem filter_around (found : xs[index]? = some x) (y : α) :
    (xs.set index y).filter keeps =
      (xs.take index).filter keeps ++ [y].filter keeps ++ (xs.drop (index + 1)).filter keeps := by
  have inside := (List.getElem?_eq_some_iff.mp found).1
  rw [List.set_eq_take_append_cons_drop, if_pos inside, List.append_assoc, ← List.filter_append,
    ← List.filter_append]
  rfl

theorem filter_at (found : xs[index]? = some x) :
    xs.filter keeps = (xs.take index).filter keeps ++ [x].filter keeps ++ (xs.drop (index + 1)).filter keeps := by
  obtain ⟨inside, rfl⟩ := List.getElem?_eq_some_iff.mp found
  have same := @filter_around α keeps xs index _ found xs[index]
  rwa [List.set_getElem_self] at same

theorem getElem?_keptBefore (found : xs[index]? = some x) (kept : keeps x = true) :
    (xs.filter keeps)[keptBefore keeps xs index]? = some x := by
  rw [filter_at found, keptBefore, List.countP_eq_length_filter, List.append_assoc]
  simp [kept]

theorem filter_set_kept (found : xs[index]? = some x) (kept : keeps x = true) (still : keeps y = true) :
    (xs.set index y).filter keeps = (xs.filter keeps).set (keptBefore keeps xs index) y := by
  rw [filter_around found y, filter_at found, keptBefore, List.countP_eq_length_filter, List.append_assoc,
    List.append_assoc, List.set_append_right _ _ (Nat.le_refl _)]
  simp [kept, still]

theorem filter_set_dropped (found : xs[index]? = some x) (dropped : keeps x = false) (still : keeps y = false) :
    (xs.set index y).filter keeps = xs.filter keeps := by
  rw [filter_around found y, filter_at found]
  simp [dropped, still]

end Kept

variable {Op : Type} {Reply : Op → Type} {Thrown State Choice External Call Out : Type}

def Label.calls : Label Choice External Call → List Call
  | .call made => [made]
  | _ => []

def Label.purge (keeps : Call → Bool) (calls : List Call) :
    Label Choice External Call → Option (Label Choice External Call)
  | .call made => if keeps made then some (.call made) else none
  | .step index choice =>
    if calls[index]?.any keeps then some (.step (keptBefore keeps calls index) choice) else none
  | .crash index => if calls[index]?.any keeps then some (.crash (keptBefore keeps calls index)) else none
  | .external event => some (.external event)

def purge (keeps : Call → Bool) : List Call → List (Label Choice External Call) → List (Label Choice External Call)
  | _, [] => []
  | calls, label :: labels => (label.purge keeps calls).toList ++ purge keeps (calls ++ label.calls) labels

def Config.calls (config : Config Reply Thrown State Call Out) : List Call := config.threads.map (·.call)

def Config.threadsOf (keeps : Call → Bool) (config : Config Reply Thrown State Call Out) :
    List (Thread Reply Thrown Call Out) :=
  config.threads.filter fun thread => keeps thread.call

namespace System

/-- Calls that are not kept do nothing that those that are kept can see: up to what these see, the former leave the
    state as it is, and the latter take the same steps in states that agree. -/
structure Unwinding (system : System Reply Thrown State Choice External Call Out) (keeps : Call → Bool)
    (touches : Call → Op → Prop) (agrees : State → State → Prop) : Prop where
  uses : ∀ call, (system.code call).Uses (touches call)
  refl : ∀ state, agrees state state
  kept : ∀ call op choice first second reply after, keeps call = true → touches call op → agrees first second →
    system.exec op choice first = some (reply, after) →
    ∃ after', system.exec op choice second = some (reply, after') ∧ agrees after after'
  dropped : ∀ call op choice first second reply after, keeps call = false → touches call op → agrees first second →
    system.exec op choice first = some (reply, after) → agrees after second
  external : ∀ event first second, agrees first second →
    agrees (system.external event first) (system.external event second)

structure Beside (keeps : Call → Bool) (touches : Call → Op → Prop) (agrees : State → State → Prop)
    (config quiet : Config Reply Thrown State Call Out) : Prop where
  threads : quiet.threads = config.threadsOf keeps
  state : agrees config.state quiet.state
  uses : ∀ thread ∈ config.threads, thread.program.Uses (touches thread.call)

section Runs

variable {system : System Reply Thrown State Choice External Call Out} {keeps : Call → Bool}
  {touches : Call → Op → Prop} {agrees : State → State → Prop}
  {config quiet after : Config Reply Thrown State Call Out}

theorem run_append {labels more : List (Label Choice External Call)} {middle : Config Reply Thrown State Call Out}
    (ran : system.run labels config = some middle) : system.run (labels ++ more) config = system.run more middle := by
  induction labels generalizing config with
  | nil => cases ran; rfl
  | cons label labels ih =>
    simp only [run, List.cons_append] at ran ⊢
    split at ran
    · rename_i next moved
      exact ih ran
    · cases ran

theorem set_call {threads : List (Thread Reply Thrown Call Out)} {index : Nat}
    {thread moved : Thread Reply Thrown Call Out}
    (there : threads[index]? = some thread) (same : moved.call = thread.call) :
    (threads.map (·.call)).set index moved.call = threads.map (·.call) := by
  obtain ⟨inside, rfl⟩ := List.getElem?_eq_some_iff.mp there
  rw [same, ← List.map_set, List.set_getElem_self]

theorem next_calls {label : Label Choice External Call} (moved : system.next config label = some after) :
    after.calls = config.calls ++ label.calls := by
  rcases next_cases moved with ⟨call, rfl, rfl⟩ | ⟨index, choice, thread, advanced, state, rfl, there, stepped, rfl⟩ |
    ⟨index, thread, rfl, there, rfl⟩ | ⟨event, rfl, rfl⟩
  · simp [Config.calls, Label.calls, Thread.start]
  · obtain ⟨op, resume, reply, _, _, _, rfl⟩ := advance_cases stepped
    simpa [Config.calls, Label.calls] using set_call there rfl
  · simpa [Config.calls, Label.calls] using set_call there rfl
  · simp [Config.calls, Label.calls]

theorem run_single (label : Label Choice External Call) (config : Config Reply Thrown State Call Out) :
    system.run [label] config = system.next config label := by
  simp only [run]
  cases system.next config label with
  | none => rfl
  | some after => rfl

theorem kept_at {index : Nat} {thread : Thread Reply Thrown Call Out} (there : config.threads[index]? = some thread) :
    config.calls[index]?.any keeps = keeps thread.call := by
  simp [Config.calls, there]

section Beside

variable {index : Nat} {thread moved : Thread Reply Thrown Call Out} {state state' : State}

theorem Beside.there (beside : Beside keeps touches agrees config quiet)
    (there : config.threads[index]? = some thread) (kept : keeps thread.call = true) :
    quiet.threads[keptBefore keeps config.calls index]? = some thread := by
  rw [beside.threads, Config.threadsOf, Config.calls, keptBefore_map]
  exact getElem?_keptBefore there kept

theorem Beside.uses_set (beside : Beside keeps touches agrees config quiet)
    (own : moved.program.Uses (touches moved.call)) :
    ∀ thread ∈ config.threads.set index moved, thread.program.Uses (touches thread.call) := by
  intro thread member
  rcases List.mem_or_eq_of_mem_set member with earlier | rfl
  · exact beside.uses thread earlier
  · exact own

theorem Beside.set_kept (beside : Beside keeps touches agrees config quiet)
    (there : config.threads[index]? = some thread) (same : moved.call = thread.call) (kept : keeps thread.call = true)
    (own : moved.program.Uses (touches moved.call)) (agree : agrees state state') :
    Beside keeps touches agrees { state, threads := config.threads.set index moved }
      { state := state', threads := quiet.threads.set (keptBefore keeps config.calls index) moved } where
  threads := by
    rw [beside.threads, Config.threadsOf, Config.threadsOf, Config.calls, keptBefore_map]
    exact (filter_set_kept there kept (by rw [same]; exact kept)).symm
  state := agree
  uses := beside.uses_set own

theorem Beside.set_dropped (beside : Beside keeps touches agrees config quiet)
    (there : config.threads[index]? = some thread) (same : moved.call = thread.call)
    (dropped : keeps thread.call = false)
    (own : moved.program.Uses (touches moved.call)) (agree : agrees state quiet.state) :
    Beside keeps touches agrees { state, threads := config.threads.set index moved } quiet where
  threads := by
    rw [beside.threads, Config.threadsOf, Config.threadsOf]
    exact (filter_set_dropped there dropped (by rw [same]; exact dropped)).symm
  state := agree
  uses := beside.uses_set own

end Beside

theorem Beside.call (unwinding : Unwinding system keeps touches agrees)
    (beside : Beside keeps touches agrees config quiet) (call : Call) :
    ∃ quiet', system.run ((Label.call call).purge keeps config.calls).toList quiet = some quiet' ∧
      Beside keeps touches agrees { config with threads := config.threads ++ [Thread.start system call] } quiet' := by
  have uses : ∀ thread ∈ config.threads ++ [Thread.start system call], thread.program.Uses (touches thread.call) := by
    intro thread member
    rcases List.mem_append.mp member with earlier | new
    · exact beside.uses thread earlier
    · rw [List.mem_singleton.mp new]
      exact unwinding.uses call
  have threads := beside.threads
  rw [Config.threadsOf] at threads
  by_cases kept : keeps call = true
  · refine ⟨{ quiet with threads := quiet.threads ++ [Thread.start system call] }, ?_, ?_, beside.state, uses⟩
    · rw [Label.purge, if_pos kept]
      exact run_single _ _
    · simp [Config.threadsOf, threads, Thread.start, kept]
  · refine ⟨quiet, ?_, ?_, beside.state, uses⟩
    · rw [Label.purge, if_neg kept]
      rfl
    · simp [Config.threadsOf, threads, Thread.start, kept]

theorem Beside.next (unwinding : Unwinding system keeps touches agrees)
    (beside : Beside keeps touches agrees config quiet) {label : Label Choice External Call}
    (moved : system.next config label = some after) :
    ∃ quiet', system.run (label.purge keeps config.calls).toList quiet = some quiet' ∧
      Beside keeps touches agrees after quiet' := by
  rcases next_cases moved with ⟨call, rfl, rfl⟩ | ⟨index, choice, thread, advanced, state, rfl, there, stepped, rfl⟩ |
    ⟨index, thread, rfl, there, rfl⟩ | ⟨event, rfl, rfl⟩
  · exact beside.call unwinding call
  · obtain ⟨op, resume, reply, alive, program, executed, rfl⟩ := advance_cases stepped
    have own := beside.uses thread (List.mem_of_getElem? there)
    rw [program] at own
    rw [Label.purge, kept_at there]
    cases kept : keeps thread.call with
    | true =>
      obtain ⟨state', performed, agree⟩ :=
        unwinding.kept thread.call op choice _ _ reply state kept own.1 beside.state executed
      refine ⟨_, ?_, beside.set_kept there rfl kept (own.2 reply) agree⟩
      rw [if_pos rfl, Option.toList_some, run_single]
      simp only [System.next, beside.there there kept, advance, alive, program, performed]
    | false =>
      -- The run beside it does not move.
      refine ⟨quiet, rfl, beside.set_dropped there rfl kept (own.2 reply) ?_⟩
      exact unwinding.dropped thread.call op choice _ _ reply state kept own.1 beside.state executed
  · have own := beside.uses thread (List.mem_of_getElem? there)
    rw [Label.purge, kept_at there]
    cases kept : keeps thread.call with
    | true =>
      refine ⟨_, ?_, beside.set_kept there rfl kept own beside.state⟩
      rw [if_pos rfl, Option.toList_some, run_single]
      simp only [System.next, beside.there there kept]
    | false => exact ⟨quiet, rfl, beside.set_dropped there rfl kept own beside.state⟩
  · exact ⟨_, rfl, beside.threads, unwinding.external event _ _ beside.state, beside.uses⟩

theorem Beside.run (unwinding : Unwinding system keeps touches agrees)
    (beside : Beside keeps touches agrees config quiet) {labels : List (Label Choice External Call)}
    (ran : system.run labels config = some after) :
    ∃ quiet', system.run (purge keeps config.calls labels) quiet = some quiet' ∧
      Beside keeps touches agrees after quiet' := by
  induction labels generalizing config quiet with
  | nil =>
    cases ran
    exact ⟨quiet, rfl, beside⟩
  | cons label labels ih =>
    simp only [System.run] at ran
    split at ran
    · rename_i middle moved
      obtain ⟨quiet', first, beside'⟩ := beside.next unwinding moved
      obtain ⟨last, rest, ends⟩ := ih beside' ran
      refine ⟨last, ?_, ends⟩
      rw [purge, run_append first, ← next_calls moved]
      exact rest
    · cases ran

/-- Without the calls that are not kept the schedule is a run too, and the kept ones do the same in it. -/
theorem Unwinding.noninterference (unwinding : Unwinding system keeps touches agrees) (initial : config.threads = [])
    {labels : List (Label Choice External Call)} (ran : system.run labels config = some after) :
    ∃ quiet, system.run (purge keeps [] labels) config = some quiet ∧ quiet.threads = after.threadsOf keeps := by
  have beside : Beside keeps touches agrees config config :=
    ⟨by simp [Config.threadsOf, initial], unwinding.refl _, by simp [initial]⟩
  have none_yet : config.calls = [] := by simp [Config.calls, initial]
  obtain ⟨quiet, rest, ends⟩ := beside.run unwinding ran
  rw [none_yet] at rest
  exact ⟨quiet, rest, ends.threads⟩

end Runs
/-! Schedules with the same calls of one kind -/

section Schedules

variable {keeps wider : Call → Bool}

theorem purge_calls (keeps : Call → Bool) (calls : List Call) (label : Label Choice External Call) :
    (label.purge keeps calls).toList.flatMap Label.calls = label.calls.filter keeps := by
  cases label with
  | call made => by_cases kept : keeps made <;> simp [Label.purge, Label.calls, kept]
  | step index choice => by_cases kept : calls[index]?.any keeps <;> simp [Label.purge, Label.calls, kept]
  | crash index => by_cases kept : calls[index]?.any keeps <;> simp [Label.purge, Label.calls, kept]
  | external event => rfl

theorem any_twice (implies : ∀ call, keeps call = true → wider call = true) {calls : List Call} {index : Nat} :
    calls[index]?.any keeps =
      (calls[index]?.any wider && (calls.filter wider)[keptBefore wider calls index]?.any keeps) := by
  cases found : calls[index]? with
  | none => rfl
  | some call =>
    by_cases kept : wider call = true
    · rw [getElem?_keptBefore found kept]
      simp [kept]
    · have dropped : keeps call ≠ true := fun same => kept (implies call same)
      simp [kept, dropped]

theorem purge_label_twice (implies : ∀ call, keeps call = true → wider call = true) (calls : List Call)
    (label : Label Choice External Call) :
    (label.purge wider calls).bind (Label.purge keeps (calls.filter wider)) = label.purge keeps calls := by
  cases label with
  | call made =>
    by_cases kept : wider made = true
    · simp [Label.purge, kept]
    · have dropped : keeps made ≠ true := fun same => kept (implies made same)
      simp [Label.purge, kept, dropped]
  | step index choice =>
    rw [Label.purge, Label.purge, any_twice implies]
    by_cases kept : calls[index]?.any wider = true
    · simp [Label.purge, kept, keptBefore_twice implies]
    · simp [kept]
  | crash index =>
    rw [Label.purge, Label.purge, any_twice implies]
    by_cases kept : calls[index]?.any wider = true
    · simp [Label.purge, kept, keptBefore_twice implies]
    · simp [kept]
  | external event => rfl

theorem purge_twice (implies : ∀ call, keeps call = true → wider call = true) (calls : List Call)
    (labels : List (Label Choice External Call)) :
    purge keeps (calls.filter wider) (purge wider calls labels) = purge keeps calls labels := by
  induction labels generalizing calls with
  | nil => rfl
  | cons label labels ih =>
    have rest := ih (calls ++ label.calls)
    have once := purge_label_twice implies calls label
    have made := purge_calls wider calls label
    rw [List.filter_append, ← made] at rest
    simp only [purge]
    cases left : label.purge wider calls with
    | none =>
      rw [left] at once rest
      simp only [Option.toList_none, List.flatMap_nil, List.append_nil] at rest
      rw [← once, ← rest]
      rfl
    | some first =>
      rw [left] at once rest
      simp only [Option.toList_some, List.flatMap_singleton] at rest
      rw [← once, ← rest]
      rfl

theorem purge_narrows (implies : ∀ call, keeps call = true → wider call = true)
    {labels labels' : List (Label Choice External Call)} (same : purge wider [] labels = purge wider [] labels') :
    purge keeps [] labels = purge keeps [] labels' := by
  rw [← purge_twice implies [] labels, ← purge_twice implies [] labels', same]

end Schedules

end System
end Async
