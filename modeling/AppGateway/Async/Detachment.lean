import AppGateway.Async.Noninterference

namespace Async

variable {Op : Type} {Reply : Op → Type} {Thrown State Choice External Call Out α β : Type}

def Program.Confined (possible : (op : Op) → Except Thrown (Reply op) → Prop) (allows : Op → Prop)
    (ends : Except Thrown α → Prop) : Program Reply Thrown α → Prop
  | .done outcome => ends outcome
  | .await op resume => allows op ∧ ∀ reply, possible op reply → (resume reply).Confined possible allows ends

namespace Program

variable {possible : (op : Op) → Except Thrown (Reply op) → Prop} {allows : Op → Prop}
  {ends : Except Thrown α → Prop} {program : Program Reply Thrown α}

theorem Uses.confined (uses : program.Uses allows) (ended : ∀ outcome, ends outcome) :
    program.Confined possible allows ends := by
  induction program with
  | done outcome => exact ended outcome
  | await op resume ih => exact ⟨uses.1, fun reply _ => ih reply (uses.2 reply)⟩

theorem Confined.bind {next : α → Program Reply Thrown β} {final : Except Thrown β → Prop}
    (confined : program.Confined possible allows ends) (rejected : ∀ thrown, final (.error thrown))
    (resolved : ∀ value, ends (.ok value) → (next value).Confined possible allows final) :
    (program.bind next).Confined possible allows final := by
  induction program with
  | done outcome =>
    cases outcome with
    | ok value => exact resolved value confined
    | error thrown => exact rejected thrown
  | await op resume ih => exact ⟨confined.1, fun reply able => ih reply (confined.2 reply able)⟩

end Program

namespace System

/-- Calls that are not kept keep to an assertion about themselves, and as long as it holds they change nothing that the
    kept ones can see. In an unwinding the assertion is on the operations alone, here it may rest on the replies. -/
structure Detached (system : System Reply Thrown State Choice External Call Out) (keeps : Call → Bool)
    (valid : State → Prop) (owns : Thread Reply Thrown Call Out → Prop) (agrees : State → State → Prop) : Prop where
  refl : ∀ state, agrees state state
  step : ∀ op choice state reply after, valid state → system.exec op choice state = some (reply, after) → valid after
  call : ∀ made, keeps made = false → owns (Thread.start system made)
  crash : ∀ thread, owns thread → owns { thread with alive := false }
  kept : ∀ op choice first second reply after, agrees first second →
    system.exec op choice first = some (reply, after) →
    ∃ after', system.exec op choice second = some (reply, after') ∧ agrees after after'
  dropped : ∀ choice state second thread moved later, keeps thread.call = false → owns thread → valid state →
    agrees state second → system.advance choice state thread = some (moved, later) → owns moved ∧ agrees later second
  external : ∀ event first second, valid first → agrees first second →
    valid (system.external event first) ∧ agrees (system.external event first) (system.external event second)

structure Apart (keeps : Call → Bool) (valid : State → Prop) (owns : Thread Reply Thrown Call Out → Prop)
    (agrees : State → State → Prop) (config quiet : Config Reply Thrown State Call Out) : Prop where
  beside : Beside keeps (fun _ _ => True) agrees config quiet
  good : valid config.state
  each : ∀ thread ∈ config.threads, keeps thread.call = false → owns thread

variable {system : System Reply Thrown State Choice External Call Out} {keeps : Call → Bool} {valid : State → Prop}
  {owns : Thread Reply Thrown Call Out → Prop} {agrees : State → State → Prop}
  {config quiet after : Config Reply Thrown State Call Out}

theorem uses_everything (program : Program Reply Thrown α) : program.Uses fun _ => True := by
  induction program with
  | done outcome => trivial
  | await op resume ih => exact ⟨trivial, ih⟩

theorem Apart.call (apart : Apart keeps valid owns agrees config quiet)
    (detached : Detached system keeps valid owns agrees)
    (made : Call) :
    ∃ quiet', system.run ((Label.call made).purge keeps config.calls).toList quiet = some quiet' ∧
      Apart keeps valid owns agrees { config with threads := config.threads ++ [Thread.start system made] } quiet' := by
  have threads := apart.beside.threads
  rw [Config.threadsOf] at threads
  have each : ∀ thread ∈ config.threads ++ [Thread.start system made], keeps thread.call = false → owns thread := by
    intro thread member dropped
    rcases List.mem_append.mp member with earlier | new
    · exact apart.each thread earlier dropped
    · rw [List.mem_singleton.mp new] at dropped ⊢
      exact detached.call made dropped
  by_cases kept : keeps made = true
  · refine ⟨{ quiet with threads := quiet.threads ++ [Thread.start system made] }, ?_, ?_, apart.good, each⟩
    · rw [Label.purge, if_pos kept]
      exact run_single _ _
    · exact ⟨by simp [Config.threadsOf, threads, Thread.start, kept], apart.beside.state,
        fun _ _ => uses_everything _⟩
  · refine ⟨quiet, ?_, ?_, apart.good, each⟩
    · rw [Label.purge, if_neg kept]
      rfl
    · exact ⟨by simp [Config.threadsOf, threads, Thread.start, kept], apart.beside.state, fun _ _ => uses_everything _⟩

theorem Apart.set (apart : Apart keeps valid owns agrees config quiet) {index : Nat}
    {thread moved : Thread Reply Thrown Call Out} (same : moved.call = thread.call)
    (own : keeps thread.call = false → owns moved) :
    ∀ other ∈ config.threads.set index moved, keeps other.call = false → owns other := by
  intro other member dropped
  rcases List.mem_or_eq_of_mem_set member with earlier | rfl
  · exact apart.each other earlier dropped
  · rw [same] at dropped
    exact own dropped

theorem Apart.next (apart : Apart keeps valid owns agrees config quiet)
    (detached : Detached system keeps valid owns agrees)
    {label : Label Choice External Call} (moved : system.next config label = some after) :
    ∃ quiet', system.run (label.purge keeps config.calls).toList quiet = some quiet' ∧
      Apart keeps valid owns agrees after quiet' := by
  rcases next_cases moved with ⟨made, rfl, rfl⟩ | ⟨index, choice, thread, advanced, state, rfl, there, stepped, rfl⟩ |
    ⟨index, thread, rfl, there, rfl⟩ | ⟨event, rfl, rfl⟩
  · exact apart.call detached made
  · obtain ⟨op, resume, reply, alive, program, executed, rfl⟩ := advance_cases stepped
    have good := detached.step op choice _ reply state apart.good executed
    rw [Label.purge, kept_at there]
    cases kept : keeps thread.call with
    | true =>
      obtain ⟨state', performed, agree⟩ := detached.kept op choice _ _ reply state apart.beside.state executed
      refine ⟨_, ?_, apart.beside.set_kept there rfl kept (uses_everything _) agree, good, apart.set rfl ?_⟩
      · rw [if_pos rfl, Option.toList_some, run_single]
        simp only [System.next, apart.beside.there there kept, advance, alive, program, performed]
      · rw [kept]
        intro dropped
        cases dropped
    | false =>
      obtain ⟨own, agree⟩ := detached.dropped choice _ quiet.state thread _ state kept
        (apart.each thread (List.mem_of_getElem? there) kept) apart.good apart.beside.state stepped
      exact ⟨quiet, rfl, apart.beside.set_dropped there rfl kept (uses_everything _) agree, good,
        apart.set rfl fun _ => own⟩
  · rw [Label.purge, kept_at there]
    cases kept : keeps thread.call with
    | true =>
      refine ⟨_, ?_, apart.beside.set_kept there rfl kept (uses_everything _) apart.beside.state, apart.good,
        apart.set rfl ?_⟩
      · rw [if_pos rfl, Option.toList_some, run_single]
        simp only [System.next, apart.beside.there there kept]
      · rw [kept]
        intro dropped
        cases dropped
    | false =>
      refine ⟨quiet, rfl, apart.beside.set_dropped there rfl kept (uses_everything _) apart.beside.state, apart.good,
        apart.set rfl fun dropped => ?_⟩
      exact detached.crash thread (apart.each thread (List.mem_of_getElem? there) dropped)
  · obtain ⟨good, agree⟩ := detached.external event _ _ apart.good apart.beside.state
    exact ⟨_, rfl, ⟨apart.beside.threads, agree, apart.beside.uses⟩, good, apart.each⟩

theorem Apart.run (apart : Apart keeps valid owns agrees config quiet)
    (detached : Detached system keeps valid owns agrees)
    {labels : List (Label Choice External Call)} (ran : system.run labels config = some after) :
    ∃ quiet', system.run (purge keeps config.calls labels) quiet = some quiet' ∧
      Apart keeps valid owns agrees after quiet' := by
  induction labels generalizing config quiet with
  | nil =>
    cases ran
    exact ⟨quiet, rfl, apart⟩
  | cons label labels ih =>
    simp only [System.run] at ran
    split at ran
    · rename_i middle moved
      obtain ⟨quiet', first, apart'⟩ := apart.next detached moved
      obtain ⟨last, rest, ends⟩ := ih apart' ran
      refine ⟨last, ?_, ends⟩
      rw [purge, run_append first, ← next_calls moved]
      exact rest
    · cases ran

/-- Without the detached calls the schedule is a run too, and the kept ones do the same in it. -/
theorem Detached.noninterference (detached : Detached system keeps valid owns agrees) (initial : config.threads = [])
    (good : valid config.state) {labels : List (Label Choice External Call)}
    (ran : system.run labels config = some after) :
    ∃ quiet, system.run (purge keeps [] labels) config = some quiet ∧ Apart keeps valid owns agrees after quiet := by
  have beside : Beside keeps (fun _ _ => True) agrees config config :=
    ⟨by simp [Config.threadsOf, initial], detached.refl _, by simp [initial]⟩
  have apart : Apart keeps valid owns agrees config config := ⟨beside, good, by simp [initial]⟩
  have none_yet : config.calls = [] := by simp [Config.calls, initial]
  obtain ⟨quiet, rest, ends⟩ := apart.run detached ran
  rw [none_yet] at rest
  exact ⟨quiet, rest, ends⟩

end System
end Async
