import AppGateway.Async.Trace

namespace Async

/-- Async functions over one shared state. `exec` runs one operation atomically, with the outcome of
    everything the program does not decide in `Choice`; `external` is what others do to the state. -/
structure System {Op : Type} (Reply : Op → Type) (Thrown State Choice External Call Out : Type) where
  exec : (op : Op) → Choice → State → Option (Except Thrown (Reply op) × State)
  external : External → State → State
  code : Call → Program Reply Thrown Out

structure Thread {Op : Type} (Reply : Op → Type) (Thrown Call Out : Type) where
  call : Call
  past : List (Event Reply Thrown)
  program : Program Reply Thrown Out
  alive : Bool

structure Config {Op : Type} (Reply : Op → Type) (Thrown State Call Out : Type) where
  state : State
  threads : List (Thread Reply Thrown Call Out)

inductive Label (Choice External Call : Type) where
  | call (call : Call)
  | step (index : Nat) (choice : Choice)
  | crash (index : Nat)
  | external (event : External)

variable {Op : Type} {Reply : Op → Type} {Thrown State Choice External Call Out : Type}

def Program.running : Program Reply Thrown Out → Bool
  | .done _ => false
  | .await _ _ => true

def Program.pending : Program Reply Thrown Out → Option Op
  | .done _ => none
  | .await op _ => some op

def Program.outcome : Program Reply Thrown Out → Option (Except Thrown Out)
  | .done outcome => some outcome
  | .await _ _ => none

theorem Program.outcome_eq_some {program : Program Reply Thrown Out} {outcome : Except Thrown Out} :
    program.outcome = some outcome ↔ program = .done outcome := by
  cases program <;> simp [Program.outcome]

def Thread.running (thread : Thread Reply Thrown Call Out) : Bool :=
  thread.alive && thread.program.running

def Thread.answered (thread : Thread Reply Thrown Call Out) (outcome : Except Thrown Out) : Prop :=
  thread.program = .done outcome

def Config.results (config : Config Reply Thrown State Call Out) : List (Call × Option (Except Thrown Out)) :=
  config.threads.map fun thread => (thread.call, thread.program.outcome)

theorem Config.of_results {config : Config Reply Thrown State Call Out} {call : Call} {outcome : Except Thrown Out}
    {index : Nat} (listed : config.results[index]? = some (call, some outcome)) :
    ∃ thread, config.threads[index]? = some thread ∧ thread.call = call ∧ thread.answered outcome := by
  rw [Config.results, List.getElem?_map] at listed
  obtain ⟨thread, found, same⟩ := Option.map_eq_some_iff.mp listed
  obtain ⟨called, ended⟩ := Prod.mk.inj same
  exact ⟨thread, found, called, Program.outcome_eq_some.mp ended⟩

def Thread.start (system : System Reply Thrown State Choice External Call Out) (call : Call) :
    Thread Reply Thrown Call Out :=
  { call, past := [], program := system.code call, alive := true }

namespace System

variable (system : System Reply Thrown State Choice External Call Out)

def advance (choice : Choice) (state : State) (thread : Thread Reply Thrown Call Out) :
    Option (Thread Reply Thrown Call Out × State) :=
  match thread.alive, thread.program with
  | true, .await op resume =>
    match system.exec op choice state with
    | some (reply, after) =>
      some ({ thread with past := thread.past ++ [⟨op, reply⟩], program := resume reply }, after)
    | none => none
  | _, _ => none

def next (config : Config Reply Thrown State Call Out) :
    Label Choice External Call → Option (Config Reply Thrown State Call Out)
  | .call call => some { config with threads := config.threads ++ [Thread.start system call] }
  | .step index choice =>
    match config.threads[index]? with
    | some thread =>
      match system.advance choice config.state thread with
      | some (moved, state) => some { state, threads := config.threads.set index moved }
      | none => none
    | none => none
  | .crash index =>
    match config.threads[index]? with
    | some thread =>
      some { config with threads := config.threads.set index { thread with alive := false } }
    | none => none
  | .external event => some { config with state := system.external event config.state }

def run : List (Label Choice External Call) → Config Reply Thrown State Call Out →
    Option (Config Reply Thrown State Call Out)
  | [], config => some config
  | label :: labels, config =>
    match system.next config label with
    | some after => run labels after
    | none => none

def runChecked (permit : Config Reply Thrown State Call Out → Label Choice External Call → Bool) :
    List (Label Choice External Call) → Config Reply Thrown State Call Out →
    Option (Config Reply Thrown State Call Out)
  | [], config => some config
  | label :: labels, config =>
    if permit config label then
      match system.next config label with
      | some after => runChecked permit labels after
      | none => none
    else none

/-- The configurations of the runs from `start` whose every step is allowed where it is taken. -/
inductive Reaches
    (allowed : Config Reply Thrown State Call Out → Label Choice External Call → Prop)
    (start : Config Reply Thrown State Call Out) : Config Reply Thrown State Call Out → Prop where
  | refl : Reaches allowed start start
  | step {config after} {label : Label Choice External Call} (reached : Reaches allowed start config)
      (allow : allowed config label) (moved : system.next config label = some after) :
      Reaches allowed start after

def anyStep (_ : Config Reply Thrown State Call Out) (_ : Label Choice External Call) : Prop := True

variable {system}
variable {allowed : Config Reply Thrown State Call Out → Label Choice External Call → Prop}
  {start config after : Config Reply Thrown State Call Out}

theorem advance_cases {choice : Choice} {state : State} {thread moved : Thread Reply Thrown Call Out}
    {later : State} (advanced : system.advance choice state thread = some (moved, later)) :
    ∃ op resume reply, thread.alive = true ∧ thread.program = .await op resume ∧
      system.exec op choice state = some (reply, later) ∧
      moved = { thread with past := thread.past ++ [⟨op, reply⟩], program := resume reply } := by
  unfold advance at advanced
  split at advanced
  · rename_i op resume alive program
    split at advanced
    · rename_i reply final executed
      cases advanced
      exact ⟨op, resume, reply, alive, program, executed, rfl⟩
    · cases advanced
  · cases advanced

theorem next_cases {label : Label Choice External Call} (moved : system.next config label = some after) :
    (∃ call, label = .call call ∧
      after = { config with threads := config.threads ++ [Thread.start system call] }) ∨
    (∃ index choice thread advanced state, label = .step index choice ∧
      config.threads[index]? = some thread ∧
      system.advance choice config.state thread = some (advanced, state) ∧
      after = { state, threads := config.threads.set index advanced }) ∨
    (∃ index thread, label = .crash index ∧ config.threads[index]? = some thread ∧
      after = { config with threads := config.threads.set index { thread with alive := false } }) ∨
    (∃ event, label = .external event ∧
      after = { config with state := system.external event config.state }) := by
  cases label with
  | call call => exact .inl ⟨call, rfl, (Option.some.inj moved).symm⟩
  | step index choice =>
    simp only [next] at moved
    split at moved
    · rename_i thread found
      split at moved
      · rename_i advanced state stepped
        exact .inr (.inl ⟨index, choice, thread, advanced, state, rfl, found, stepped,
          (Option.some.inj moved).symm⟩)
      · cases moved
    · cases moved
  | crash index =>
    simp only [next] at moved
    split at moved
    · rename_i thread found
      exact .inr (.inr (.inl ⟨index, thread, rfl, found, (Option.some.inj moved).symm⟩))
    · cases moved
  | external event => exact .inr (.inr (.inr ⟨event, rfl, (Option.some.inj moved).symm⟩))

theorem next_of_exec {index : Nat} {choice : Choice} {thread : Thread Reply Thrown Call Out} {op : Op}
    {resume : Except Thrown (Reply op) → Program Reply Thrown Out} {reply : Except Thrown (Reply op)} {later : State}
    (found : config.threads[index]? = some thread) (alive : thread.alive = true)
    (program : thread.program = .await op resume)
    (executed : system.exec op choice config.state = some (reply, later)) :
    system.next config (.step index choice) = some { state := later, threads := (config.threads.set index
      { thread with past := thread.past ++ [⟨op, reply⟩], program := resume reply }) } := by
  simp only [next, advance, found, alive, program, executed]

theorem next_of_crash {index : Nat} {thread : Thread Reply Thrown Call Out}
    (found : config.threads[index]? = some thread) : system.next config (.crash index) =
      some { config with threads := config.threads.set index { thread with alive := false } } := by
  simp only [next, found]

theorem Reaches.trans {middle : Config Reply Thrown State Call Out}
    (first : Reaches system allowed start middle) (last : Reaches system allowed middle after) :
    Reaches system allowed start after := by
  induction last with
  | refl => exact first
  | step _ allow moved ih => exact ih.step allow moved

theorem Reaches.weaken
    {wider : Config Reply Thrown State Call Out → Label Choice External Call → Prop}
    (reached : Reaches system allowed start after)
    (weaker : ∀ config label, allowed config label → wider config label) :
    Reaches system wider start after := by
  induction reached with
  | refl => exact .refl
  | step _ allow moved ih => exact ih.step (weaker _ _ allow) moved

theorem Reaches.of_runChecked
    {permit : Config Reply Thrown State Call Out → Label Choice External Call → Bool}
    (sound : ∀ config label, permit config label = true → allowed config label)
    {labels : List (Label Choice External Call)}
    (ran : system.runChecked permit labels start = some after) : Reaches system allowed start after := by
  induction labels generalizing start with
  | nil => cases ran; exact .refl
  | cons label labels ih =>
    simp only [runChecked] at ran
    split at ran
    · rename_i permitted
      split at ran
      · rename_i middle moved
        exact (Reaches.refl.step (sound _ _ permitted) moved).trans (ih ran)
      · cases ran
    · cases ran

theorem Reaches.of_run {labels : List (Label Choice External Call)}
    (ran : system.run labels start = some after) : Reaches system anyStep start after := by
  induction labels generalizing start with
  | nil => cases ran; exact .refl
  | cons label labels ih =>
    simp only [run] at ran
    split at ran
    · rename_i middle moved
      exact (Reaches.refl.step trivial moved).trans (ih ran)
    · cases ran

theorem Reaches.of_check {labels : List (Label Choice External Call)}
    {check : Config Reply Thrown State Call Out → Bool}
    (passed : (system.run labels start).any check = true) :
    ∃ config, Reaches system anyStep start config ∧ check config = true := by
  cases ran : system.run labels start with
  | none => rw [ran] at passed; cases passed
  | some config => rw [ran] at passed; exact ⟨config, .of_run ran, passed⟩

theorem Reaches.of_checks
    {permit : Config Reply Thrown State Call Out → Label Choice External Call → Bool}
    (sound : ∀ config label, permit config label = true → allowed config label)
    {labels : List (Label Choice External Call)}
    {check : Config Reply Thrown State Call Out → Bool}
    (passed : (system.runChecked permit labels start).any check = true) :
    ∃ config, Reaches system allowed start config ∧ check config = true := by
  cases ran : system.runChecked permit labels start with
  | none => rw [ran] at passed; cases passed
  | some config => rw [ran] at passed; exact ⟨config, .of_runChecked sound ran, passed⟩

theorem Reaches.invariant {holds : Config Reply Thrown State Call Out → Prop}
    (reached : Reaches system allowed start after) (initial : holds start)
    (preserved : ∀ config label after, holds config → allowed config label →
      system.next config label = some after → holds after) : holds after := by
  induction reached with
  | refl => exact initial
  | step _ allow moved ih => exact preserved _ _ _ ih allow moved

theorem Reaches.along {invariant : Config Reply Thrown State Call Out → Prop}
    (reached : Reaches system allowed start after)
    (holds : ∀ config, Reaches system allowed start config → invariant config) :
    Reaches system (fun config label => allowed config label ∧ invariant config) start after := by
  induction reached with
  | refl => exact .refl
  | step earlier allow moved ih => exact ih.step ⟨allow, holds _ earlier⟩ moved

theorem Reaches.toward (reached : Reaches system allowed start after) :
    Reaches system (fun config label => allowed config label ∧ Reaches system allowed config after) start after := by
  induction reached with
  | refl => exact .refl
  | @step middle last label _ allow moved ih =>
    have onward : Reaches system (fun config label => allowed config label ∧ Reaches system allowed config last)
        start middle := ih.weaken fun _ _ taken => ⟨taken.1, taken.2.step allow moved⟩
    exact onward.step ⟨allow, Reaches.refl.step allow moved⟩ moved

theorem Reaches.calls {permitted : Call → Prop}
    (only : ∀ config call, allowed config (.call call) → permitted call)
    (reached : Reaches system allowed start after) (initial : ∀ thread ∈ start.threads, permitted thread.call) :
    ∀ thread ∈ after.threads, permitted thread.call := by
  induction reached with
  | refl => exact initial
  | step _ allow moved ih =>
    rcases next_cases moved with ⟨call, rfl, rfl⟩ | ⟨place, _, old, advanced, _, _, there, stepped, rfl⟩ |
      ⟨place, old, _, there, rfl⟩ | ⟨_, _, rfl⟩
    · intro thread member
      rcases List.mem_append.mp member with earlier | new
      · exact ih thread earlier
      · rw [List.mem_singleton.mp new]
        exact only _ call allow
    · obtain ⟨_, _, _, _, _, _, rfl⟩ := advance_cases stepped
      intro thread member
      rcases List.mem_or_eq_of_mem_set member with earlier | rfl
      · exact ih thread earlier
      · exact ih old (List.mem_of_getElem? there)
    · intro thread member
      rcases List.mem_or_eq_of_mem_set member with earlier | rfl
      · exact ih thread earlier
      · exact ih old (List.mem_of_getElem? there)
    · exact ih

theorem Reaches.monotone {grows : State → State → Prop} (refl : ∀ state, grows state state)
    (trans : ∀ first second third, grows first second → grows second third → grows first third)
    (operation : ∀ op choice before reply later, system.exec op choice before = some (reply, later) →
      grows before later)
    (event : ∀ event state, grows state (system.external event state))
    (reached : Reaches system allowed start after) : grows start.state after.state := by
  induction reached with
  | refl => exact refl _
  | step _ _ moved ih =>
    refine trans _ _ _ ih ?_
    rcases next_cases moved with ⟨call, _, rfl⟩ | ⟨_, choice, _, _, _, _, _, stepped, rfl⟩ | ⟨_, _, _, _, rfl⟩ |
      ⟨happened, _, rfl⟩
    · exact refl _
    · obtain ⟨op, _, reply, _, _, executed, _⟩ := advance_cases stepped
      exact operation op choice _ reply _ executed
    · exact refl _
    · exact event happened _

end System
end Async
