import AppGateway.Async.System

namespace Async

variable {Op : Type} {Reply : Op → Type} {Thrown State Choice α β : Type}

namespace Program

/-- The function runs to its end on its own, each operation with a choice that is `sound`. -/
inductive Completes (exec : (op : Op) → Choice → State → Option (Except Thrown (Reply op) × State))
    (sound : Choice → Prop) :
    Program Reply Thrown α → State → Except Thrown α → State → Prop where
  | done (outcome) (state) : Completes exec sound (.done outcome) state outcome state
  | await {op : Op} {resume : Except Thrown (Reply op) → Program Reply Thrown α} {state middle after}
      {reply : Except Thrown (Reply op)} {outcome} (choice : Choice) (good : sound choice)
      (executed : exec op choice state = some (reply, middle))
      (rest : Completes exec sound (resume reply) middle outcome after) :
      Completes exec sound (.await op resume) state outcome after

def evaluate (exec : (op : Op) → Choice → State → Option (Except Thrown (Reply op) × State)) :
    List Choice → Program Reply Thrown α → State → Option (Except Thrown α × State)
  | _, .done outcome, state => some (outcome, state)
  | [], .await _ _, _ => none
  | choice :: choices, .await op resume, state =>
    match exec op choice state with
    | some (reply, middle) => evaluate exec choices (resume reply) middle
    | none => none

section Rules

variable {exec : (op : Op) → Choice → State → Option (Except Thrown (Reply op) × State)}
  {sound : Choice → Prop} {state after : State}

@[simp] theorem completes_done {outcome outcome' : Except Thrown α} :
    Completes exec sound (Program.done outcome : Program Reply Thrown α) state outcome' after ↔
      outcome' = outcome ∧ after = state := by
  constructor
  · intro completes
    cases completes
    exact ⟨rfl, rfl⟩
  · rintro ⟨rfl, rfl⟩
    exact .done _ _

theorem completes_await {op : Op} {resume : Except Thrown (Reply op) → Program Reply Thrown α}
    {outcome : Except Thrown α} :
    Completes exec sound (.await op resume) state outcome after ↔
      ∃ choice reply middle, sound choice ∧ exec op choice state = some (reply, middle) ∧
        Completes exec sound (resume reply) middle outcome after := by
  constructor
  · intro completes
    cases completes with
    | await choice good executed rest => exact ⟨choice, _, _, good, executed, rest⟩
  · rintro ⟨choice, reply, middle, good, executed, rest⟩
    exact .await choice good executed rest

theorem completes_perform {op : Op} {outcome : Except Thrown (Reply op)} :
    Completes exec sound (perform op) state outcome after ↔
      ∃ choice, sound choice ∧ exec op choice state = some (outcome, after) := by
  rw [perform, completes_await]
  constructor
  · rintro ⟨choice, reply, middle, good, executed, rest⟩
    obtain ⟨rfl, rfl⟩ := completes_done.mp rest
    exact ⟨choice, good, executed⟩
  · rintro ⟨choice, good, executed⟩
    exact ⟨choice, outcome, after, good, executed, .done _ _⟩

theorem Completes.bind {program : Program Reply Thrown α} {next : α → Program Reply Thrown β}
    {value : α} {middle : State} {outcome : Except Thrown β}
    (first : Completes exec sound program state (.ok value) middle)
    (rest : Completes exec sound (next value) middle outcome after) :
    Completes exec sound (program.bind next) state outcome after := by
  generalize same : (Except.ok value : Except Thrown α) = returned at first
  induction first with
  | done outcome' =>
    subst same
    exact rest
  | await choice good executed _ ih => exact .await choice good executed (ih rest same)

theorem Completes.bind_cases {program : Program Reply Thrown α} {next : α → Program Reply Thrown β}
    {outcome : Except Thrown β} (completes : Completes exec sound (program.bind next) state outcome after) :
    (∃ value middle, Completes exec sound program state (.ok value) middle ∧
      Completes exec sound (next value) middle outcome after) ∨
    ∃ thrown, outcome = .error thrown ∧ Completes exec sound program state (.error thrown) after := by
  induction program generalizing state with
  | done returned =>
    cases returned with
    | ok value => exact .inl ⟨value, state, .done _ _, completes⟩
    | error thrown =>
      obtain ⟨rfl, rfl⟩ := completes_done.mp completes
      exact .inr ⟨thrown, rfl, .done _ _⟩
  | await op resume ih =>
    obtain ⟨choice, reply, middle, good, executed, rest⟩ := completes_await.mp completes
    rcases ih reply rest with ⟨value, last, first, final⟩ | ⟨thrown, same, first⟩
    · exact .inl ⟨value, last, .await choice good executed first, final⟩
    · exact .inr ⟨thrown, same, .await choice good executed first⟩

theorem Completes.bind_ok {program : Program Reply Thrown α} {next : α → Program Reply Thrown β}
    {returned : β} (completes : Completes exec sound (program.bind next) state (.ok returned) after) :
    ∃ value middle, Completes exec sound program state (.ok value) middle ∧
      Completes exec sound (next value) middle (.ok returned) after := by
  rcases completes.bind_cases with whole | ⟨thrown, same, _⟩
  · exact whole
  · cases same

theorem Completes.handle {program : Program Reply Thrown α} {handler : Thrown → Program Reply Thrown α}
    {value : α} (first : Completes exec sound program state (.ok value) after) :
    Completes exec sound (program.handle handler) state (.ok value) after := by
  generalize same : (Except.ok value : Except Thrown α) = returned at first
  induction first with
  | done outcome => subst same; exact .done _ _
  | await choice good executed _ ih => exact .await choice good executed (ih same)

theorem Completes.handle_cases {program : Program Reply Thrown α}
    {handler : Thrown → Program Reply Thrown α} {outcome : Except Thrown α}
    (completes : Completes exec sound (program.handle handler) state outcome after) :
    (∃ value, outcome = .ok value ∧ Completes exec sound program state (.ok value) after) ∨
    ∃ thrown middle, Completes exec sound program state (.error thrown) middle ∧
      Completes exec sound (handler thrown) middle outcome after := by
  induction program generalizing state with
  | done returned =>
    cases returned with
    | ok value =>
      obtain ⟨rfl, rfl⟩ := completes_done.mp completes
      exact .inl ⟨value, rfl, .done _ _⟩
    | error thrown => exact .inr ⟨thrown, state, .done _ _, completes⟩
  | await op resume ih =>
    obtain ⟨choice, reply, middle, good, executed, rest⟩ := completes_await.mp completes
    rcases ih reply rest with ⟨value, same, first⟩ | ⟨thrown, last, first, final⟩
    · exact .inl ⟨value, same, .await choice good executed first⟩
    · exact .inr ⟨thrown, last, .await choice good executed first, final⟩

theorem Completes.settle {program : Program Reply Thrown α} {outcome : Except Thrown α}
    (completes : Completes exec sound program state outcome after) :
    Completes exec sound program.settle state (.ok outcome) after := by
  induction completes with
  | done outcome state => exact .done _ _
  | await choice good executed _ ih => exact .await choice good executed ih

theorem Completes.all {programs : List (Program Reply Thrown Unit)}
    (each : ∀ program ∈ programs, ∀ start, ∃ last, Completes exec sound program start (.ok ()) last)
    (start : State) : ∃ last, Completes exec sound (Program.all programs) start (.ok ()) last := by
  induction programs generalizing start with
  | nil => exact ⟨start, .done _ _⟩
  | cons program programs ih =>
    obtain ⟨middle, first⟩ := each program (List.mem_cons_self ..) start
    obtain ⟨last, rest⟩ := ih (fun other member => each other (List.mem_cons_of_mem _ member)) middle
    exact ⟨last, first.settle.bind rest⟩

theorem Completes.invariant {holds : State → Prop} {allows : Op → Prop} {program : Program Reply Thrown α}
    {outcome : Except Thrown α} (completes : Completes exec sound program state outcome after)
    (uses : program.Uses allows) (initial : holds state)
    (preserved : ∀ op choice reply before later, allows op → holds before →
      exec op choice before = some (reply, later) → holds later) : holds after := by
  induction completes with
  | done => exact initial
  | await choice _ executed _ ih =>
    exact ih (uses.2 _) (preserved _ choice _ _ _ uses.1 initial executed)

theorem Completes.unique {allows : Op → Prop} {program : Program Reply Thrown α} {outcome outcome' : Except Thrown α}
    {after' : State} (first : Completes exec sound program state outcome after)
    (second : Completes exec sound program state outcome' after') (uses : program.Uses allows)
    (settled : ∀ op choice choice' state, allows op → sound choice → sound choice' →
      exec op choice state = exec op choice' state) : outcome' = outcome ∧ after' = after := by
  induction first with
  | done => exact completes_done.mp second
  | await choice good executed _ ih =>
    obtain ⟨choice', reply, middle, good', executed', rest⟩ := completes_await.mp second
    rw [settled _ choice' choice _ uses.1 good' good, executed] at executed'
    cases executed'
    exact ih rest (uses.2 _)

theorem Completes.lift {Choice' : Type}
    {exec' : (op : Op) → Choice' → State → Option (Except Thrown (Reply op) × State)} {sound' : Choice' → Prop}
    {program : Program Reply Thrown α} {outcome : Except Thrown α} (inject : Choice → Choice')
    (same : ∀ op choice state executed, exec op choice state = some executed →
      exec' op (inject choice) state = some executed)
    (good : ∀ choice, sound choice → sound' (inject choice))
    (completes : Completes exec sound program state outcome after) :
    Completes exec' sound' program state outcome after := by
  induction completes with
  | done outcome state => exact .done _ _
  | await choice allowed executed _ ih =>
    exact .await (inject choice) (good choice allowed) (same _ choice _ _ executed) ih

theorem Completes.of_evaluate {choices : List Choice} {program : Program Reply Thrown α}
    {outcome : Except Thrown α} (good : ∀ choice ∈ choices, sound choice)
    (evaluated : evaluate exec choices program state = some (outcome, after)) :
    Completes exec sound program state outcome after := by
  induction choices generalizing program state with
  | nil =>
    cases program with
    | done returned => cases evaluated; exact .done _ _
    | await op resume => cases evaluated
  | cons choice choices ih =>
    cases program with
    | done returned => cases evaluated; exact .done _ _
    | await op resume =>
      simp only [evaluate] at evaluated
      split at evaluated
      · rename_i reply middle executed
        have rest := ih (fun other member => good other (List.mem_cons_of_mem _ member)) evaluated
        exact .await choice (good choice (List.mem_cons_self ..)) executed rest
      · cases evaluated

theorem Completes.of_check {choices : List Choice} {program : Program Reply Thrown α}
    {check : Except Thrown α × State → Bool} (good : ∀ choice ∈ choices, sound choice)
    (passed : (evaluate exec choices program state).any check = true) :
    ∃ outcome last, Completes exec sound program state outcome last ∧ check (outcome, last) = true := by
  cases evaluated : evaluate exec choices program state with
  | none => rw [evaluated] at passed; cases passed
  | some result => rw [evaluated] at passed; exact ⟨result.1, result.2, .of_evaluate good evaluated, passed⟩

def Computes (exec : (op : Op) → Choice → State → Option (Except Thrown (Reply op) × State)) (sound : Choice → Prop)
    (program : Program Reply Thrown α) (state : State) (value : α) (last : State) : Prop :=
  ∀ outcome after, Completes exec sound program state outcome after ↔ outcome = .ok value ∧ after = last

theorem Computes.done (value : α) :
    Computes exec sound (.done (.ok value) : Program Reply Thrown α) state value state :=
  fun _ _ => completes_done

theorem Computes.bind {program : Program Reply Thrown α} {next : α → Program Reply Thrown β} {last : State}
    {value : α} (computes : Computes exec sound program state value last) {outcome : Except Thrown β} :
    Completes exec sound (program.bind next) state outcome after ↔
      Completes exec sound (next value) last outcome after := by
  constructor
  · intro completes
    rcases completes.bind_cases with ⟨value', middle, first, rest⟩ | ⟨thrown, _, failed⟩
    · obtain ⟨same, rfl⟩ := (computes _ _).mp first
      cases same
      exact rest
    · cases ((computes _ _).mp failed).1
  · exact Completes.bind ((computes _ _).mpr ⟨rfl, rfl⟩)

theorem Computes.then {program : Program Reply Thrown α} {next : α → Program Reply Thrown β} {middle last : State}
    {value : α} {result : β} (first : Computes exec sound program state value middle)
    (rest : Computes exec sound (next value) middle result last) :
    Computes exec sound (program.bind next) state result last :=
  fun outcome after => first.bind.trans (rest outcome after)

end Rules
end Program

namespace System

variable {External Call Out : Type} {system : System Reply Thrown State Choice External Call Out}

def externals (system : System Reply Thrown State Choice External Call Out) (events : List External)
    (state : State) : State :=
  events.foldl (fun state event => system.external event state) state

theorem Reaches.externals (events : List External) (config : Config Reply Thrown State Call Out) :
    Reaches system anyStep config { config with state := system.externals events config.state } := by
  induction events generalizing config with
  | nil => exact .refl
  | cons event events ih =>
    have moved : system.next config (.external event) =
        some { config with state := system.external event config.state } := rfl
    exact (Reaches.refl.step trivial moved).trans (ih { config with state := system.external event config.state })

/-- A call that runs on its own is a run of the system in which no other call moves, when each of its
    steps is one of the system's after some events from outside. -/
theorem Reaches.of_completes {Choice' : Type} {sound : Choice' → Prop}
    {exec : (op : Op) → Choice' → State → Option (Except Thrown (Reply op) × State)}
    (performs : ∀ op choice before reply after, exec op choice before = some (reply, after) →
      ∃ events choice', system.exec op choice' (system.externals events before) = some (reply, after))
    {config : Config Reply Thrown State Call Out} {call : Call} {outcome : Except Thrown Out} {after : State}
    (completes : Program.Completes exec sound (system.code call) config.state outcome after) :
    ∃ thread, Reaches system anyStep config { state := after, threads := config.threads ++ [thread] } ∧
      thread.call = call ∧ thread.answered outcome := by
  have steps : ∀ (program : Program Reply Thrown Out) (past : List (Event Reply Thrown)) (state : State),
      Program.Completes exec sound program state outcome after →
      ∃ thread, Reaches system anyStep
        { state, threads := config.threads ++ [{ call, past, program, alive := true }] }
        { state := after, threads := config.threads ++ [thread] } ∧
        thread.call = call ∧ thread.answered outcome := by
    intro program past state completes
    induction completes generalizing past with
    | done returned state => exact ⟨_, .refl, rfl, rfl⟩
    | @await op resume state middle final reply returned choice good executed rest ih =>
      obtain ⟨events, choice', performed⟩ := performs op choice state reply middle executed
      obtain ⟨thread, reached, same, answered⟩ := ih completes (past ++ [⟨op, reply⟩])
      have waited : Reaches system anyStep _ _ := Reaches.externals events
        { state, threads := config.threads ++ [{ call, past, program := .await op resume, alive := true }] }
      have moved : system.next { state := system.externals events state
                                 threads := config.threads ++
                                   [{ call, past, program := .await op resume, alive := true }] }
          (.step config.threads.length choice') = some { state := middle, threads := config.threads ++
            [{ call, past := past ++ [⟨op, reply⟩], program := resume reply, alive := true }] } := by
        simp [next, advance, performed]
      exact ⟨thread, (waited.step trivial moved).trans reached, same, answered⟩
  obtain ⟨thread, reached, same, answered⟩ := steps (system.code call) [] config.state completes
  have started : system.next config (.call call) =
      some { config with threads := config.threads ++ [Thread.start system call] } := rfl
  exact ⟨thread, (Reaches.refl.step trivial started).trans reached, same, answered⟩

end System
end Async
