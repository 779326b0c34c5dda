import AppGateway.Async.System
import AppGateway.Lists

namespace Async

variable {Op : Type} {Reply : Op → Type} {Thrown State Choice External Call Out : Type}

structure Thread.Extends (before after : Thread Reply Thrown Call Out) : Prop where
  call : after.call = before.call
  past : before.past <+: after.past
  alive : after.alive = true → before.alive = true
  settled : before.running = false → after.program = before.program ∧ after.past = before.past

theorem Thread.Extends.refl (thread : Thread Reply Thrown Call Out) : thread.Extends thread :=
  ⟨rfl, List.prefix_rfl, fun alive => alive, fun _ => ⟨rfl, rfl⟩⟩

theorem Thread.Extends.running {before after : Thread Reply Thrown Call Out}
    (ext : before.Extends after) (running : after.running = true) : before.running = true := by
  cases stopped : before.running with
  | true => rfl
  | false =>
    have same := (ext.settled stopped).1
    simp only [Thread.running, Bool.and_eq_true] at running
    simp only [Thread.running, Bool.and_eq_false_iff] at stopped
    rcases stopped with dead | done
    · rw [ext.alive running.1] at dead
      cases dead
    · rw [same, done] at running
      cases running.2

theorem Thread.Extends.trans {first second third : Thread Reply Thrown Call Out}
    (before : first.Extends second) (after : second.Extends third) : first.Extends third where
  call := after.call.trans before.call
  past := before.past.trans after.past
  alive := fun alive => before.alive (after.alive alive)
  settled := by
    intro stopped
    have still : second.running = false := by
      cases running : second.running with
      | false => rfl
      | true =>
        rw [before.running running] at stopped
        cases stopped
    obtain ⟨program, past⟩ := before.settled stopped
    obtain ⟨program', past'⟩ := after.settled still
    exact ⟨program'.trans program, past'.trans past⟩

namespace System

variable {system : System Reply Thrown State Choice External Call Out}
  {allowed : Config Reply Thrown State Call Out → Label Choice External Call → Prop}
  {start config after : Config Reply Thrown State Call Out}

theorem advance_extends {choice : Choice} {state later : State}
    {thread moved : Thread Reply Thrown Call Out}
    (advanced : system.advance choice state thread = some (moved, later)) : thread.Extends moved := by
  obtain ⟨op, resume, reply, alive, program, _, rfl⟩ := advance_cases advanced
  refine ⟨rfl, List.prefix_append _ _, fun alive => alive, fun stopped => ?_⟩
  simp [Thread.running, Program.running, alive, program] at stopped

theorem next_extends {label : Label Choice External Call} {index : Nat}
    {thread : Thread Reply Thrown Call Out} (moved : system.next config label = some after)
    (found : config.threads[index]? = some thread) :
    ∃ later, after.threads[index]? = some later ∧ thread.Extends later := by
  rcases next_cases moved with ⟨call, _, rfl⟩ | ⟨place, choice, old, advanced, state, _, there, stepped, rfl⟩ |
    ⟨place, old, _, there, rfl⟩ | ⟨event, _, rfl⟩
  · refine ⟨thread, ?_, .refl thread⟩
    have bound := (List.getElem?_eq_some_iff.mp found).1
    simpa [List.getElem?_append_left bound] using found
  · by_cases same : place = index
    · subst same
      have bound := (List.getElem?_eq_some_iff.mp found).1
      obtain rfl := Option.some.inj (there.symm.trans found)
      exact ⟨advanced, by simp [bound], advance_extends stepped⟩
    · exact ⟨thread, by simpa [List.getElem?_set_ne same] using found, .refl thread⟩
  · by_cases same : place = index
    · subst same
      have bound := (List.getElem?_eq_some_iff.mp found).1
      obtain rfl := Option.some.inj (there.symm.trans found)
      exact ⟨{ old with alive := false }, by simp [bound],
        ⟨rfl, List.prefix_rfl, nofun, fun _ => ⟨rfl, rfl⟩⟩⟩
    · exact ⟨thread, by simpa [List.getElem?_set_ne same] using found, .refl thread⟩
  · exact ⟨thread, found, .refl thread⟩

theorem Reaches.extends (reached : Reaches system allowed start after) {index : Nat}
    {thread : Thread Reply Thrown Call Out} (found : start.threads[index]? = some thread) :
    ∃ later, after.threads[index]? = some later ∧ thread.Extends later := by
  induction reached with
  | refl => exact ⟨thread, found, .refl thread⟩
  | step _ _ moved ih =>
    obtain ⟨middle, there, first⟩ := ih
    obtain ⟨later, stored, last⟩ := next_extends moved there
    exact ⟨later, stored, first.trans last⟩

theorem next_threads {label : Label Choice External Call} {index : Nat}
    {thread : Thread Reply Thrown Call Out} (moved : system.next config label = some after)
    (found : after.threads[index]? = some thread) :
    config.threads[index]? = some thread ∨
    (∃ call, label = .call call ∧ index = config.threads.length ∧ thread = Thread.start system call) ∨
    (∃ choice old, label = .step index choice ∧ config.threads[index]? = some old ∧
      system.advance choice config.state old = some (thread, after.state)) ∨
    (∃ old, label = .crash index ∧ config.threads[index]? = some old ∧
      thread = { old with alive := false }) := by
  rcases next_cases moved with ⟨call, rfl, rfl⟩ | ⟨place, choice, old, advanced, state, rfl, there, stepped, rfl⟩ |
    ⟨place, old, rfl, there, rfl⟩ | ⟨event, _, rfl⟩
  · rcases Lists.concat_eq_some.mp found with before | ⟨last, rfl⟩
    · exact .inl before
    · exact .inr (.inl ⟨call, rfl, last, rfl⟩)
  · rcases Lists.set_cases found with ⟨rfl, rfl⟩ | ⟨_, before⟩
    · exact .inr (.inr (.inl ⟨choice, old, rfl, there, stepped⟩))
    · exact .inl before
  · rcases Lists.set_cases found with ⟨rfl, rfl⟩ | ⟨_, before⟩
    · exact .inr (.inr (.inr ⟨old, rfl, there, rfl⟩))
    · exact .inl before
  · exact .inl found

def Guarded (guards : State → Thread Reply Thrown Call Out → Prop)
    (config : Config Reply Thrown State Call Out) (label : Label Choice External Call) : Prop :=
  ∀ index choice thread, label = .step index choice → config.threads[index]? = some thread →
    guards config.state thread

/-- An invariant of threads that own parts of the state: the shared state is valid, what a thread
    asserts survives the steps of any thread it is apart from, and all threads are apart. -/
structure Separated (system : System Reply Thrown State Choice External Call Out)
    (guards : State → Thread Reply Thrown Call Out → Prop) (valid : State → Prop)
    (holds : State → Thread Reply Thrown Call Out → Prop)
    (apart : Thread Reply Thrown Call Out → Thread Reply Thrown Call Out → Prop) : Prop where
  symm : ∀ first second, apart first second → apart second first
  call : ∀ state call, valid state → holds state (Thread.start system call) ∧
    ∀ other, holds state other → apart (Thread.start system call) other
  step : ∀ choice state thread moved later, guards state thread → valid state → holds state thread →
    system.advance choice state thread = some (moved, later) → valid later ∧ holds later moved ∧
    ∀ other, holds state other → apart thread other → holds later other ∧ apart moved other
  external : ∀ event state, valid state →
    valid (system.external event state) ∧ ∀ thread, holds state thread → holds (system.external event state) thread
  crash : ∀ state thread, holds state thread → holds state { thread with alive := false } ∧
    ∀ other, apart thread other → apart { thread with alive := false } other

structure Separated.Holds (valid : State → Prop) (holds : State → Thread Reply Thrown Call Out → Prop)
    (apart : Thread Reply Thrown Call Out → Thread Reply Thrown Call Out → Prop)
    (config : Config Reply Thrown State Call Out) : Prop where
  valid : valid config.state
  each : ∀ (index : Nat) thread, config.threads[index]? = some thread → holds config.state thread
  apart : ∀ (index other : Nat) first second, index ≠ other → config.threads[index]? = some first →
    config.threads[other]? = some second → apart first second

namespace Separated

variable {guards : State → Thread Reply Thrown Call Out → Prop} {valid : State → Prop}
  {holds : State → Thread Reply Thrown Call Out → Prop}
  {apart : Thread Reply Thrown Call Out → Thread Reply Thrown Call Out → Prop}

theorem Holds.initial (good : valid config.state) (none_yet : config.threads = []) :
    Holds valid holds apart config where
  valid := good
  each := by simp [none_yet]
  apart := by simp [none_yet]

theorem Holds.replace {state : State} {place : Nat} {old moved : Thread Reply Thrown Call Out}
    (symm : ∀ first second, apart first second → apart second first)
    (invariant : Holds valid holds apart config) (there : config.threads[place]? = some old)
    (good : valid state) (own : holds state moved)
    (rest : ∀ other, holds config.state other → apart old other → holds state other ∧ apart moved other) :
    Holds valid holds apart { state, threads := config.threads.set place moved } := by
  have aside : ∀ index thread, index ≠ place → config.threads[index]? = some thread →
      holds state thread ∧ apart moved thread := by
    intro index thread differs present
    exact rest thread (invariant.each index thread present)
      (invariant.apart place index old thread (Ne.symm differs) there present)
  refine ⟨good, fun index thread present => ?_, fun index other first second differs here also => ?_⟩
  · rcases Lists.set_cases present with ⟨_, rfl⟩ | ⟨elsewhere, present⟩
    · exact own
    · exact (aside index thread elsewhere present).1
  · rcases Lists.set_cases here with ⟨rfl, rfl⟩ | ⟨elsewhere, before⟩ <;>
      rcases Lists.set_cases also with ⟨rfl, rfl⟩ | ⟨elsewhere', before'⟩
    · exact absurd rfl differs
    · exact (aside other second elsewhere' before').2
    · exact symm _ _ (aside index first elsewhere before).2
    · exact invariant.apart index other first second differs before before'

theorem Holds.append (symm : ∀ first second, apart first second → apart second first)
    (invariant : Holds valid holds apart config) {thread : Thread Reply Thrown Call Out}
    (own : holds config.state thread) (rest : ∀ other, holds config.state other → apart thread other) :
    Holds valid holds apart { config with threads := config.threads ++ [thread] } := by
  refine ⟨invariant.valid, fun index other present => ?_, fun index place first second differs here also => ?_⟩
  · rcases Lists.concat_eq_some.mp present with present | ⟨_, rfl⟩
    · exact invariant.each index other present
    · exact own
  · rcases Lists.concat_eq_some.mp here with before | ⟨rfl, rfl⟩ <;>
      rcases Lists.concat_eq_some.mp also with before' | ⟨rfl, rfl⟩
    · exact invariant.apart index place first second differs before before'
    · exact symm _ _ (rest first (invariant.each index first before))
    · exact rest second (invariant.each place second before')
    · exact absurd rfl differs

theorem next {label : Label Choice External Call} (separated : Separated system guards valid holds apart)
    (invariant : Holds valid holds apart config) (guarded : Guarded guards config label)
    (moved : system.next config label = some after) : Holds valid holds apart after := by
  rcases next_cases moved with ⟨call, _, rfl⟩ | ⟨place, choice, old, advanced, state, same, there, stepped, rfl⟩ |
    ⟨place, old, _, there, rfl⟩ | ⟨event, _, rfl⟩
  · obtain ⟨own, rest⟩ := separated.call _ call invariant.valid
    exact invariant.append separated.symm own rest
  · have guard := guarded place choice old same there
    obtain ⟨good, own, rest⟩ :=
      separated.step _ _ _ _ _ guard invariant.valid (invariant.each place old there) stepped
    exact invariant.replace separated.symm there good own rest
  · obtain ⟨own, rest⟩ := separated.crash _ _ (invariant.each place old there)
    exact invariant.replace separated.symm there invariant.valid own fun other holds apart =>
      ⟨holds, rest other apart⟩
  · obtain ⟨good, rest⟩ := separated.external event _ invariant.valid
    exact ⟨good, fun index thread present => rest thread (invariant.each index thread present), invariant.apart⟩

theorem run (separated : Separated system guards valid holds apart)
    (guarded : ∀ config label, allowed config label → Guarded guards config label)
    (reached : Reaches system allowed start after) (initial : Holds valid holds apart start) :
    Holds valid holds apart after :=
  reached.invariant initial fun config label _ holds allow moved =>
    separated.next holds (guarded config label allow) moved

end Separated

/-- A thread-modular invariant: the shared state is valid and only grows, and what each thread
    asserts survives the growth. A thread moves only where the guard is met. -/
structure Modular (system : System Reply Thrown State Choice External Call Out)
    (guards : State → Thread Reply Thrown Call Out → Prop) (valid : State → Prop)
    (grows : State → State → Prop) (holds : State → Thread Reply Thrown Call Out → Prop) : Prop where
  call : ∀ state call, valid state → holds state (Thread.start system call)
  step : ∀ choice state thread moved later, guards state thread → valid state → holds state thread →
    system.advance choice state thread = some (moved, later) →
    valid later ∧ grows state later ∧ holds later moved
  external : ∀ event state, valid state →
    valid (system.external event state) ∧ grows state (system.external event state)
  stable : ∀ before after thread, grows before after → holds before thread → holds after thread
  crash : ∀ state thread, holds state thread → holds state { thread with alive := false }

def Modular.Holds (valid : State → Prop) (holds : State → Thread Reply Thrown Call Out → Prop)
    (config : Config Reply Thrown State Call Out) : Prop :=
  valid config.state ∧ ∀ thread ∈ config.threads, holds config.state thread

section Modular

variable {guards : State → Thread Reply Thrown Call Out → Prop} {valid : State → Prop}
  {grows : State → State → Prop} {holds : State → Thread Reply Thrown Call Out → Prop}

theorem Modular.separated (modular : Modular system guards valid grows holds) :
    Separated system guards valid holds fun _ _ => True where
  symm := fun _ _ _ => trivial
  call := fun state call good => ⟨modular.call state call good, fun _ _ => trivial⟩
  step := by
    intro choice state thread moved later guard good own advanced
    obtain ⟨good', growth, own'⟩ := modular.step choice state thread moved later guard good own advanced
    exact ⟨good', own', fun other holds _ => ⟨modular.stable _ _ _ growth holds, trivial⟩⟩
  external := by
    intro event state good
    obtain ⟨good', growth⟩ := modular.external event state good
    exact ⟨good', fun thread own => modular.stable _ _ _ growth own⟩
  crash := fun state thread own => ⟨modular.crash state thread own, fun _ _ => trivial⟩

theorem Modular.holds_iff : Modular.Holds valid holds config ↔
    Separated.Holds valid holds (fun _ _ => True) config := by
  constructor
  · rintro ⟨good, each⟩
    exact ⟨good, fun _ thread found => each thread (List.mem_of_getElem? found), fun _ _ _ _ _ _ _ => trivial⟩
  · intro invariant
    refine ⟨invariant.valid, fun thread member => ?_⟩
    obtain ⟨index, found⟩ := List.getElem?_of_mem member
    exact invariant.each index thread found

theorem Modular.next {label : Label Choice External Call} (modular : Modular system guards valid grows holds)
    (invariant : Holds valid holds config) (guarded : Guarded guards config label)
    (moved : system.next config label = some after) : Holds valid holds after :=
  Modular.holds_iff.mpr (modular.separated.next (Modular.holds_iff.mp invariant) guarded moved)

theorem Modular.run (modular : Modular system guards valid grows holds)
    (guarded : ∀ config label, allowed config label → Guarded guards config label)
    (reached : Reaches system allowed start after) (initial : Holds valid holds start) :
    Holds valid holds after :=
  reached.invariant initial fun config label _ holds allow moved =>
    modular.next holds (guarded config label allow) moved

theorem Reaches.each {holds : Thread Reply Thrown Call Out → Prop}
    (call : ∀ call, holds (Thread.start system call))
    (step : ∀ choice state thread moved later, holds thread →
      system.advance choice state thread = some (moved, later) → holds moved)
    (crash : ∀ thread, holds thread → holds { thread with alive := false })
    (reached : Reaches system allowed start after) (initial : ∀ thread ∈ start.threads, holds thread) :
    ∀ thread ∈ after.threads, holds thread := by
  have modular : Modular system (fun _ _ => True) (fun _ => True) (fun _ _ => True) fun _ thread => holds thread :=
    ⟨fun _ called _ => call called,
      fun choice state thread moved later _ _ own advanced =>
        ⟨trivial, trivial, step choice state thread moved later own advanced⟩,
      fun _ _ _ => ⟨trivial, trivial⟩, fun _ _ _ _ own => own, fun _ => crash⟩
  exact (modular.run (fun _ _ _ _ _ _ _ _ => trivial) reached ⟨trivial, initial⟩).2

theorem Reaches.executed (reached : Reaches system allowed start after) (initial : start.threads = [])
    {thread : Thread Reply Thrown Call Out} (member : thread ∈ after.threads) {event : Event Reply Thrown}
    (awaited : event ∈ thread.past) :
    ∃ choice before later, system.exec event.op choice before = some (event.reply, later) := by
  have every : ∀ thread ∈ after.threads, ∀ event ∈ thread.past, ∃ choice before later,
      system.exec event.op choice before = some (event.reply, later) := by
    refine Reaches.each ?_ ?_ (fun _ own => own) reached (by simp [initial])
    · simp [Thread.start]
    intro choice state thread moved later earlier advanced event awaited
    obtain ⟨op, resume, reply, _, _, executed, rfl⟩ := advance_cases advanced
    rcases List.mem_append.mp awaited with past | last
    · exact earlier event past
    · rw [List.mem_singleton.mp last]
      exact ⟨choice, state, later, executed⟩
  exact every thread member event awaited

end Modular

/-- The thread has kept to the rules of its call so far, and what is left of it will. -/
def Disciplined (permits : Call → List (Event Reply Thrown) → Op → Prop)
    (ends : Call → List (Event Reply Thrown) → Except Thrown Out → Prop)
    (thread : Thread Reply Thrown Call Out) : Prop :=
  Lawful (permits thread.call) thread.past ∧
    thread.program.Obeys (permits thread.call) (ends thread.call) thread.past

section Disciplined

variable {permits : Call → List (Event Reply Thrown) → Op → Prop}
  {ends : Call → List (Event Reply Thrown) → Except Thrown Out → Prop}
  {thread moved : Thread Reply Thrown Call Out}

theorem Disciplined.of_code {call : Call}
    (obeys : (system.code call).Obeys (permits call) (ends call) []) :
    Disciplined permits ends (Thread.start system call) := ⟨Lawful.nil, obeys⟩

theorem Disciplined.advance {choice : Choice} {state later : State}
    (disciplined : Disciplined permits ends thread)
    (advanced : system.advance choice state thread = some (moved, later)) :
    Disciplined permits ends moved := by
  obtain ⟨op, resume, reply, _, program, _, rfl⟩ := advance_cases advanced
  obtain ⟨lawful, obeys⟩ := disciplined
  rw [program] at obeys
  exact ⟨lawful.snoc obeys.1, obeys.2 reply⟩

theorem Disciplined.permitted {op : Op} {resume : Except Thrown (Reply op) → Program Reply Thrown Out}
    (disciplined : Disciplined permits ends thread) (program : thread.program = .await op resume) :
    permits thread.call thread.past op := by
  have obeys := disciplined.2
  rw [program] at obeys
  exact obeys.1

theorem Disciplined.ended {outcome : Except Thrown Out}
    (disciplined : Disciplined permits ends thread) (answered : thread.answered outcome) :
    ends thread.call thread.past outcome := by
  have obeys := disciplined.2
  have program : thread.program = .done outcome := answered
  rwa [program] at obeys

theorem Reaches.disciplined (obeys : ∀ call, (system.code call).Obeys (permits call) (ends call) [])
    (reached : Reaches system allowed start after) (initial : start.threads = []) :
    ∀ thread ∈ after.threads, Disciplined permits ends thread := by
  refine Reaches.each (fun call => .of_code (obeys call)) ?_ (fun _ own => own) reached ?_
  · exact fun _ _ _ _ _ own advanced => own.advance advanced
  · rw [initial]
    exact fun _ absent => nomatch absent

end Disciplined

theorem Reaches.follows (reached : Reaches system allowed start after) (initial : start.threads = []) :
    ∀ thread ∈ after.threads, (system.code thread.call).Follows thread.past thread.program := by
  refine Reaches.each (fun call => .here _) ?_ (fun _ own => own) reached (by simp [initial])
  intro choice state thread moved later followed advanced
  obtain ⟨op, resume, reply, _, program, _, rfl⟩ := advance_cases advanced
  rw [program] at followed
  exact followed.snoc reply

end System
end Async
