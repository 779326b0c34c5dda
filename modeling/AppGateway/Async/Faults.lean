import AppGateway.Async.Execution
import AppGateway.Async.Replay

namespace Async

variable {Op : Type} {Reply : Op → Type} {Thrown State Choice α β : Type}

def Faultless (excused : Op → Prop) (past : List (Event Reply Thrown)) : Prop :=
  ∀ event ∈ past, ∀ thrown, event.reply = .error thrown → excused event.op

theorem Faultless.earlier {excused : Op → Prop} {past whole : List (Event Reply Thrown)}
    (faultless : Faultless excused whole) (grown : past ⊆ whole) : Faultless excused past :=
  fun event member => faultless event (grown member)

theorem faultless_ok {excused : Op → Prop} {past : List (Event Reply Thrown)} {op : Op} {value : Reply op} :
    Faultless excused (past ++ [⟨op, .ok value⟩]) ↔ Faultless excused past := by
  constructor
  · intro faultless event member
    exact faultless event (List.mem_append_left _ member)
  · intro faultless event member thrown failed
    rcases List.mem_append.mp member with earlier | last
    · exact faultless event earlier thrown failed
    · cases List.mem_singleton.mp last
      cases failed

theorem not_faultless {excused : Op → Prop} {past : List (Event Reply Thrown)} {op : Op} {thrown : Thrown}
    (counts : ¬ excused op) : ¬ Faultless excused (past ++ [⟨op, .error thrown⟩]) := by
  intro faultless
  exact counts (faultless _ (List.mem_append_right _ (List.mem_singleton_self _)) thrown rfl)

namespace Program

def FaultEnds (excused : Op → Prop) (past whole : List (Event Reply Thrown)) : Except Thrown α → Prop
  | .ok _ => Faultless excused whole ↔ Faultless excused past
  | .error _ => ¬ Faultless excused whole

/-- The function throws exactly when an operation that is not excused has failed. -/
def ThrowsFaults (excused : Op → Prop) (program : Program Reply Thrown α) : Prop :=
  ∀ past, program.Obeys (fun _ _ => True) (FaultEnds excused past) past

section Rules

variable {excused : Op → Prop} {program : Program Reply Thrown α}

theorem ThrowsFaults.value (value : α) : ThrowsFaults excused (.done (.ok value) : Program Reply Thrown α) :=
  fun _ => Iff.rfl

theorem ThrowsFaults.perform {op : Op} (counts : ¬ excused op) :
    ThrowsFaults excused (Program.perform op : Program Reply Thrown (Reply op)) := by
  intro past
  refine ⟨trivial, fun reply => ?_⟩
  cases reply with
  | ok value => exact faultless_ok
  | error thrown => exact not_faultless counts

theorem ThrowsFaults.bind {next : α → Program Reply Thrown β} (first : ThrowsFaults excused program)
    (rest : ∀ value, ThrowsFaults excused (next value)) : ThrowsFaults excused (program.bind next) := by
  intro past
  refine (first past).bind (fun _ _ failed => failed) fun before value same => ?_
  refine (rest value before).weaken (fun _ _ permit => permit) fun whole outcome ended => ?_
  cases outcome with
  | ok returned => exact Iff.trans ended same
  | error thrown => exact ended

theorem ThrowsFaults.handle {handler : Thrown → Program Reply Thrown α} (uses : program.Uses excused)
    (rest : ∀ thrown, ThrowsFaults excused (handler thrown)) : ThrowsFaults excused (program.handle handler) := by
  intro past
  have same : program.Obeys (fun _ _ => True) (fun whole _ => Faultless excused whole ↔
    Faultless excused past) past := by
    refine (uses.obeys fun _ _ _ => trivial).weaken (fun _ _ permit => permit) ?_
    intro whole outcome ended
    obtain ⟨events, rfl, only⟩ := ended
    constructor
    · intro faultless event member
      exact faultless event (List.mem_append_left _ member)
    · intro faultless event member thrown failed
      rcases List.mem_append.mp member with earlier | later
      · exact faultless event earlier thrown failed
      · exact only event later
  refine same.handle (fun _ _ kept => kept) fun before thrown kept => ?_
  refine (rest thrown before).weaken (fun _ _ permit => permit) fun whole outcome ended => ?_
  cases outcome with
  | ok returned => exact Iff.trans ended kept
  | error thrown => exact ended

theorem Obeys.settle {permits : List (Event Reply Thrown) → Op → Prop}
    {ends : List (Event Reply Thrown) → Except Thrown α → Prop} {past : List (Event Reply Thrown)}
    (obeys : program.Obeys permits ends past) :
    program.settle.Obeys permits (fun whole outcome => ∃ settled, outcome = .ok settled ∧ ends whole settled) past := by
  induction program generalizing past with
  | done outcome => exact ⟨outcome, rfl, obeys⟩
  | await op resume ih => exact ⟨obeys.1, fun reply => ih reply (obeys.2 reply)⟩

theorem Obeys.all {Item : Type} {permits : List (Event Reply Thrown) → Op → Prop}
    {grows : List (Event Reply Thrown) → List (Event Reply Thrown) → Prop}
    {shows : Item → List (Event Reply Thrown) → Prop} (refl : ∀ past, grows past past)
    (trans : ∀ past before whole, grows past before → grows before whole → grows past whole)
    (kept : ∀ item before whole, grows before whole → shows item before → shows item whole) {items : List Item}
    {part : Item → Program Reply Thrown Unit} {past : List (Event Reply Thrown)}
    (each : ∀ item ∈ items, ∀ before, grows past before →
      (part item).Obeys permits (fun whole _ => grows before whole ∧ shows item whole) before) :
    (Program.all (items.map part)).Obeys permits (fun whole _ => grows past whole ∧ ∀ item ∈ items, shows item whole)
      past := by
  induction items generalizing past with
  | nil => exact ⟨refl past, fun item absent => (List.not_mem_nil absent).elim⟩
  | cons first items ih =>
    refine ((each first (List.mem_cons_self ..) past (refl past)).settle).bind (fun _ _ ended => ?_) ?_
    · obtain ⟨_, same, _⟩ := ended
      cases same
    rintro before settled ⟨_, same, grown, shown⟩
    cases same
    have rest : (Program.all (items.map part)).Obeys permits
        (fun whole _ => grows before whole ∧ ∀ item ∈ items, shows item whole) before :=
      ih fun item member later onward => each item (List.mem_cons_of_mem _ member) later (trans _ _ _ grown onward)
    have whole : ∀ {whole : List (Event Reply Thrown)}, (grows before whole ∧ ∀ item ∈ items, shows item whole) →
        grows past whole ∧ ∀ item ∈ first :: items, shows item whole := by
      rintro whole ⟨onward, all⟩
      refine ⟨trans _ _ _ grown onward, fun item member => ?_⟩
      rcases List.mem_cons.mp member with rfl | later
      · exact kept item before whole onward shown
      · exact all item later
    cases settled with
    | ok value => exact rest.weaken (fun _ _ permit => permit) fun _ _ ended => whole ended
    | error thrown =>
      refine rest.settle.bind (fun _ _ ended => ?_) fun later ended both => ?_
      · obtain ⟨_, same, _⟩ := ended
        cases same
      · obtain ⟨_, _, both⟩ := both
        exact whole both

theorem ThrowsFaults.all {programs : List (Program Reply Thrown Unit)}
    (each : ∀ program ∈ programs, ThrowsFaults excused program) : ThrowsFaults excused (Program.all programs) := by
  induction programs with
  | nil => exact .value ()
  | cons first rest ih =>
    have later := ih fun program member => each program (List.mem_cons_of_mem _ member)
    intro past
    refine ((each first (List.mem_cons_self ..)) past).settle.bind (fun _ _ ended => ?_) fun before settled ended => ?_
    · obtain ⟨_, same, _⟩ := ended
      cases same
    obtain ⟨_, same, ended⟩ := ended
    cases same
    cases settled with
    | ok value =>
      refine (later before).weaken (fun _ _ permit => permit) fun whole outcome last => ?_
      cases outcome with
      | ok returned => exact Iff.trans last ended
      | error thrown => exact last
    | error thrown =>
      refine (later before).settle.bind (fun _ _ last => ?_) fun whole settled last => ?_
      · obtain ⟨_, same, _⟩ := last
        cases same
      · obtain ⟨_, same, last⟩ := last
        cases same
        cases settled with
        | ok value => exact fun faultless => ended (Iff.mp last faultless)
        | error thrown => exact last

theorem ThrowsFaults.ended {events : List (Event Reply Thrown)} {outcome : Except Thrown α}
    (throws : ThrowsFaults excused program) (follows : program.Follows events (.done outcome)) :
    (∃ value, outcome = .ok value ∧ Faultless excused events) ∨
      ∃ thrown, outcome = .error thrown ∧ ¬ Faultless excused events := by
  have ended := (throws []).follows follows
  cases outcome with
  | ok value => exact .inl ⟨value, rfl, Iff.mpr ended fun _ absent => (List.not_mem_nil absent).elim⟩
  | error thrown => exact .inr ⟨thrown, rfl, ended⟩

end Rules

inductive Executes (exec : (op : Op) → Choice → State → Option (Except Thrown (Reply op) × State)) :
    List (Event Reply Thrown) → State → State → Prop where
  | nil (state) : Executes exec [] state state
  | cons {op : Op} {reply : Except Thrown (Reply op)} {events state middle after} (choice : Choice)
      (executed : exec op choice state = some (reply, middle)) (rest : Executes exec events middle after) :
      Executes exec (⟨op, reply⟩ :: events) state after

section Executions

variable {exec : (op : Op) → Choice → State → Option (Except Thrown (Reply op) × State)} {state after : State}

theorem Executes.append_cases {first rest : List (Event Reply Thrown)}
    (executes : Executes exec (first ++ rest) state after) :
    ∃ middle, Executes exec first state middle ∧ Executes exec rest middle after := by
  induction first generalizing state with
  | nil => exact ⟨state, .nil state, executes⟩
  | cons event first ih =>
    cases executes with
    | cons choice executed rest =>
      obtain ⟨middle, before, onward⟩ := ih rest
      exact ⟨middle, .cons choice executed before, onward⟩

theorem Executes.invariant {holds : State → Prop} {events : List (Event Reply Thrown)}
    (executes : Executes exec events state after) (initial : holds state)
    (preserved : ∀ event ∈ events, ∀ choice before later, holds before →
      exec event.op choice before = some (event.reply, later) → holds later) : holds after := by
  induction executes with
  | nil => exact initial
  | cons choice executed rest ih =>
    refine ih (preserved _ (List.mem_cons_self ..) choice _ _ initial executed) ?_
    exact fun event member => preserved event (List.mem_cons_of_mem _ member)

theorem Completes.executes {sound : Choice → Prop} {program : Program Reply Thrown α} {outcome : Except Thrown α}
    (completes : Completes exec sound program state outcome after) :
    ∃ events, program.Follows events (.done outcome) ∧ Executes exec events state after := by
  induction completes with
  | done outcome state => exact ⟨[], .here _, .nil state⟩
  | await choice good executed rest ih =>
    obtain ⟨events, follows, executes⟩ := ih
    exact ⟨_, .next _ follows, .cons choice executed executes⟩

end Executions
end Program
end Async
