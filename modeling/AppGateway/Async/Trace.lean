import AppGateway.Async.Program

namespace Async

variable {Op : Type} {Reply : Op → Type} {Thrown α β : Type}

/-- `Follows program events rest`: awaiting these operations with these replies leaves `rest`. -/
inductive Program.Follows :
    Program Reply Thrown α → List (Event Reply Thrown) → Program Reply Thrown α → Prop where
  | here (program) : Follows program [] program
  | next {op : Op} {resume : Except Thrown (Reply op) → Program Reply Thrown α} {events rest}
      (reply : Except Thrown (Reply op)) (tail : Follows (resume reply) events rest) :
      Follows (.await op resume) (⟨op, reply⟩ :: events) rest

theorem Program.Follows.snoc {program : Program Reply Thrown α} {events : List (Event Reply Thrown)} {op : Op}
    {resume : Except Thrown (Reply op) → Program Reply Thrown α} (follows : program.Follows events (.await op resume))
    (reply : Except Thrown (Reply op)) : program.Follows (events ++ [⟨op, reply⟩]) (resume reply) := by
  generalize ended : Program.await op resume = rest at follows
  induction follows with
  | here program =>
    subst ended
    exact .next reply (.here _)
  | next earlier tail ih => exact .next earlier (ih ended)

/-- Every operation is permitted by the events before it, and every outcome fits the whole history,
    whatever the replies are. -/
def Program.Obeys (permits : List (Event Reply Thrown) → Op → Prop)
    (ends : List (Event Reply Thrown) → Except Thrown α → Prop) :
    Program Reply Thrown α → List (Event Reply Thrown) → Prop
  | .done outcome, past => ends past outcome
  | .await op resume, past =>
    permits past op ∧ ∀ reply, (resume reply).Obeys permits ends (past ++ [⟨op, reply⟩])

def Program.Uses (allows : Op → Prop) : Program Reply Thrown α → Prop
  | .done _ => True
  | .await op resume => allows op ∧ ∀ reply, (resume reply).Uses allows

def Program.Once (kind : Op → Prop) : Program Reply Thrown α → Prop
  | .done _ => True
  | .await op resume =>
    ∀ reply, (resume reply).Once kind ∧ (kind op → (resume reply).Uses fun other => ¬ kind other)

def Lawful (permits : List (Event Reply Thrown) → Op → Prop) (past : List (Event Reply Thrown)) : Prop :=
  ∀ before event after, past = before ++ event :: after → permits before event.op

namespace Program

section Rules

variable {permits : List (Event Reply Thrown) → Op → Prop}
  {ends : List (Event Reply Thrown) → Except Thrown α → Prop}
  {program : Program Reply Thrown α} {past : List (Event Reply Thrown)}

@[simp] theorem obeys_done {outcome : Except Thrown α} :
    (Program.done outcome).Obeys permits ends past ↔ ends past outcome := Iff.rfl

@[simp] theorem obeys_await {op : Op} {resume : Except Thrown (Reply op) → Program Reply Thrown α} :
    (Program.await op resume).Obeys permits ends past ↔
      permits past op ∧ ∀ reply, (resume reply).Obeys permits ends (past ++ [⟨op, reply⟩]) := Iff.rfl

theorem Obeys.weaken {permits' : List (Event Reply Thrown) → Op → Prop}
    {ends' : List (Event Reply Thrown) → Except Thrown α → Prop}
    (obeys : program.Obeys permits ends past)
    (permitted : ∀ before op, permits before op → permits' before op)
    (ended : ∀ before outcome, ends before outcome → ends' before outcome) :
    program.Obeys permits' ends' past := by
  induction program generalizing past with
  | done outcome => exact ended _ _ obeys
  | await op resume ih => exact ⟨permitted _ _ obeys.1, fun reply => ih reply (obeys.2 reply)⟩

/-- A rule about a function on its own holds wherever the function is called. -/
theorem Obeys.after {permits' : List (Event Reply Thrown) → Op → Prop}
    {before : List (Event Reply Thrown)} (obeys : program.Obeys permits ends past)
    (permitted : ∀ events op, permits events op → permits' (before ++ events) op) :
    program.Obeys permits' (fun whole outcome => ∃ events, whole = before ++ events ∧ ends events outcome)
      (before ++ past) := by
  induction program generalizing past with
  | done outcome => exact ⟨past, rfl, obeys⟩
  | await op resume ih =>
    refine ⟨permitted _ _ obeys.1, fun reply => ?_⟩
    have rest := ih reply (obeys.2 reply)
    rwa [List.append_assoc]

theorem Obeys.bind {next : α → Program Reply Thrown β}
    {final : List (Event Reply Thrown) → Except Thrown β → Prop}
    (obeys : program.Obeys permits ends past)
    (rejected : ∀ before thrown, ends before (.error thrown) → final before (.error thrown))
    (resolved : ∀ before value, ends before (.ok value) → (next value).Obeys permits final before) :
    (program.bind next).Obeys permits final past := by
  induction program generalizing past with
  | done outcome =>
    cases outcome with
    | ok value => exact resolved _ _ obeys
    | error thrown => exact rejected _ _ obeys
  | await op resume ih => exact ⟨obeys.1, fun reply => ih reply (obeys.2 reply)⟩

theorem Obeys.handle {handler : Thrown → Program Reply Thrown α}
    {final : List (Event Reply Thrown) → Except Thrown α → Prop}
    (obeys : program.Obeys permits ends past)
    (resolved : ∀ before value, ends before (.ok value) → final before (.ok value))
    (rejected : ∀ before thrown, ends before (.error thrown) →
      (handler thrown).Obeys permits final before) :
    (program.handle handler).Obeys permits final past := by
  induction program generalizing past with
  | done outcome =>
    cases outcome with
    | ok value => exact resolved _ _ obeys
    | error thrown => exact rejected _ _ obeys
  | await op resume ih => exact ⟨obeys.1, fun reply => ih reply (obeys.2 reply)⟩

theorem Obeys.and {also : List (Event Reply Thrown) → Except Thrown α → Prop}
    (obeys : program.Obeys permits ends past) (other : program.Obeys permits also past) :
    program.Obeys permits (fun whole outcome => ends whole outcome ∧ also whole outcome) past := by
  induction program generalizing past with
  | done outcome => exact ⟨obeys, other⟩
  | await op resume ih => exact ⟨obeys.1, fun reply => ih reply (obeys.2 reply) (other.2 reply)⟩

theorem Obeys.also {permits' : List (Event Reply Thrown) → Op → Prop}
    {also : List (Event Reply Thrown) → Except Thrown α → Prop} (obeys : program.Obeys permits ends past)
    (other : program.Obeys permits' also past) :
    program.Obeys permits (fun whole outcome => ends whole outcome ∧ also whole outcome) past := by
  induction program generalizing past with
  | done outcome => exact ⟨obeys, other⟩
  | await op resume ih => exact ⟨obeys.1, fun reply => ih reply (obeys.2 reply) (other.2 reply)⟩

theorem Obeys.uses {allows : Op → Prop} (obeys : program.Obeys permits ends past)
    (implies : ∀ events op, permits events op → allows op) : program.Uses allows := by
  induction program generalizing past with
  | done outcome => trivial
  | await op resume ih => exact ⟨implies _ _ obeys.1, fun reply => ih reply (obeys.2 reply)⟩

theorem Obeys.follows {events : List (Event Reply Thrown)} {rest : Program Reply Thrown α}
    (obeys : program.Obeys permits ends past) (follows : program.Follows events rest) :
    rest.Obeys permits ends (past ++ events) := by
  induction follows generalizing past with
  | here => simpa using obeys
  | next reply tail ih =>
    have rest := ih (obeys.2 reply)
    simpa only [List.append_assoc, List.singleton_append] using rest

end Rules

section Uses

variable {allows : Op → Prop} {program : Program Reply Thrown α}

@[simp] theorem uses_done (outcome : Except Thrown α) :
    (Program.done outcome : Program Reply Thrown α).Uses allows := trivial

@[simp] theorem uses_await {op : Op} {resume : Except Thrown (Reply op) → Program Reply Thrown α} :
    (Program.await op resume).Uses allows ↔ allows op ∧ ∀ reply, (resume reply).Uses allows := Iff.rfl

theorem Uses.weaken {wider : Op → Prop} (uses : program.Uses allows)
    (implies : ∀ op, allows op → wider op) : program.Uses wider := by
  induction program with
  | done outcome => trivial
  | await op resume ih => exact ⟨implies _ uses.1, fun reply => ih reply (uses.2 reply)⟩

theorem Uses.bind {next : α → Program Reply Thrown β} (uses : program.Uses allows)
    (rest : ∀ value, (next value).Uses allows) : (program.bind next).Uses allows := by
  induction program with
  | done outcome =>
    cases outcome with
    | ok value => exact rest value
    | error thrown => trivial
  | await op resume ih => exact ⟨uses.1, fun reply => ih reply (uses.2 reply)⟩

theorem Uses.handle {handler : Thrown → Program Reply Thrown α} (uses : program.Uses allows)
    (rest : ∀ thrown, (handler thrown).Uses allows) : (program.handle handler).Uses allows := by
  induction program with
  | done outcome =>
    cases outcome with
    | ok value => trivial
    | error thrown => exact rest thrown
  | await op resume ih => exact ⟨uses.1, fun reply => ih reply (uses.2 reply)⟩

theorem Uses.settle (uses : program.Uses allows) : program.settle.Uses allows := by
  induction program with
  | done outcome => trivial
  | await op resume ih => exact ⟨uses.1, fun reply => ih reply (uses.2 reply)⟩

theorem Uses.all {programs : List (Program Reply Thrown Unit)}
    (each : ∀ program ∈ programs, program.Uses allows) : (Program.all programs).Uses allows := by
  induction programs with
  | nil => trivial
  | cons first rest ih =>
    have tail := ih fun program member => each program (List.mem_cons_of_mem _ member)
    refine (each first (List.mem_cons_self ..)).settle.bind fun outcome => ?_
    cases outcome with
    | ok value => exact tail
    | error thrown => exact tail.settle.bind fun _ => trivial

theorem Uses.obeys {permits : List (Event Reply Thrown) → Op → Prop}
    {past : List (Event Reply Thrown)} (uses : program.Uses allows)
    (permitted : ∀ events op, allows op → permits (past ++ events) op) :
    program.Obeys permits
      (fun whole _ => ∃ events, whole = past ++ events ∧ ∀ event ∈ events, allows event.op) past := by
  induction program generalizing past with
  | done outcome => exact ⟨[], by simp, by simp⟩
  | await op resume ih =>
    refine ⟨by simpa using permitted [] op uses.1, fun reply => ?_⟩
    have permitted' : ∀ events other, allows other →
        permits ((past ++ [⟨op, reply⟩]) ++ events) other := by
      intro events other allowed
      rw [List.append_assoc]
      exact permitted _ other allowed
    have rest := ih reply (uses.2 reply) permitted'
    refine rest.weaken (fun _ _ permit => permit) ?_
    rintro whole outcome ⟨events, rfl, only⟩
    refine ⟨⟨op, reply⟩ :: events, by simp, ?_⟩
    intro event member
    rcases List.mem_cons.mp member with rfl | member
    · exact uses.1
    · exact only event member

theorem Uses.follows {events : List (Event Reply Thrown)} {rest : Program Reply Thrown α} (uses : program.Uses allows)
    (follows : program.Follows events rest) : rest.Uses allows := by
  induction follows with
  | here => exact uses
  | next reply tail ih => exact ih (uses.2 reply)

theorem uses_any (program : Program Reply Thrown α) : program.Uses fun _ => True := by
  induction program with
  | done outcome => trivial
  | await op resume ih => exact ⟨trivial, ih⟩

theorem obeys_append (program : Program Reply Thrown α) (past : List (Event Reply Thrown)) :
    program.Obeys (fun _ _ => True) (fun whole _ => ∃ events, whole = past ++ events) past :=
  ((uses_any program).obeys fun _ _ _ => trivial).weaken (fun _ _ permit => permit)
    fun _ _ ⟨events, whole, _⟩ => ⟨events, whole⟩

theorem obeys_grow (program : Program Reply Thrown α) (past : List (Event Reply Thrown)) :
    program.Obeys (fun _ _ => True) (fun whole _ => past ⊆ whole) past := by
  refine (obeys_append program past).weaken (fun _ _ permit => permit) ?_
  rintro _ _ ⟨events, rfl⟩ event member
  exact List.mem_append_left _ member

end Uses

section Once

variable {kind : Op → Prop} {program : Program Reply Thrown α}

theorem Uses.once (uses : program.Uses fun op => ¬ kind op) : program.Once kind := by
  induction program with
  | done outcome => trivial
  | await op resume ih => exact fun reply => ⟨ih reply (uses.2 reply), fun _ => uses.2 reply⟩

theorem once_await {op : Op} {resume : Except Thrown (Reply op) → Program Reply Thrown α} (other : ¬ kind op)
    (rest : ∀ reply, (resume reply).Once kind) : (Program.await op resume).Once kind :=
  fun reply => ⟨rest reply, fun same => absurd same other⟩

theorem once_last {op : Op} {resume : Except Thrown (Reply op) → Program Reply Thrown α}
    (rest : ∀ reply, (resume reply).Uses fun other => ¬ kind other) : (Program.await op resume).Once kind :=
  fun reply => ⟨(rest reply).once, fun _ => rest reply⟩

theorem Uses.bind_once {next : α → Program Reply Thrown β} (uses : program.Uses fun op => ¬ kind op)
    (rest : ∀ value, (next value).Once kind) : (program.bind next).Once kind := by
  induction program with
  | done outcome =>
    cases outcome with
    | ok value => exact rest value
    | error thrown => trivial
  | await op resume ih => exact once_await uses.1 fun reply => ih reply (uses.2 reply)

theorem Once.bind {next : α → Program Reply Thrown β} (once : program.Once kind)
    (rest : ∀ value, (next value).Uses fun op => ¬ kind op) : (program.bind next).Once kind := by
  induction program with
  | done outcome =>
    cases outcome with
    | ok value => exact (rest value).once
    | error thrown => trivial
  | await op resume ih => exact fun reply => ⟨ih reply (once reply).1, fun same => ((once reply).2 same).bind rest⟩

theorem Once.handle {handler : Thrown → Program Reply Thrown α} (once : program.Once kind)
    (rest : ∀ thrown, (handler thrown).Uses fun op => ¬ kind op) : (program.handle handler).Once kind := by
  induction program with
  | done outcome =>
    cases outcome with
    | ok value => trivial
    | error thrown => exact (rest thrown).once
  | await op resume ih => exact fun reply => ⟨ih reply (once reply).1, fun same => ((once reply).2 same).handle rest⟩

theorem Once.first {events : List (Event Reply Thrown)} {op : Op}
    {resume : Except Thrown (Reply op) → Program Reply Thrown α} (once : program.Once kind)
    (follows : program.Follows events (.await op resume)) (same : kind op) : ∀ event ∈ events, ¬ kind event.op := by
  generalize ended : Program.await op resume = rest at follows
  induction follows with
  | here => simp
  | next reply tail ih =>
    intro event member
    rcases List.mem_cons.mp member with rfl | later
    · intro before
      have none_left := ((once reply).2 before).follows tail
      rw [← ended] at none_left
      exact none_left.1 same
    · exact ih (once reply).1 ended event later

end Once

end Program

namespace Lawful

variable {permits : List (Event Reply Thrown) → Op → Prop} {past : List (Event Reply Thrown)}

theorem nil : Lawful permits ([] : List (Event Reply Thrown)) := by
  intro before event after split
  simp at split

theorem snoc {event : Event Reply Thrown} (lawful : Lawful permits past)
    (permitted : permits past event.op) : Lawful permits (past ++ [event]) := by
  intro before other after split
  rcases List.eq_nil_or_concat after with rfl | ⟨front, last, rfl⟩
  · obtain ⟨rfl, same⟩ := List.append_inj' split rfl
    obtain rfl := List.cons.inj same |>.1
    exact permitted
  · rw [List.concat_eq_append, ← List.cons_append, ← List.append_assoc] at split
    exact lawful before other front (List.append_inj' split rfl).1

theorem of_mem {event : Event Reply Thrown} (lawful : Lawful permits past) (member : event ∈ past) :
    ∃ before after, past = before ++ event :: after ∧ permits before event.op := by
  obtain ⟨before, after, split⟩ := List.append_of_mem member
  exact ⟨before, after, split, lawful before event after split⟩

end Lawful
end Async
