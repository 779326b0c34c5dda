import AppGateway.Async.Trace

namespace Async.Program

variable {Op : Type} {Reply : Op → Type} {Thrown α β : Type}

def embed {Op' : Type} {Reply' : Op' → Type} (inject : Op → Op')
    (back : (op : Op) → Reply' (inject op) → Reply op) : Program Reply Thrown α → Program Reply' Thrown α
  | .done outcome => .done outcome
  | .await op resume => .await (inject op) fun reply => (resume (reply.map (back op))).embed inject back

theorem Uses.embed {Op' : Type} {Reply' : Op' → Type} {inject : Op → Op'}
    {back : (op : Op) → Reply' (inject op) → Reply op} {allows : Op → Prop} {allows' : Op' → Prop}
    {program : Program Reply Thrown α} (uses : program.Uses allows)
    (image : ∀ op, allows op → allows' (inject op)) : (program.embed inject back).Uses allows' := by
  induction program with
  | done outcome => trivial
  | await op resume ih => exact ⟨image op uses.1, fun reply => ih _ (uses.2 _)⟩

/-- The complete history in which every operation gets its answer. -/
def replay (answers : (op : Op) → Except Thrown (Reply op)) :
    Program Reply Thrown α → List (Event Reply Thrown) × Except Thrown α
  | .done outcome => ([], outcome)
  | .await op resume =>
    let rest := replay answers (resume (answers op))
    (⟨op, answers op⟩ :: rest.1, rest.2)

theorem follows_replay (answers : (op : Op) → Except Thrown (Reply op)) (program : Program Reply Thrown α) :
    program.Follows (program.replay answers).1 (.done (program.replay answers).2) := by
  induction program with
  | done outcome => exact .here _
  | await op resume ih => exact .next (answers op) (ih (answers op))

theorem replay_reply (answers : (op : Op) → Except Thrown (Reply op)) (program : Program Reply Thrown α) :
    ∀ event ∈ (program.replay answers).1, event.reply = answers event.op := by
  induction program with
  | done outcome => exact fun _ member => (List.not_mem_nil member).elim
  | await op resume ih =>
    intro event member
    rcases List.mem_cons.mp member with rfl | later
    · rfl
    · exact ih (answers op) event later

section Histories

variable {program : Program Reply Thrown α} {events : List (Event Reply Thrown)}

theorem follows_done {outcome : Except Thrown α} {rest : Program Reply Thrown α} :
    (Program.done outcome : Program Reply Thrown α).Follows events rest ↔ events = [] ∧ rest = .done outcome := by
  constructor
  · intro follows
    cases follows
    exact ⟨rfl, rfl⟩
  · rintro ⟨rfl, rfl⟩
    exact .here _

theorem follows_await {op : Op} {resume : Except Thrown (Reply op) → Program Reply Thrown α}
    {outcome : Except Thrown α} : (Program.await op resume).Follows events (.done outcome) ↔
      ∃ reply later, events = ⟨op, reply⟩ :: later ∧ (resume reply).Follows later (.done outcome) := by
  constructor
  · intro follows
    cases follows with
    | next reply tail => exact ⟨reply, _, rfl, tail⟩
  · rintro ⟨reply, later, rfl, tail⟩
    exact .next reply tail

theorem Follows.bind {next : α → Program Reply Thrown β} {first rest : List (Event Reply Thrown)} {value : α}
    {last : Program Reply Thrown β} (follows : program.Follows first (.done (.ok value)))
    (onward : (next value).Follows rest last) : (program.bind next).Follows (first ++ rest) last := by
  induction program generalizing first with
  | done returned =>
    obtain ⟨rfl, same⟩ := follows_done.mp follows
    cases same
    exact onward
  | await op resume ih =>
    obtain ⟨reply, later, rfl, tail⟩ := follows_await.mp follows
    exact .next reply (ih reply tail)

theorem Follows.handle {rest : Program Reply Thrown α} (follows : program.Follows events rest)
    (handler : Thrown → Program Reply Thrown α) : (program.handle handler).Follows events (rest.handle handler) := by
  induction follows with
  | here => exact .here _
  | next reply tail ih => exact .next reply ih

theorem Follows.bind_cases {next : α → Program Reply Thrown β} {outcome : Except Thrown β}
    (follows : (program.bind next).Follows events (.done outcome)) :
    (∃ first rest value, events = first ++ rest ∧ program.Follows first (.done (.ok value)) ∧
      (next value).Follows rest (.done outcome)) ∨
    ∃ thrown, outcome = .error thrown ∧ program.Follows events (.done (.error thrown)) := by
  induction program generalizing events with
  | done returned =>
    cases returned with
    | ok value => exact .inl ⟨[], events, value, rfl, .here _, follows⟩
    | error thrown =>
      obtain ⟨rfl, same⟩ := follows_done.mp follows
      cases same
      exact .inr ⟨thrown, rfl, .here _⟩
  | await op resume ih =>
    obtain ⟨reply, later, rfl, tail⟩ := follows_await.mp follows
    rcases ih reply tail with ⟨first, rest, value, rfl, before, after⟩ | ⟨thrown, same, before⟩
    · exact .inl ⟨⟨op, reply⟩ :: first, rest, value, rfl, .next reply before, after⟩
    · exact .inr ⟨thrown, same, .next reply before⟩

theorem Follows.handle_cases {handler : Thrown → Program Reply Thrown α} {outcome : Except Thrown α}
    (follows : (program.handle handler).Follows events (.done outcome)) :
    (∃ value, outcome = .ok value ∧ program.Follows events (.done (.ok value))) ∨
    ∃ first rest thrown, events = first ++ rest ∧ program.Follows first (.done (.error thrown)) ∧
      (handler thrown).Follows rest (.done outcome) := by
  induction program generalizing events with
  | done returned =>
    cases returned with
    | ok value =>
      obtain ⟨rfl, same⟩ := follows_done.mp follows
      cases same
      exact .inl ⟨value, rfl, .here _⟩
    | error thrown => exact .inr ⟨[], events, thrown, rfl, .here _, follows⟩
  | await op resume ih =>
    obtain ⟨reply, later, rfl, tail⟩ := follows_await.mp follows
    rcases ih reply tail with ⟨value, same, before⟩ | ⟨first, rest, thrown, rfl, before, after⟩
    · exact .inl ⟨value, same, .next reply before⟩
    · exact .inr ⟨⟨op, reply⟩ :: first, rest, thrown, rfl, .next reply before, after⟩

theorem Follows.determined {first second whole : List (Event Reply Thrown)} {outcome outcome' : Except Thrown α}
    (follows : program.Follows first (.done outcome)) (follows' : program.Follows second (.done outcome'))
    (before : first <+: whole) (before' : second <+: whole) : first = second ∧ outcome = outcome' := by
  induction program generalizing first second whole with
  | done returned =>
    obtain ⟨rfl, same⟩ := follows_done.mp follows
    obtain ⟨rfl, same'⟩ := follows_done.mp follows'
    cases same
    cases same'
    exact ⟨rfl, rfl⟩
  | await op resume ih =>
    obtain ⟨reply, later, rfl, tail⟩ := follows_await.mp follows
    obtain ⟨reply', later', rfl, tail'⟩ := follows_await.mp follows'
    obtain ⟨rest, rfl⟩ := before
    rw [List.cons_append, List.cons_prefix_cons] at before'
    obtain ⟨head, before'⟩ := before'
    cases head
    obtain ⟨rfl, same⟩ := ih reply tail tail' (List.prefix_append later rest) before'
    exact ⟨rfl, same⟩

theorem Follows.uses {allows : Op → Prop} {rest : Program Reply Thrown α} (follows : program.Follows events rest)
    (uses : program.Uses allows) : ∀ event ∈ events, allows event.op := by
  induction follows with
  | here => simp
  | next reply tail ih =>
    intro event member
    rcases List.mem_cons.mp member with rfl | later
    · exact uses.1
    · exact ih (uses.2 reply) event later

theorem Obeys.lawful {permits : List (Event Reply Thrown) → Op → Prop}
    {ends : List (Event Reply Thrown) → Except Thrown α → Prop} {rest : Program Reply Thrown α}
    {past : List (Event Reply Thrown)} (obeys : program.Obeys permits ends past) (lawful : Lawful permits past)
    (follows : program.Follows events rest) : Lawful permits (past ++ events) := by
  induction follows generalizing past with
  | here => simpa using lawful
  | @next op resume events rest reply tail ih =>
    have permit : permits past (⟨op, reply⟩ : Event Reply Thrown).op := obeys.1
    have later := ih (obeys.2 reply) (lawful.snoc permit)
    rwa [List.append_assoc, List.singleton_append] at later

end Histories
end Async.Program
