import AppGateway.Async.Execution

namespace Async

variable {Op : Type} {Reply : Op → Type} {Thrown State Choice α β : Type}

namespace Program

def UsesButLast (allows : Op → Prop) : Program Reply Thrown α → Prop
  | .done _ => True
  | .await op resume => (allows op ∧ ∀ reply, (resume reply).UsesButLast allows) ∨
      ∀ reply, ∃ outcome, resume reply = .done outcome

def Succeeds : Program Reply Thrown α → Prop
  | .done (.ok _) => True
  | .done (.error _) => False
  | .await _ resume => ∀ value, (resume (.ok value)).Succeeds

section Rules

variable {allows : Op → Prop} {program : Program Reply Thrown α}

theorem Uses.butLast (uses : program.Uses allows) : program.UsesButLast allows := by
  induction program with
  | done => trivial
  | await op resume ih => exact .inl ⟨uses.1, fun reply => ih reply (uses.2 reply)⟩

theorem Uses.bind_butLast {next : α → Program Reply Thrown β} (uses : program.Uses allows)
    (rest : ∀ value, (next value).UsesButLast allows) : (program.bind next).UsesButLast allows := by
  induction program with
  | done outcome =>
    cases outcome with
    | ok value => exact rest value
    | error thrown => trivial
  | await op resume ih => exact .inl ⟨uses.1, fun reply => ih reply (uses.2 reply)⟩

theorem Succeeds.bind {next : α → Program Reply Thrown β} (succeeds : program.Succeeds)
    (rest : ∀ value, (next value).Succeeds) : (program.bind next).Succeeds := by
  induction program with
  | done outcome =>
    cases outcome with
    | ok value => exact rest value
    | error thrown => exact succeeds.elim
  | await op resume ih => exact fun value => ih (.ok value) (succeeds value)

theorem Succeeds.handle (handler : Thrown → Program Reply Thrown α) (succeeds : program.Succeeds) :
    (program.handle handler).Succeeds := by
  induction program with
  | done outcome =>
    cases outcome with
    | ok value => trivial
    | error thrown => exact succeeds.elim
  | await op resume ih => exact fun value => ih (.ok value) (succeeds value)

end Rules

section Executions

variable {exec : (op : Op) → Choice → State → Option (Except Thrown (Reply op) × State)}
  {sound : Choice → Prop} {state after : State}

theorem Completes.succeeds {program : Program Reply Thrown α} {outcome : Except Thrown α}
    (completes : Completes exec sound program state outcome after) (succeeds : program.Succeeds)
    (unfailing : ∀ op choice before thrown later, exec op choice before ≠ some (.error thrown, later)) :
    ∃ value, outcome = .ok value := by
  induction completes with
  | done outcome state =>
    cases outcome with
    | ok value => exact ⟨value, rfl⟩
    | error thrown => exact succeeds.elim
  | @await op resume state middle final reply outcome choice good executed rest ih =>
    cases reply with
    | error thrown => exact absurd executed (unfailing _ _ _ _ _)
    | ok value => exact ih (succeeds value)

/-- The function has come this far on its own: whatever its rest does, it does as a whole. -/
def Comes (exec : (op : Op) → Choice → State → Option (Except Thrown (Reply op) × State)) (sound : Choice → Prop)
    (program : Program Reply Thrown α) (start : State) (rest : Program Reply Thrown α) (state : State) : Prop :=
  ∀ outcome after, Completes exec sound rest state outcome after → Completes exec sound program start outcome after

theorem Comes.refl (program : Program Reply Thrown α) (start : State) :
    Comes exec sound program start program start := fun _ _ completes => completes

theorem Comes.step {program : Program Reply Thrown α} {start : State} {op : Op}
    {resume : Except Thrown (Reply op) → Program Reply Thrown α} {reply : Except Thrown (Reply op)}
    (comes : Comes exec sound program start (.await op resume) state) (choice : Choice) (good : sound choice)
    (executed : exec op choice state = some (reply, after)) : Comes exec sound program start (resume reply) after :=
  fun outcome final completes => comes outcome final (.await choice good executed completes)

theorem Comes.ends {program : Program Reply Thrown α} {start : State} {outcome : Except Thrown α}
    (comes : Comes exec sound program start (.done outcome) state) :
    Completes exec sound program start outcome state := comes outcome state (.done _ _)

end Executions
end Program
end Async
