import AppGateway.Async.Replay

namespace Async.Program

variable {Op : Type} {Reply : Op → Type} {Thrown α β : Type}
  {alike : Event Reply Thrown → Event Reply Thrown → Prop}

/-- Two functions side by side: to every reply of the one there is a reply of the other with which their
    events are alike, and they end with the same outcome. -/
def Lockstep (alike : Event Reply Thrown → Event Reply Thrown → Prop) :
    Program Reply Thrown α → Program Reply Thrown α → Prop
  | .done outcome, .done outcome' => outcome = outcome'
  | .await op resume, .await op' resume' =>
    ∀ reply, ∃ reply', alike ⟨op, reply⟩ ⟨op', reply'⟩ ∧ Lockstep alike (resume reply) (resume' reply')
  | .done _, .await _ _ => False
  | .await _ _, .done _ => False

theorem Lockstep.refl (same : ∀ event, alike event event) (program : Program Reply Thrown α) :
    Lockstep alike program program := by
  induction program with
  | done outcome => rfl
  | await op resume ih => exact fun reply => ⟨reply, same _, ih reply⟩

theorem Lockstep.bind {program program' : Program Reply Thrown α} {next next' : α → Program Reply Thrown β}
    (first : Lockstep alike program program') (rest : ∀ value, Lockstep alike (next value) (next' value)) :
    Lockstep alike (program.bind next) (program'.bind next') := by
  induction program generalizing program' with
  | done outcome =>
    cases program' with
    | done outcome' =>
      obtain rfl : outcome = outcome' := first
      cases outcome with
      | ok value => exact rest value
      | error thrown => rfl
    | await op' resume' => exact first.elim
  | await op resume ih =>
    cases program' with
    | done outcome' => exact first.elim
    | await op' resume' =>
      intro reply
      obtain ⟨reply', same, later⟩ := first reply
      exact ⟨reply', same, ih reply later⟩

theorem Lockstep.handle {program program' : Program Reply Thrown α} {handler : Thrown → Program Reply Thrown α}
    (first : Lockstep alike program program') (rest : ∀ thrown, Lockstep alike (handler thrown) (handler thrown)) :
    Lockstep alike (program.handle handler) (program'.handle handler) := by
  induction program generalizing program' with
  | done outcome =>
    cases program' with
    | done outcome' =>
      obtain rfl : outcome = outcome' := first
      cases outcome with
      | ok value => rfl
      | error thrown => exact rest thrown
    | await op' resume' => exact first.elim
  | await op resume ih =>
    cases program' with
    | done outcome' => exact first.elim
    | await op' resume' =>
      intro reply
      obtain ⟨reply', same, later⟩ := first reply
      exact ⟨reply', same, ih reply later⟩

theorem Lockstep.follows {program program' rest : Program Reply Thrown α} {events : List (Event Reply Thrown)}
    (lockstep : Lockstep alike program program') (follows : program.Follows events rest) :
    ∃ events' rest', program'.Follows events' rest' ∧ List.Forall₂ alike events events' ∧
      Lockstep alike rest rest' := by
  induction follows generalizing program' with
  | here program => exact ⟨[], program', .here _, .nil, lockstep⟩
  | next reply tail ih =>
    cases program' with
    | done outcome' => exact lockstep.elim
    | await op' resume' =>
      obtain ⟨reply', same, later⟩ := lockstep reply
      obtain ⟨events', rest', follows', along, ends⟩ := ih later
      exact ⟨_, rest', .next reply' follows', .cons same along, ends⟩

end Async.Program
