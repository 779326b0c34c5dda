import Mathlib.Data.List.Basic

namespace Async

/-- An async function as the operations it awaits. A rejected promise is an `error` reply,
    and an uncaught one ends the function. -/
inductive Program {Op : Type} (Reply : Op → Type) (Thrown α : Type) : Type where
  | done (outcome : Except Thrown α)
  | await (op : Op) (resume : Except Thrown (Reply op) → Program Reply Thrown α)

structure Event {Op : Type} (Reply : Op → Type) (Thrown : Type) where
  op : Op
  reply : Except Thrown (Reply op)

namespace Program

variable {Op : Type} {Reply : Op → Type} {Thrown α β : Type}

def bind (program : Program Reply Thrown α) (next : α → Program Reply Thrown β) :
    Program Reply Thrown β :=
  match program with
  | .done (.ok value) => next value
  | .done (.error thrown) => .done (.error thrown)
  | .await op resume => .await op fun reply => (resume reply).bind next

def handle (program : Program Reply Thrown α) (handler : Thrown → Program Reply Thrown α) :
    Program Reply Thrown α :=
  match program with
  | .done (.ok value) => .done (.ok value)
  | .done (.error thrown) => handler thrown
  | .await op resume => .await op fun reply => (resume reply).handle handler

instance : Monad (Program Reply Thrown) where
  pure value := .done (.ok value)
  bind := bind

instance : MonadExceptOf Thrown (Program Reply Thrown) where
  throw thrown := .done (.error thrown)
  tryCatch := handle

def perform (op : Op) : Program Reply Thrown (Reply op) := .await op .done

/-- The outcome as a value: what `Promise.allSettled` sees of one promise. -/
def settle : Program Reply Thrown α → Program Reply Thrown (Except Thrown α)
  | .done outcome => .done (.ok outcome)
  | .await op resume => .await op fun reply => (resume reply).settle

/-- `Promise.all` over effects without a value: every one is attempted, the first rejection wins. -/
def all : List (Program Reply Thrown Unit) → Program Reply Thrown Unit
  | [] => .done (.ok ())
  | first :: rest => first.settle.bind fun outcome =>
    match outcome with
    | .ok () => all rest
    | .error thrown => (all rest).settle.bind fun _ => .done (.error thrown)

@[simp] theorem pure_eq (value : α) : (pure value : Program Reply Thrown α) = .done (.ok value) := rfl

@[simp] theorem throw_eq (thrown : Thrown) :
    (throw thrown : Program Reply Thrown α) = .done (.error thrown) := rfl

@[simp] theorem bind_eq (program : Program Reply Thrown α) (next : α → Program Reply Thrown β) :
    (program >>= next) = program.bind next := rfl

@[simp] theorem done_ok_bind (value : α) (next : α → Program Reply Thrown β) :
    (Program.done (.ok value)).bind next = next value := rfl

@[simp] theorem done_error_bind (thrown : Thrown) (next : α → Program Reply Thrown β) :
    (Program.done (.error thrown)).bind next = .done (.error thrown) := rfl

@[simp] theorem await_bind (op : Op) (resume : Except Thrown (Reply op) → Program Reply Thrown α)
    (next : α → Program Reply Thrown β) :
    (Program.await op resume).bind next = .await op fun reply => (resume reply).bind next := rfl

theorem bind_assoc {γ : Type} (program : Program Reply Thrown α)
    (first : α → Program Reply Thrown β) (second : β → Program Reply Thrown γ) :
    (program.bind first).bind second = program.bind fun value => (first value).bind second := by
  induction program with
  | done outcome => cases outcome <;> rfl
  | await op resume ih => simp only [await_bind, ih]

end Program
end Async
