import AppGateway.Async.Execution

namespace Async

variable {Op : Type} {Reply : Op → Type} {Thrown State Choice α β : Type}

namespace Program

/-- The function runs on its own, each operation with a choice that is `sound` for it, until it ends
    or its process dies in an operation that is `fatal`. The ending is `none` when it has died. -/
inductive Interrupted (exec : (op : Op) → Choice → State → Option (Except Thrown (Reply op) × State))
    (sound : Op → Choice → Prop) (fatal : Op → Prop) :
    Program Reply Thrown α → State → Option (Except Thrown α) → State → Prop where
  | done (outcome) (state) : Interrupted exec sound fatal (.done outcome) state (some outcome) state
  | await {op : Op} {resume : Except Thrown (Reply op) → Program Reply Thrown α} {state middle after}
      {reply : Except Thrown (Reply op)} {ending} (choice : Choice) (survived : ¬ fatal op)
      (good : sound op choice) (executed : exec op choice state = some (reply, middle))
      (rest : Interrupted exec sound fatal (resume reply) middle ending after) :
      Interrupted exec sound fatal (.await op resume) state ending after
  | died {op : Op} {resume : Except Thrown (Reply op) → Program Reply Thrown α} {state after}
      {reply : Except Thrown (Reply op)} (choice : Choice) (killed : fatal op) (good : sound op choice)
      (executed : exec op choice state = some (reply, after)) :
      Interrupted exec sound fatal (.await op resume) state none after

section Rules

variable {exec : (op : Op) → Choice → State → Option (Except Thrown (Reply op) × State)}
  {sound : Op → Choice → Prop} {fatal : Op → Prop} {state after : State}

@[simp] theorem interrupted_done {outcome : Except Thrown α} {ending : Option (Except Thrown α)} :
    Interrupted exec sound fatal (Program.done outcome : Program Reply Thrown α) state ending after ↔
      ending = some outcome ∧ after = state := by
  constructor
  · intro interrupted
    cases interrupted
    exact ⟨rfl, rfl⟩
  · rintro ⟨rfl, rfl⟩
    exact .done _ _

theorem interrupted_await {op : Op} {resume : Except Thrown (Reply op) → Program Reply Thrown α}
    {ending : Option (Except Thrown α)} :
    Interrupted exec sound fatal (.await op resume) state ending after ↔
      ∃ choice reply middle, sound op choice ∧ exec op choice state = some (reply, middle) ∧
        ((fatal op ∧ ending = none ∧ after = middle) ∨
          ¬ fatal op ∧ Interrupted exec sound fatal (resume reply) middle ending after) := by
  constructor
  · intro interrupted
    cases interrupted with
    | await choice survived good executed rest =>
      exact ⟨choice, _, _, good, executed, .inr ⟨survived, rest⟩⟩
    | died choice killed good executed => exact ⟨choice, _, _, good, executed, .inl ⟨killed, rfl, rfl⟩⟩
  · rintro ⟨choice, reply, middle, good, executed, ⟨killed, rfl, rfl⟩ | ⟨survived, rest⟩⟩
    · exact .died choice killed good executed
    · exact .await choice survived good executed rest

theorem Interrupted.invariant {holds : State → Prop} {allows : Op → Prop} {program : Program Reply Thrown α}
    {ending : Option (Except Thrown α)} (interrupted : Interrupted exec sound fatal program state ending after)
    (uses : program.Uses allows) (initial : holds state)
    (preserved : ∀ op choice reply before later, allows op → sound op choice → holds before →
      exec op choice before = some (reply, later) → holds later) : holds after := by
  induction interrupted with
  | done => exact initial
  | await choice _ good executed _ ih =>
    exact ih (uses.2 _) (preserved _ choice _ _ _ uses.1 good initial executed)
  | died choice _ good executed => exact preserved _ choice _ _ _ uses.1 good initial executed

theorem Interrupted.weaken {wider : Op → Choice → Prop} {program : Program Reply Thrown α}
    {ending : Option (Except Thrown α)} (interrupted : Interrupted exec sound fatal program state ending after)
    (implies : ∀ op choice, sound op choice → wider op choice) :
    Interrupted exec wider fatal program state ending after := by
  induction interrupted with
  | done outcome state => exact .done _ _
  | await choice survived good executed _ ih => exact .await choice survived (implies _ _ good) executed ih
  | died choice killed good executed => exact .died choice killed (implies _ _ good) executed

theorem Interrupted.exists {allows : Op → Prop} {program : Program Reply Thrown α} (uses : program.Uses allows)
    (possible : ∀ op state, allows op →
      ∃ choice reply after, sound op choice ∧ exec op choice state = some (reply, after)) (state : State) :
    ∃ ending after, Interrupted exec sound fatal program state ending after := by
  induction program generalizing state with
  | done outcome => exact ⟨some outcome, state, .done _ _⟩
  | await op resume ih =>
    obtain ⟨choice, reply, middle, good, executed⟩ := possible op state uses.1
    by_cases killed : fatal op
    · exact ⟨none, middle, .died choice killed good executed⟩
    · obtain ⟨ending, after, rest⟩ := ih reply (uses.2 reply) middle
      exact ⟨ending, after, .await choice killed good executed rest⟩

end Rules
end Program
end Async
