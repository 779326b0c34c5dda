import AppGateway.Async.System
import AppGateway.Lists

namespace Async

variable {Op : Type} {Reply : Op → Type} {Thrown State State' Choice Choice' External External' : Type}
  {Call Call' Out Out' : Type}

def Program.mapped (out : Out' → Out) (program : Program Reply Thrown Out') : Program Reply Thrown Out :=
  program.bind fun value => .done (.ok (out value))

theorem Program.mapped_id (program : Program Reply Thrown Out) : program.mapped id = program := by
  induction program with
  | done outcome => cases outcome <;> rfl
  | await op resume ih => simpa only [mapped, await_bind, await.injEq, heq_eq_eq, true_and] using funext ih

theorem Program.mapped_eq_await {out : Out' → Out} {program : Program Reply Thrown Out'} {op : Op}
    {resume : Except Thrown (Reply op) → Program Reply Thrown Out} (waits : program.mapped out = .await op resume) :
    ∃ resume', program = .await op resume' ∧ ∀ reply, resume reply = (resume' reply).mapped out := by
  cases program with
  | done outcome' => cases outcome' <;> cases waits
  | await op resume' =>
    cases waits
    exact ⟨resume', rfl, fun _ => rfl⟩

def Label.under (call : Call → Call') (choice : Choice → Choice') (event : External → External') :
    Label Choice External Call → Label Choice' External' Call'
  | .call made => .call (call made)
  | .step index chosen => .step index (choice chosen)
  | .crash index => .crash index
  | .external happened => .external (event happened)

structure Thread.Mirrors (touches : Op → Prop) (call : Call → Call') (out : Out' → Out)
    (low : Thread Reply Thrown Call Out) (high : Thread Reply Thrown Call' Out') : Prop where
  call : high.call = call low.call
  past : high.past = low.past
  program : low.program = high.program.mapped out
  alive : high.alive = low.alive
  uses : high.program.Uses touches

/-- The calls of the one system, where they are `good`, run the functions of the other, and an operation that these
    functions use does to its state what it does to the other's. -/
structure System.Realizes (low : System Reply Thrown State Choice External Call Out)
    (high : System Reply Thrown State' Choice' External' Call' Out') (good : Call → Prop) (touches : Op → Prop)
    (call : Call → Call') (choice : Choice → Choice') (event : External → External') (out : Out' → Out)
    (refines : State → State' → Prop) : Prop where
  uses : ∀ made, good made → (high.code (call made)).Uses touches
  code : ∀ made, good made → low.code made = (high.code (call made)).mapped out
  exec : ∀ op chosen state state' reply after, touches op → refines state state' →
    low.exec op chosen state = some (reply, after) → ∃ after',
      high.exec op (choice chosen) state' = some (reply, after') ∧ refines after after'
  external : ∀ happened state state', refines state state' →
    refines (low.external happened state) (high.external (event happened) state')

structure Config.Mirrors (touches : Op → Prop) (call : Call → Call') (out : Out' → Out)
    (refines : State → State' → Prop)
    (low : Config Reply Thrown State Call Out) (high : Config Reply Thrown State' Call' Out') : Prop where
  threads : List.Forall₂ (Thread.Mirrors touches call out) low.threads high.threads
  state : refines low.state high.state

namespace System.Realizes

variable {low : System Reply Thrown State Choice External Call Out}
  {high : System Reply Thrown State' Choice' External' Call' Out'} {good : Call → Prop} {touches : Op → Prop}
  {call : Call → Call'} {choice : Choice → Choice'} {event : External → External'} {out : Out' → Out}
  {refines : State → State' → Prop}
  {config after : Config Reply Thrown State Call Out} {config' : Config Reply Thrown State' Call' Out'}

theorem advance (realizes : low.Realizes high good touches call choice event out refines) {chosen : Choice}
    {state later : State} {state' : State'} {thread moved : Thread Reply Thrown Call Out}
    {thread' : Thread Reply Thrown Call' Out'} (mirrors : thread.Mirrors touches call out thread')
    (related : refines state state')
    (advanced : low.advance chosen state thread = some (moved, later)) :
    ∃ moved' later', high.advance (choice chosen) state' thread' = some (moved', later') ∧
      moved.Mirrors touches call out moved' ∧ refines later later' := by
  obtain ⟨op, resume, reply, alive, program, executed, rfl⟩ := advance_cases advanced
  obtain ⟨resume', program', tails⟩ := Program.mapped_eq_await (mirrors.program.symm.trans program)
  have uses := mirrors.uses
  rw [program'] at uses
  obtain ⟨later', performed, still⟩ := realizes.exec op chosen state state' reply later uses.1 related executed
  have alive' : thread'.alive = true := mirrors.alive.trans alive
  refine ⟨{ thread' with past := thread'.past ++ [⟨op, reply⟩], program := resume' reply }, later', ?_, ?_, still⟩
  · simp only [System.advance, alive', program', performed]
  · exact ⟨mirrors.call, congrArg (· ++ [⟨op, reply⟩]) mirrors.past, tails reply, mirrors.alive, uses.2 reply⟩

theorem next (realizes : low.Realizes high good touches call choice event out refines)
    (mirrors : config.Mirrors touches call out refines config') {label : Label Choice External Call}
    (allowed : ∀ made, label = .call made → good made) (moved : low.next config label = some after) :
    ∃ after', high.next config' (label.under call choice event) = some after' ∧
      after.Mirrors touches call out refines after' := by
  rcases next_cases moved with ⟨made, rfl, rfl⟩ | ⟨index, chosen, thread, advanced, state, rfl, there, stepped, rfl⟩ |
    ⟨index, thread, rfl, there, rfl⟩ | ⟨happened, rfl, rfl⟩
  · refine ⟨_, rfl, ?_, mirrors.state⟩
    apply List.rel_append mirrors.threads
    exact .cons ⟨rfl, rfl, realizes.code made (allowed made rfl), rfl, realizes.uses made (allowed made rfl)⟩ .nil
  · obtain ⟨thread', there', same⟩ := Lists.forall₂_getElem? mirrors.threads there
    obtain ⟨moved', later', advanced', same', still⟩ := realizes.advance same mirrors.state stepped
    refine ⟨{ state := later', threads := config'.threads.set index moved' }, ?_, ?_, still⟩
    · simp only [Label.under, System.next, there', advanced']
    · exact Lists.forall₂_set mirrors.threads same' index
  · obtain ⟨thread', there', same⟩ := Lists.forall₂_getElem? mirrors.threads there
    have stopped : Thread.Mirrors touches call out { thread with alive := false } { thread' with alive := false } :=
      ⟨same.call, same.past, same.program, rfl, same.uses⟩
    refine ⟨{ config' with threads := config'.threads.set index { thread' with alive := false } },
      ?_, ?_, mirrors.state⟩
    · simp only [Label.under, System.next, there']
    · exact Lists.forall₂_set mirrors.threads stopped index
  · exact ⟨_, rfl, mirrors.threads, realizes.external happened _ _ mirrors.state⟩

theorem run (realizes : low.Realizes high good touches call choice event out refines)
    {labels : List (Label Choice External Call)}
    (allowed : ∀ made, Label.call made ∈ labels → good made) (mirrors : config.Mirrors touches call out refines config')
    (ran : low.run labels config = some after) :
    ∃ after', high.run (labels.map (Label.under call choice event)) config' = some after' ∧
      after.Mirrors touches call out refines after' := by
  induction labels generalizing config config' with
  | nil =>
    cases ran
    exact ⟨config', rfl, mirrors⟩
  | cons label labels ih =>
    simp only [System.run] at ran
    split at ran
    · rename_i middle moved
      obtain ⟨middle', moved', mirrors'⟩ :=
        realizes.next mirrors (fun made same => allowed made (by rw [same]; exact List.mem_cons_self ..)) moved
      obtain ⟨after', rest, ends⟩ := ih (fun made inside => allowed made (List.mem_cons_of_mem _ inside)) mirrors' ran
      refine ⟨after', ?_, ends⟩
      simp only [List.map_cons, System.run, moved', rest]
    · cases ran

end System.Realizes
end Async
