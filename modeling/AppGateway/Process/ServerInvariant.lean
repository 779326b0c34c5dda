import AppGateway.Lists
import AppGateway.Model.Shutdown
import Mathlib.Tactic.SplitIfs

namespace GatewayProof

open GatewayModel Refinement

inductive ShutdownMoves (clock : Nat) (call : ShutdownCall) :
    ShutdownStage → List ShutdownLog → Option Nat → Prop where
  | timeout (late : call.startedAt + shutdownTimeoutMs ≤ clock) (stage : call.stage = .waiting) :
    ShutdownMoves clock call (.settled false) [.timedOut] none
  | lateTimeout (late : call.startedAt + shutdownTimeoutMs ≤ clock) (stage : call.stage ≠ .waiting) :
    ShutdownMoves clock call call.stage [.timedOut] none
  | resume (stage : call.stage = .settled false) : ShutdownMoves clock call .endingPool [] none
  | reject (stage : call.stage = .settled true) : ShutdownMoves clock call (.settled true) [.unhandledError] (some 1)
  | poolEnded (ok : Bool) (stage : call.stage = .endingPool) :
    ShutdownMoves clock call .quittingRedis [if ok then .poolClosed else .poolError] none
  | redisQuit (ok : Bool) (stage : call.stage = .quittingRedis) :
    ShutdownMoves clock call .complete [if ok then .redisClosed else .redisError, .shutdownComplete] (some 0)

def ServerProcess.moveCall (process : ServerProcess) (index : Nat) (call : ShutdownCall) (stage : ShutdownStage)
    (lines : List ShutdownLog) (code : Option Nat) : ServerProcess :=
  { process with
    calls := process.calls.set index { call with stage }
    log := process.log ++ lines.map (index, ·)
    exitCode := code }

inductive ProcessMoves (process : ServerProcess) : ProcessEvent → ServerProcess → Prop where
  | environment {event : ProcessEvent} (connections : List Connection) (clock : Nat) (later : process.clock ≤ clock)
      (stays : process.listening = false → process.drained → connections.all (· = .ended)) :
    ProcessMoves process event { process with connections, clock }
  | signal (signal : Signal) : ProcessMoves process (.signal signal) (process.handleSignal signal)
  | closed (closing : process.listening = false) (drained : process.drained) :
    ProcessMoves process .closed { process with calls := process.calls.map ShutdownCall.onClosed }
  | call {event : ProcessEvent} {index : Nat} {call : ShutdownCall} {stage : ShutdownStage} {lines : List ShutdownLog}
      {code : Option Nat} (there : process.calls[index]? = some call)
      (moves : ShutdownMoves process.clock call stage lines code) :
    ProcessMoves process event (ServerProcess.moveCall process index call stage lines code)
  | fatal {event : ProcessEvent} (fatal : event = .serverError ∨ event = .unhandledRejection) :
    ProcessMoves process event (process.exit 1)

section Moves

variable {process after : ServerProcess} {event : ProcessEvent}

theorem timeout_moves {index : Nat} (running : process.exitCode = none) (moved : process.timeout index = some after) :
    ProcessMoves process event after := by
  unfold ServerProcess.timeout at moved
  split at moved
  · rename_i call there
    split_ifs at moved with late waiting
    · have move := @ProcessMoves.call process event index call _ _ _ there (.timeout late waiting)
      rw [← Option.some.inj moved]
      simpa [ServerProcess.moveCall, ServerProcess.setStage, ServerProcess.say, running] using move
    · have move := @ProcessMoves.call process event index call _ _ _ there (.lateTimeout late waiting)
      rw [← Option.some.inj moved]
      simpa [ServerProcess.moveCall, ServerProcess.say, running, Lists.set_same there] using move
  · cases moved

theorem resume_moves {index : Nat} (running : process.exitCode = none) (moved : process.resume index = some after) :
    ProcessMoves process event after := by
  unfold ServerProcess.resume at moved
  split at moved
  · rename_i call there
    split at moved
    · rename_i stage
      have move := @ProcessMoves.call process event index call _ _ _ there (.reject stage)
      rw [← Option.some.inj moved]
      simpa [ServerProcess.moveCall, ServerProcess.say, ServerProcess.exit, ← stage, Lists.set_same there] using move
    · rename_i stage
      have move := @ProcessMoves.call process event index call _ _ _ there (.resume stage)
      rw [← Option.some.inj moved]
      simpa [ServerProcess.moveCall, ServerProcess.setStage, running] using move
    · cases moved
  · cases moved

theorem poolEnded_moves {index : Nat} {ok : Bool} (running : process.exitCode = none)
    (moved : process.poolEnded index ok = some after) : ProcessMoves process event after := by
  unfold ServerProcess.poolEnded at moved
  split at moved
  · rename_i call there
    split at moved
    · rename_i stage
      have move := @ProcessMoves.call process event index call _ _ _ there (.poolEnded ok stage)
      rw [← Option.some.inj moved]
      simpa [ServerProcess.moveCall, ServerProcess.setStage, ServerProcess.say, running] using move
    · cases moved
  · cases moved

theorem redisQuit_moves {index : Nat} {ok : Bool} (moved : process.redisQuit index ok = some after) :
    ProcessMoves process event after := by
  unfold ServerProcess.redisQuit at moved
  split at moved
  · rename_i call there
    split at moved
    · rename_i stage
      have move := @ProcessMoves.call process event index call _ _ _ there (.redisQuit ok stage)
      rw [← Option.some.inj moved]
      simpa [ServerProcess.moveCall, ServerProcess.setStage, ServerProcess.say, ServerProcess.exit] using move
    · cases moved
  · cases moved

theorem setConnection_moves {index : Nat} {before later : Connection} (opened : before ≠ .ended)
    (moved : process.setConnection index before later = some after) : ProcessMoves process event after := by
  unfold ServerProcess.setConnection at moved
  split_ifs at moved with there
  rw [← Option.some.inj moved]
  refine .environment _ _ (Nat.le_refl _) fun _ drained => ?_
  have ended := List.all_eq_true.mp drained before (List.mem_of_getElem? there)
  exact absurd (of_decide_eq_true ended) opened

theorem macrotask_moves (running : process.exitCode = none) (moved : process.macrotask event = some after) :
    ProcessMoves process event after := by
  cases event with
  | connect =>
    simp only [ServerProcess.macrotask] at moved
    split_ifs at moved with listening
    rw [← Option.some.inj moved]
    apply ProcessMoves.environment _ _ (Nat.le_refl _)
    intro closing
    rw [listening] at closing
    cases closing
  | request connection => exact setConnection_moves (by decide) moved
  | respond connection => exact setConnection_moves (by decide) moved
  | disconnect connection =>
    simp only [ServerProcess.macrotask] at moved
    split_ifs at moved
    rw [← Option.some.inj moved]
    apply ProcessMoves.environment _ _ (Nat.le_refl _)
    intro _ drained
    rw [List.all_eq_true]
    intro connection member
    rcases List.mem_or_eq_of_mem_set member with earlier | rfl
    · exact List.all_eq_true.mp drained connection earlier
    · rfl
  | elapse ms =>
    rw [← Option.some.inj moved]
    exact .environment _ _ (Nat.le_add_right _ _) fun _ drained => drained
  | signal signal =>
    rw [← Option.some.inj moved]
    exact .signal signal
  | closed =>
    simp only [ServerProcess.macrotask] at moved
    split_ifs at moved with closing
    rw [← Option.some.inj moved]
    exact .closed closing.1 closing.2
  | timeout call => exact timeout_moves running moved
  | resume call => cases moved
  | poolEnded call ok => exact poolEnded_moves running moved
  | redisQuit call ok => exact redisQuit_moves moved
  | serverError =>
    rw [← Option.some.inj moved]
    exact .fatal (.inl rfl)
  | unhandledRejection =>
    rw [← Option.some.inj moved]
    exact .fatal (.inr rfl)

theorem next_running (moved : process.next event = some after) : process.exitCode = none := by
  unfold ServerProcess.next at moved
  split at moved
  · cases moved
  · rename_i exited
    simpa using exited

theorem next_moves (moved : process.next event = some after) : ProcessMoves process event after := by
  have running := next_running moved
  unfold ServerProcess.next at moved
  rw [running] at moved
  simp only [Option.isSome_none, Bool.false_eq_true, if_false] at moved
  split at moved
  · exact resume_moves running moved
  · split at moved
    · cases moved
    · exact macrotask_moves running moved

theorem next_microtask (pending : process.microtasks = true) (moved : process.next event = some after) :
    ∃ index, event = .resume index ∧ process.resume index = some after := by
  have running := next_running moved
  unfold ServerProcess.next at moved
  rw [running] at moved
  simp only [Option.isSome_none, Bool.false_eq_true, if_false] at moved
  split at moved
  · rename_i index
    exact ⟨index, rfl, moved⟩
  · rw [if_pos pending] at moved
    cases moved

end Moves

/-- What holds of the call of `shutdown` for a signal, in a process that has got no other error. -/
structure ShutdownHolds (process : ServerProcess) (index : Nat) (call : ShutdownCall) : Prop where
  late : call.notRunning = true ↔ 0 < index
  first : ∀ first, process.calls[0]? = some first → first.startedAt ≤ call.startedAt
  past : call.startedAt ≤ process.clock
  rejected : call.stage = .settled true → call.notRunning = true ∧ process.drained = true
  moved : call.stage ≠ .waiting → process.drained = true ∨ call.startedAt + shutdownTimeoutMs ≤ process.clock
  own : call.notRunning = true → call.stage ≠ .waiting → call.stage ≠ .settled true →
    call.startedAt + shutdownTimeoutMs ≤ process.clock

inductive Reports (signal : Signal) : ShutdownStage → List ShutdownLog → Prop where
  | waiting : Reports signal .waiting [.receivedSignal signal]
  | settled (rejected : Bool) : Reports signal (.settled rejected) [.receivedSignal signal]
  | rejected : Reports signal (.settled true) [.receivedSignal signal, .unhandledError]
  | endingPool : Reports signal .endingPool [.receivedSignal signal]
  | quittingRedis (pool : Bool) :
    Reports signal .quittingRedis [.receivedSignal signal, if pool then .poolClosed else .poolError]
  | complete (pool redis : Bool) :
    Reports signal .complete [.receivedSignal signal, if pool then .poolClosed else .poolError,
      if redis then .redisClosed else .redisError, .shutdownComplete]

def linesOf (log : List (Nat × ShutdownLog)) (index : Nat) : List ShutdownLog :=
  (log.filter fun entry => entry.1 = index ∧ entry.2 ≠ .timedOut).map (·.2)

structure ServerValid (process : ServerProcess) : Prop where
  listening : process.listening = false ↔ process.calls ≠ []
  calls : ∀ index call, process.calls[index]? = some call → ShutdownHolds process index call
  told : ∀ index call, process.calls[index]? = some call → Reports call.signal call.stage (linesOf process.log index)
  untold : process.exitCode = none → ∀ (index : Nat) (call : ShutdownCall), process.calls[index]? = some call →
    call.stage = .settled true → linesOf process.log index = [.receivedSignal call.signal]
  unfinished : process.exitCode = none → ∀ (index : Nat) (call : ShutdownCall), process.calls[index]? = some call →
    call.stage ≠ .complete
  logged : ∀ entry ∈ process.log, entry.1 < process.calls.length
  exited : ∀ code, process.exitCode = some code → ∃ (index : Nat) (call : ShutdownCall),
    process.calls[index]? = some call ∧
      (code = 0 ∧ call.stage = .complete ∨ code = 1 ∧ call.stage = .settled true)

theorem linesOf_append (log more : List (Nat × ShutdownLog)) (index : Nat) :
    linesOf (log ++ more) index = linesOf log index ++ linesOf more index := by
  simp [linesOf]

theorem linesOf_own (index : Nat) (lines : List ShutdownLog) :
    linesOf (lines.map (index, ·)) index = lines.filter (· ≠ .timedOut) := by
  simp [linesOf, List.filter_map, Function.comp_def]

theorem linesOf_other {index other : Nat} (differs : index ≠ other) (lines : List ShutdownLog) :
    linesOf (lines.map (index, ·)) other = [] := by
  simp [linesOf, differs]

theorem linesOf_unused {process : ServerProcess} (valid : ServerValid process) :
    linesOf process.log process.calls.length = [] := by
  simp only [linesOf, List.map_eq_nil_iff, List.filter_eq_nil_iff]
  intro entry member
  have := valid.logged entry member
  simp only [ne_eq, decide_eq_true_eq, not_and]
  omega

theorem Reports.moves {clock : Nat} {call : ShutdownCall} {stage : ShutdownStage} {lines more : List ShutdownLog}
    {code : Option Nat} (told : Reports call.signal call.stage lines) (moves : ShutdownMoves clock call stage more code)
    (running : call.stage = .settled true → lines = [.receivedSignal call.signal]) :
    Reports call.signal stage (lines ++ more.filter (· ≠ .timedOut)) := by
  cases moves with
  | timeout late here =>
    rw [here] at told
    cases told
    exact .settled false
  | lateTimeout late here => simpa using told
  | resume here =>
    rw [here] at told
    cases told
    exact .endingPool
  | reject here =>
    rw [running here]
    exact .rejected
  | poolEnded ok here =>
    rw [here] at told
    cases told
    cases ok <;> first | exact .quittingRedis true | exact .quittingRedis false
  | redisQuit ok here =>
    rw [here] at told
    cases told with
    | quittingRedis pool =>
      cases ok <;> first | exact .complete pool true | exact .complete pool false

section Preserved

variable {process after : ServerProcess}

theorem ShutdownHolds.later {index : Nat} {call : ShutdownCall} (holds : ShutdownHolds process index call)
    (clock : process.clock ≤ after.clock) (drained : process.drained = true → after.drained = true)
    (starts : ∀ first, after.calls[0]? = some first → ∃ old, process.calls[0]? = some old ∧
      old.startedAt = first.startedAt) :
    ShutdownHolds after index call where
  late := holds.late
  first := by
    intro first there
    obtain ⟨old, before, same⟩ := starts first there
    rw [← same]
    exact holds.first old before
  past := Nat.le_trans holds.past clock
  rejected := fun stage => ⟨(holds.rejected stage).1, drained (holds.rejected stage).2⟩
  moved := by
    intro stage
    rcases holds.moved stage with empty | late
    · exact .inl (drained empty)
    · exact .inr (Nat.le_trans late clock)
  own := fun late waiting rejected => Nat.le_trans (holds.own late waiting rejected) clock

theorem ServerValid.environment (valid : ServerValid process) (running : process.exitCode = none)
    (connections : List Connection) (clock : Nat) (later : process.clock ≤ clock)
    (stays : process.listening = false → process.drained → connections.all (· = .ended)) :
    ServerValid { process with connections, clock } where
  listening := valid.listening
  calls := by
    intro index call there
    have closing : process.listening = false := by
      apply valid.listening.mpr
      intro none
      rw [none] at there
      cases there
    exact (valid.calls index call there).later later (stays closing) fun first there => ⟨first, there, rfl⟩
  told := valid.told
  untold := valid.untold
  unfinished := valid.unfinished
  logged := valid.logged
  exited := by
    intro code exited
    rw [show process.exitCode = some code from exited] at running
    cases running

theorem handleSignal_calls {signal : Signal} {index : Nat} {call : ShutdownCall}
    (there : (process.handleSignal signal).calls[index]? = some call) :
    process.calls[index]? = some call ∨ index = process.calls.length ∧
      call = { signal, startedAt := process.clock, notRunning := !process.listening, stage := .waiting } := by
  simp only [ServerProcess.handleSignal, List.getElem?_append] at there
  split at there
  · exact .inl there
  · have last : index - process.calls.length = 0 := by
      have := (List.getElem?_eq_some_iff.mp there).1
      simp only [List.length_singleton] at this
      omega
    rw [last] at there
    exact .inr ⟨by omega, (Option.some.inj there).symm⟩

theorem ServerValid.signal (valid : ServerValid process) (running : process.exitCode = none) (signal : Signal) :
    ServerValid (process.handleSignal signal) where
  listening := by simp [ServerProcess.handleSignal]
  calls := by
    intro index call there
    rcases handleSignal_calls there with old | ⟨rfl, rfl⟩
    · refine (valid.calls index call old).later (Nat.le_refl _) ?_ ?_
      · intro drained
        simp only [ServerProcess.drained, ServerProcess.handleSignal, List.all_map, List.all_eq_true] at drained ⊢
        intro connection member
        have ended := of_decide_eq_true (drained connection member)
        subst ended
        rfl
      · intro first there
        rcases handleSignal_calls there with old | ⟨empty, rfl⟩
        · exact ⟨first, old, rfl⟩
        · have := (List.getElem?_eq_some_iff.mp old).1
          omega
    · have noneYet : process.calls.length = 0 ↔ process.listening = true := by
        rw [List.length_eq_zero_iff]
        have := valid.listening
        cases open' : process.listening with
        | false => simpa [open'] using this
        | true => simpa [open'] using this
      refine ⟨?_, ?_, Nat.le_refl _, nofun, fun waiting => absurd rfl waiting, fun _ waiting => absurd rfl waiting⟩
      · rw [Nat.pos_iff_ne_zero, ne_eq, noneYet]
        simp
      · intro first there
        rcases handleSignal_calls there with old | ⟨_, rfl⟩
        · exact (valid.calls 0 first old).past
        · exact Nat.le_refl _
  told := by
    intro index call there
    simp only [ServerProcess.handleSignal, linesOf_append]
    rcases handleSignal_calls there with old | ⟨rfl, rfl⟩
    · have other : process.calls.length ≠ index := by
        have := (List.getElem?_eq_some_iff.mp old).1
        omega
      have nothing := linesOf_other other [.receivedSignal signal]
      rw [List.map_singleton] at nothing
      rw [nothing, List.append_nil]
      exact valid.told index call old
    · have own := linesOf_own process.calls.length [.receivedSignal signal]
      rw [List.map_singleton] at own
      rw [linesOf_unused valid, own]
      exact .waiting
  untold := by
    intro _ index call there rejected
    simp only [ServerProcess.handleSignal, linesOf_append]
    rcases handleSignal_calls there with old | ⟨rfl, rfl⟩
    · have other : process.calls.length ≠ index := by
        have := (List.getElem?_eq_some_iff.mp old).1
        omega
      have nothing := linesOf_other other [.receivedSignal signal]
      rw [List.map_singleton] at nothing
      rw [nothing, List.append_nil]
      exact valid.untold running index call old rejected
    · cases rejected
  unfinished := by
    intro _ index call there
    rcases handleSignal_calls there with old | ⟨rfl, rfl⟩
    · exact valid.unfinished running index call old
    · exact nofun
  logged := by
    intro entry member
    simp only [ServerProcess.handleSignal, List.mem_append, List.mem_singleton, List.length_append,
      List.length_singleton] at member ⊢
    rcases member with old | rfl
    · exact Nat.lt_succ_of_lt (valid.logged entry old)
    · omega
  exited := by
    intro code exited
    rw [show process.exitCode = some code from exited] at running
    cases running

theorem onClosed_startedAt (call : ShutdownCall) : call.onClosed.startedAt = call.startedAt := by
  unfold ShutdownCall.onClosed
  split <;> rfl

theorem ServerValid.closed (valid : ServerValid process) (running : process.exitCode = none)
    (drained : process.drained = true) :
    ServerValid { process with calls := process.calls.map ShutdownCall.onClosed } where
  listening := by simpa using valid.listening
  calls := by
    intro index call there
    rw [List.getElem?_map] at there
    obtain ⟨old, before, rfl⟩ := Option.map_eq_some_iff.mp there
    have holds := valid.calls index old before
    have starts : ∀ first, (process.calls.map ShutdownCall.onClosed)[0]? = some first →
        ∃ old, process.calls[0]? = some old ∧ old.startedAt = first.startedAt := by
      intro first there
      rw [List.getElem?_map] at there
      obtain ⟨old, before, rfl⟩ := Option.map_eq_some_iff.mp there
      exact ⟨old, before, (onClosed_startedAt old).symm⟩
    have later : ShutdownHolds { process with calls := process.calls.map ShutdownCall.onClosed } index old :=
      holds.later (Nat.le_refl _) (fun empty => empty) starts
    unfold ShutdownCall.onClosed
    split
    · rename_i waiting
      refine ⟨later.late, later.first, later.past, ?_, fun _ => .inl drained, ?_⟩
      · intro rejected
        injection rejected with late
        exact ⟨late, drained⟩
      · intro late _ accepted
        exact absurd (congrArg ShutdownStage.settled late) accepted
    · exact later
  told := by
    intro index call there
    rw [List.getElem?_map] at there
    obtain ⟨old, before, rfl⟩ := Option.map_eq_some_iff.mp there
    have told := valid.told index old before
    unfold ShutdownCall.onClosed
    split
    · rename_i waiting
      rw [waiting] at told
      generalize linesOf process.log index = lines at told ⊢
      cases told
      exact .settled old.notRunning
    · exact told
  untold := by
    intro _ index call there rejected
    rw [List.getElem?_map] at there
    obtain ⟨old, before, rfl⟩ := Option.map_eq_some_iff.mp there
    have told := valid.told index old before
    unfold ShutdownCall.onClosed at rejected ⊢
    split at rejected
    · rename_i waiting
      rw [if_pos waiting]
      rw [waiting] at told
      generalize linesOf process.log index = lines at told ⊢
      cases told
      rfl
    · rename_i waiting
      rw [if_neg waiting]
      exact valid.untold running index old before rejected
  unfinished := by
    intro _ index call there
    rw [List.getElem?_map] at there
    obtain ⟨old, before, rfl⟩ := Option.map_eq_some_iff.mp there
    unfold ShutdownCall.onClosed
    split
    · exact nofun
    · exact valid.unfinished running index old before
  logged := by simpa using valid.logged
  exited := by
    intro code exited
    rw [show process.exitCode = some code from exited] at running
    cases running

theorem ShutdownHolds.moves {index : Nat} {call : ShutdownCall} {stage : ShutdownStage} {lines : List ShutdownLog}
    {code : Option Nat} (holds : ShutdownHolds process index call)
    (moves : ShutdownMoves process.clock call stage lines code) :
    ShutdownHolds process index { call with stage } := by
  refine ⟨holds.late, holds.first, holds.past, ?_, ?_, ?_⟩
  · intro rejected
    cases moves with
    | timeout => cases rejected
    | lateTimeout => exact holds.rejected rejected
    | reject here => exact holds.rejected here
    | resume => cases rejected
    | poolEnded => cases rejected
    | redisQuit => cases rejected
  · intro _
    cases moves with
    | timeout late => exact .inr late
    | lateTimeout late => exact .inr late
    | resume here => exact holds.moved (by rw [here]; decide)
    | reject here => exact holds.moved (by rw [here]; decide)
    | poolEnded ok here => exact holds.moved (by rw [here]; decide)
    | redisQuit ok here => exact holds.moved (by rw [here]; decide)
  · intro late _ accepted
    cases moves with
    | timeout expired => exact expired
    | lateTimeout expired => exact expired
    | resume here => exact holds.own late (by rw [here]; decide) (by rw [here]; decide)
    | reject here => exact absurd rfl accepted
    | poolEnded ok here => exact holds.own late (by rw [here]; decide) (by rw [here]; decide)
    | redisQuit ok here => exact holds.own late (by rw [here]; decide) (by rw [here]; decide)

theorem ShutdownMoves.exits {clock : Nat} {call : ShutdownCall} {stage : ShutdownStage} {lines : List ShutdownLog}
    {code : Nat} (moves : ShutdownMoves clock call stage lines (some code)) :
    code = 0 ∧ stage = .complete ∨ code = 1 ∧ stage = .settled true := by
  cases moves with
  | reject => exact .inr ⟨rfl, rfl⟩
  | redisQuit => exact .inl ⟨rfl, rfl⟩

theorem ServerValid.call (valid : ServerValid process) (running : process.exitCode = none) {index : Nat}
    {call : ShutdownCall} {stage : ShutdownStage} {lines : List ShutdownLog} {code : Option Nat}
    (there : process.calls[index]? = some call) (moves : ShutdownMoves process.clock call stage lines code) :
    ServerValid (ServerProcess.moveCall process index call stage lines code) where
  listening := by simpa [ServerProcess.moveCall] using valid.listening
  calls := by
    have starts : ∀ first, (process.calls.set index { call with stage })[0]? = some first →
        ∃ old, process.calls[0]? = some old ∧ old.startedAt = first.startedAt := by
      intro first there'
      rcases Lists.set_cases there' with ⟨rfl, rfl⟩ | ⟨_, old⟩
      · exact ⟨call, there, rfl⟩
      · exact ⟨first, old, rfl⟩
    intro other found there'
    rcases Lists.set_cases there' with ⟨rfl, rfl⟩ | ⟨_, old⟩
    · exact ((valid.calls other call there).moves moves).later (Nat.le_refl _) (fun empty => empty) starts
    · exact (valid.calls other found old).later (Nat.le_refl _) (fun empty => empty) starts
  told := by
    intro other found there'
    simp only [ServerProcess.moveCall, linesOf_append]
    rcases Lists.set_cases there' with ⟨rfl, rfl⟩ | ⟨differs, old⟩
    · rw [linesOf_own]
      exact (valid.told other call there).moves moves (valid.untold running other call there)
    · rw [linesOf_other (Ne.symm differs), List.append_nil]
      exact valid.told other found old
  untold := by
    intro quiet other found there' rejected
    simp only [ServerProcess.moveCall, linesOf_append] at quiet ⊢
    rcases Lists.set_cases there' with ⟨rfl, rfl⟩ | ⟨differs, old⟩
    · rw [linesOf_own]
      cases moves with
      | lateTimeout late here =>
        have told := valid.untold running other call there rejected
        simpa using told
      | reject => cases quiet
      | timeout => cases rejected
      | resume => cases rejected
      | poolEnded => cases rejected
      | redisQuit => cases rejected
    · rw [linesOf_other (Ne.symm differs), List.append_nil]
      exact valid.untold running other found old rejected
  unfinished := by
    intro quiet other found there' finished
    rcases Lists.set_cases there' with ⟨rfl, rfl⟩ | ⟨_, old⟩
    · cases moves with
      | lateTimeout => exact valid.unfinished running other call there finished
      | redisQuit => cases quiet
      | timeout => cases finished
      | resume => cases finished
      | reject => cases finished
      | poolEnded => cases finished
    · exact valid.unfinished running other found old finished
  logged := by
    intro entry member
    simp only [ServerProcess.moveCall, List.mem_append, List.mem_map, List.length_set] at member ⊢
    rcases member with old | ⟨line, _, rfl⟩
    · exact valid.logged entry old
    · exact (List.getElem?_eq_some_iff.mp there).1
  exited := by
    intro code' exited
    have inside := (List.getElem?_eq_some_iff.mp there).1
    simp only [ServerProcess.moveCall] at exited
    subst exited
    refine ⟨index, { call with stage }, ?_, moves.exits⟩
    simp [ServerProcess.moveCall, inside]

theorem ServerValid.next {event : ProcessEvent} (valid : ServerValid process)
    (benign : event ≠ .serverError ∧ event ≠ .unhandledRejection) (moved : process.next event = some after) :
    ServerValid after := by
  have running := next_running moved
  cases next_moves moved with
  | environment connections clock later stays => exact valid.environment running connections clock later stays
  | signal signal => exact valid.signal running signal
  | closed closing drained => exact valid.closed running drained
  | call there moves => exact valid.call running there moves
  | fatal fatal => exact absurd fatal (by simp [benign])

end Preserved

def Benign (labels : List ProcessEvent) : Prop := .serverError ∉ labels ∧ .unhandledRejection ∉ labels

theorem ServerValid.fresh (clock : Nat) : ServerValid (.fresh clock) where
  listening := by simp [ServerProcess.fresh]
  calls := by simp [ServerProcess.fresh]
  told := by simp [ServerProcess.fresh]
  untold := by simp [ServerProcess.fresh]
  unfinished := by simp [ServerProcess.fresh]
  logged := by simp [ServerProcess.fresh]
  exited := by simp [ServerProcess.fresh]

theorem ServerValid.runs {first last : ServerProcess} {labels : List ProcessEvent} (initial : serverMachine.start first)
    (ran : serverMachine.Runs first labels last) (benign : Benign labels) : ServerValid last := by
  induction ran with
  | refl =>
    obtain ⟨clock, rfl⟩ := initial
    exact .fresh clock
  | snoc runs moved ih =>
    simp only [Benign, List.mem_append, List.mem_singleton, not_or] at benign
    exact (ih ⟨benign.1.1, benign.2.1⟩).next ⟨Ne.symm benign.1.2, Ne.symm benign.2.2⟩ moved

theorem ServerValid.first_call {process : ServerProcess} {index : Nat} {call : ShutdownCall}
    (valid : ServerValid process)
    (there : process.calls[index]? = some call) :
    ∃ first, process.calls[0]? = some first ∧ first.startedAt ≤ call.startedAt := by
  have inside := (List.getElem?_eq_some_iff.mp there).1
  have found : process.calls[0]? = some process.calls[0] := List.getElem?_eq_getElem (by omega)
  exact ⟨_, found, (valid.calls index call there).first _ found⟩

/-- The server has been given its time: no connection is left, or ten seconds are over since the first signal. -/
def Awaited (process : ServerProcess) : Prop :=
  process.drained = true ∨
    ∃ first, process.calls[0]? = some first ∧ first.startedAt + shutdownTimeoutMs ≤ process.clock

theorem ServerValid.awaited {process : ServerProcess} {index : Nat} {call : ShutdownCall} (valid : ServerValid process)
    (there : process.calls[index]? = some call) (moved : call.stage ≠ .waiting) : Awaited process := by
  obtain ⟨first, found, earlier⟩ := valid.first_call there
  rcases (valid.calls index call there).moved moved with drained | late
  · exact .inl drained
  · exact .inr ⟨first, found, by omega⟩

end GatewayProof
