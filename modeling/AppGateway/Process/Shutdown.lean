import Mathlib.Algebra.GroupWithZero.Nat
import AppGateway.Process.ServerInvariant

namespace GatewayProof

open GatewayModel Refinement

theorem not_drained {process : ServerProcess} (busy : .busy ∈ process.connections) : process.drained ≠ true := by
  intro drained
  have ended := List.all_eq_true.mp drained _ busy
  cases of_decide_eq_true ended

/-- An exit cuts no request off, but for those that are in flight ten seconds after the first signal; then the exit code
    is 0. -/
theorem exit_cuts_off_late {first last : ServerProcess} {labels : List ProcessEvent} {code : Nat}
    (initial : serverMachine.start first) (ran : serverMachine.Runs first labels last) (benign : Benign labels)
    (exited : last.exitCode = some code) (busy : .busy ∈ last.connections) :
    code = 0 ∧ ∃ call, last.calls[0]? = some call ∧ call.startedAt + shutdownTimeoutMs ≤ last.clock := by
  have valid := ServerValid.runs initial ran benign
  obtain ⟨index, call, there, ⟨rfl, complete⟩ | ⟨rfl, rejected⟩⟩ := valid.exited code exited
  · have awaited := valid.awaited there (by rw [complete]; decide)
    exact ⟨rfl, awaited.resolve_left (not_drained busy)⟩
  · have drained := ((valid.calls index call there).rejected rejected).2
    exact absurd drained (not_drained busy)

def stuckRequest : List ProcessEvent :=
  [.connect, .elapse 250, .signal .SIGTERM, .elapse 10000, .timeout 0, .resume 0, .poolEnded 0 true, .redisQuit 0 true]

theorem runs_of_follow {labels : List ProcessEvent} {clock : Nat} {last : ServerProcess}
    (followed : follow ServerProcess.next labels (.fresh clock) = some last) :
    serverMachine.Runs (.fresh clock) labels last :=
  Machine.Runs.of_follow (fun _ _ _ moved => moved) followed

theorem exit_cuts_off_late_stuck :
    ∃ last, follow ServerProcess.next stuckRequest (.fresh 0) = some last ∧ .busy ∈ last.connections ∧
      ∃ call, last.calls[0]? = some call ∧ call.startedAt + shutdownTimeoutMs ≤ last.clock := by
  obtain ⟨last, followed⟩ := Option.isSome_iff_exists.mp
    (show (follow ServerProcess.next stuckRequest (.fresh 0)).isSome = true by decide +kernel)
  have passed : (follow ServerProcess.next stuckRequest (.fresh 0)).any
      (fun last => last.exitCode = some 0 ∧ .busy ∈ last.connections) = true := by decide +kernel
  rw [followed] at passed
  obtain ⟨exited, busy⟩ := of_decide_eq_true passed
  exact ⟨last, followed, busy,
    (exit_cuts_off_late ⟨0, rfl⟩ (runs_of_follow followed) ⟨by decide, by decide⟩ exited busy).2⟩

/-! The order of the teardown -/

theorem ServerValid.torn_down_after {process : ServerProcess} {index : Nat} {line : ShutdownLog}
    (valid : ServerValid process) (logged : (index, line) ∈ process.log)
    (teardown : line ≠ .timedOut ∧ line ≠ .unhandledError ∧ ∀ signal, line ≠ .receivedSignal signal) :
    Awaited process := by
  have inside := valid.logged _ logged
  have there : process.calls[index]? = some process.calls[index] := List.getElem?_eq_getElem inside
  have reports := valid.told index _ there
  have listed : line ∈ linesOf process.log index :=
    List.mem_map.mpr ⟨(index, line), List.mem_filter.mpr ⟨logged, by simp [teardown.1]⟩, rfl⟩
  apply valid.awaited there
  intro waiting
  rw [waiting] at reports
  generalize linesOf process.log index = lines at reports listed
  cases reports
  exact teardown.2.2 _ (List.mem_singleton.mp listed)

/-- Neither the pool nor Redis is closed before the requests have had their time, and the process exits with 0 only when
    it has come to the end of closing the pool and then Redis. -/
theorem teardown_in_order {first last : ServerProcess} {labels : List ProcessEvent}
    (initial : serverMachine.start first) (ran : serverMachine.Runs first labels last) (benign : Benign labels) :
    (∀ index line, (index, line) ∈ last.log →
      line = .poolClosed ∨ line = .poolError ∨ line = .redisClosed ∨ line = .redisError → Awaited last) ∧
    (last.exitCode = some 0 → ∃ (index : Nat) (signal : Signal) (pool redis : Bool), linesOf last.log index =
      [.receivedSignal signal, if pool then .poolClosed else .poolError,
        if redis then .redisClosed else .redisError, .shutdownComplete]) := by
  have valid := ServerValid.runs initial ran benign
  constructor
  · intro index line logged teardown
    apply valid.torn_down_after logged
    rcases teardown with rfl | rfl | rfl | rfl <;> simp
  · intro exited
    obtain ⟨index, call, there, ⟨_, complete⟩ | ⟨wrong, _⟩⟩ := valid.exited 0 exited
    · have reports := valid.told index call there
      rw [complete] at reports
      generalize told : linesOf last.log index = lines at reports
      cases reports with
      | complete pool redis => exact ⟨index, call.signal, pool, redis, told⟩
    · cases wrong

theorem teardown_in_order_stuck :
    ∃ last, follow ServerProcess.next stuckRequest (.fresh 0) = some last ∧
      ∃ (index : Nat) (signal : Signal) (pool redis : Bool), linesOf last.log index =
        [.receivedSignal signal, if pool then .poolClosed else .poolError,
          if redis then .redisClosed else .redisError, .shutdownComplete] := by
  obtain ⟨last, followed⟩ := Option.isSome_iff_exists.mp
    (show (follow ServerProcess.next stuckRequest (.fresh 0)).isSome = true by decide +kernel)
  have exited : (follow ServerProcess.next stuckRequest (.fresh 0)).any (·.exitCode = some 0) = true := by
    decide +kernel
  rw [followed] at exited
  exact ⟨last, followed,
    (teardown_in_order ⟨0, rfl⟩ (runs_of_follow followed) ⟨by decide, by decide⟩).2 (of_decide_eq_true exited)⟩

/-! A second signal -/

def Rejecting (process : ServerProcess) : Prop :=
  ∃ (index : Nat) (call : ShutdownCall), process.calls[index]? = some call ∧ call.stage = .settled true

theorem Rejecting.pending {process : ServerProcess} (rejecting : Rejecting process) : process.microtasks = true := by
  obtain ⟨index, call, there, stage⟩ := rejecting
  apply List.any_eq_true.mpr
  exact ⟨call, List.mem_of_getElem? there, by rw [stage]; rfl⟩

theorem Rejecting.next {process after : ServerProcess} {event : ProcessEvent} (rejecting : Rejecting process)
    (moved : process.next event = some after) : Rejecting after ∧ after.exitCode ≠ some 0 := by
  have running := next_running moved
  obtain ⟨turn, rfl, resumed⟩ := next_microtask rejecting.pending moved
  obtain ⟨index, call, there, stage⟩ := rejecting
  unfold ServerProcess.resume at resumed
  split at resumed
  · rename_i other found
    split at resumed
    · rw [← Option.some.inj resumed]
      exact ⟨⟨index, call, there, stage⟩, by simp [ServerProcess.exit]⟩
    · rename_i accepted
      rw [← Option.some.inj resumed]
      refine ⟨⟨index, call, ?_, stage⟩, by simp [ServerProcess.setStage, running]⟩
      have differs : turn ≠ index := by
        rintro rfl
        obtain rfl := Option.some.inj (there.symm.trans found)
        rw [stage] at accepted
        cases accepted
      simpa [ServerProcess.setStage, List.getElem?_set, differs] using there
    · cases resumed
  · cases resumed

theorem Rejecting.runs {first last : ServerProcess} {labels : List ProcessEvent} (rejecting : Rejecting first)
    (quiet : first.exitCode ≠ some 0) (ran : serverMachine.Runs first labels last) :
    Rejecting last ∧ last.exitCode ≠ some 0 := by
  induction ran with
  | refl => exact ⟨rejecting, quiet⟩
  | snoc _ moved ih => exact ih.1.next moved

def ClosedOnLate (first : ServerProcess) (labels : List ProcessEvent) (last : ServerProcess) : Prop :=
  ∃ before rest middle after, labels = before ++ .closed :: rest ∧ serverMachine.Runs first before middle ∧
    middle.next .closed = some after ∧ serverMachine.Runs after rest last ∧
    ∃ index call, 0 < index ∧ middle.calls[index]? = some call ∧ call.stage = .waiting

theorem ClosedOnLate.snoc {first middle last : ServerProcess} {labels : List ProcessEvent} {label : ProcessEvent}
    (closed : ClosedOnLate first labels middle) (moved : middle.next label = some last) :
    ClosedOnLate first (labels ++ [label]) last := by
  obtain ⟨before, rest, at', after, rfl, earlier, closing, later, waiting⟩ := closed
  exact ⟨before, rest ++ [label], at', after, by simp, earlier, closing, later.snoc moved, waiting⟩

theorem Rejecting.closed {first last : ServerProcess} {labels : List ProcessEvent} (initial : serverMachine.start first)
    (ran : serverMachine.Runs first labels last) (benign : Benign labels) (rejecting : Rejecting last) :
    ClosedOnLate first labels last := by
  induction ran with
  | refl =>
    obtain ⟨clock, rfl⟩ := initial
    obtain ⟨index, call, there, _⟩ := rejecting
    simp [ServerProcess.fresh] at there
  | @snoc labels middle last label runs moved ih =>
    simp only [Benign, List.mem_append, List.mem_singleton, not_or] at benign
    have calm : Benign labels := ⟨benign.1.1, benign.2.1⟩
    have valid := ServerValid.runs initial runs calm
    have earlier : Rejecting middle → ClosedOnLate first (labels ++ [label]) last :=
      fun rejecting => (ih calm rejecting).snoc moved
    obtain ⟨index, call, there, stage⟩ := rejecting
    cases next_moves moved with
    | environment => exact earlier ⟨index, call, there, stage⟩
    | signal signal =>
      rcases handleSignal_calls there with old | ⟨_, rfl⟩
      · exact earlier ⟨index, call, old, stage⟩
      · cases stage
    | closed closing drained =>
      simp only [List.getElem?_map] at there
      obtain ⟨old, before, rfl⟩ := Option.map_eq_some_iff.mp there
      by_cases waiting : old.stage = .waiting
      · rw [ShutdownCall.onClosed, if_pos waiting] at stage
        injection stage with late
        have second := (valid.calls index old before).late.mp late
        exact ⟨labels, [], middle, _, rfl, runs, moved, .refl, index, old, second, before, waiting⟩
      · rw [ShutdownCall.onClosed, if_neg waiting] at stage
        exact earlier ⟨index, old, before, stage⟩
    | call found moves =>
      rcases Lists.set_cases there with ⟨rfl, rfl⟩ | ⟨_, old⟩
      · cases moves with
        | lateTimeout => exact earlier ⟨_, _, found, stage⟩
        | reject here => exact earlier ⟨_, _, found, here⟩
        | timeout => cases stage
        | resume => cases stage
        | poolEnded => cases stage
        | redisQuit => cases stage
      · exact earlier ⟨index, call, old, stage⟩
    | fatal => exact earlier ⟨index, call, there, stage⟩

theorem closed_rejects {first middle after : ServerProcess} {labels : List ProcessEvent} {index : Nat}
    {call : ShutdownCall} (initial : serverMachine.start first) (ran : serverMachine.Runs first labels middle)
    (benign : Benign labels) (late : 0 < index) (there : middle.calls[index]? = some call)
    (waiting : call.stage = .waiting) (closing : middle.next .closed = some after) :
    Rejecting after ∧ after.exitCode = none := by
  have valid := ServerValid.runs initial ran benign
  have running := next_running closing
  have second := (valid.calls index call there).late.mpr late
  cases pending : middle.microtasks with
  | true =>
    obtain ⟨_, wrong, _⟩ := next_microtask pending closing
    cases wrong
  | false =>
    simp only [ServerProcess.next, running, pending, ServerProcess.macrotask] at closing
    simp only [Option.isSome_none, Bool.false_eq_true, if_false] at closing
    split at closing
    · rw [← Option.some.inj closing]
      refine ⟨⟨index, call.onClosed, by simp [there], ?_⟩, rfl⟩
      rw [ShutdownCall.onClosed, if_pos waiting]
      exact congrArg ShutdownStage.settled second
    · cases closing

/-- A process that is told to stop once exits with 0. It exits with 1 in the runs, and only in those, in which the
    server closes while a second signal waits for it; what the first signal has begun is then given up. -/
theorem exit_one_iff_second_signal {first last : ServerProcess} {labels : List ProcessEvent} {code : Nat}
    (initial : serverMachine.start first) (ran : serverMachine.Runs first labels last) (benign : Benign labels)
    (exited : last.exitCode = some code) :
    (code = 1 ↔ ClosedOnLate first labels last) ∧ (code ≠ 1 → code = 0) := by
  have valid := ServerValid.runs initial ran benign
  obtain ⟨index, call, there, ended⟩ := valid.exited code exited
  refine ⟨⟨?_, ?_⟩, ?_⟩
  · rintro rfl
    rcases ended with ⟨wrong, _⟩ | ⟨_, rejected⟩
    · cases wrong
    · exact Rejecting.closed initial ran benign ⟨index, call, there, rejected⟩
  · rintro ⟨before, rest, middle, after, rfl, earlier, closing, later, second, waiter, late, found, waiting⟩
    have calm : Benign before := by
      simp only [Benign, List.mem_append, not_or] at benign
      exact ⟨benign.1.1, benign.2.1⟩
    obtain ⟨rejecting, running⟩ := closed_rejects initial earlier calm late found waiting closing
    have nonzero := (rejecting.runs (by simp [running]) later).2
    rcases ended with ⟨rfl, _⟩ | ⟨same, _⟩
    · exact absurd exited nonzero
    · exact same
  · intro differs
    rcases ended with ⟨same, _⟩ | ⟨same, _⟩
    · exact same
    · exact absurd same differs

def impatientSignals : List ProcessEvent :=
  [.connect, .signal .SIGTERM, .elapse 900, .signal .SIGINT, .disconnect 0, .closed, .resume 0, .resume 1]

theorem exit_one_iff_second_signal_impatient :
    ∃ last, follow ServerProcess.next impatientSignals (.fresh 0) = some last ∧ last.exitCode = some 1 ∧
      ClosedOnLate (.fresh 0) impatientSignals last := by
  obtain ⟨last, followed⟩ := Option.isSome_iff_exists.mp
    (show (follow ServerProcess.next impatientSignals (.fresh 0)).isSome = true by decide +kernel)
  have exited : (follow ServerProcess.next impatientSignals (.fresh 0)).any (·.exitCode = some 1) = true := by
    decide +kernel
  rw [followed] at exited
  have one := of_decide_eq_true exited
  exact ⟨last, followed, one,
    (exit_one_iff_second_signal ⟨0, rfl⟩ (runs_of_follow followed) ⟨by decide, by decide⟩ one).1.mp rfl⟩

/-! A stop never hangs on the requests -/

def Unaided (pool redis : Bool) : ProcessEvent → Bool
  | .elapse _ | .timeout _ | .resume _ => true
  | .poolEnded _ ok => ok == pool
  | .redisQuit _ ok => ok == redis
  | _ => false

def timeTaken (labels : List ProcessEvent) : Nat :=
  (labels.map fun label => match label with
    | .elapse ms => ms
    | _ => 0).sum

def Exits (pool redis : Bool) (process : ServerProcess) (time : Nat) : Prop :=
  ∃ labels last, serverMachine.Runs process labels last ∧ last.exitCode.isSome = true ∧
    labels.all (Unaided pool redis) = true ∧ timeTaken labels ≤ time

structure FirstAt (process : ServerProcess) (call : ShutdownCall) (stage : ShutdownStage) : Prop where
  running : process.exitCode = none
  there : process.calls[0]? = some call
  stage : call.stage = stage
  others : ∀ index other, 0 < index → process.calls[index]? = some other → other.stage.isSettled = false

section Exits

variable {pool redis : Bool} {process after : ServerProcess} {call : ShutdownCall} {stage later : ShutdownStage}

theorem Exits.step {event : ProcessEvent} {time : Nat} (moved : process.next event = some after)
    (unaided : Unaided pool redis event = true) (exits : Exits pool redis after time) :
    Exits pool redis process (timeTaken [event] + time) := by
  obtain ⟨labels, last, ran, exited, alone, short⟩ := exits
  have first : serverMachine.Runs process [event] after := Machine.Runs.snoc .refl moved
  refine ⟨event :: labels, last, first.append ran, exited, by simp [unaided, alone], ?_⟩
  have sum : timeTaken (event :: labels) = timeTaken [event] + timeTaken labels := by simp [timeTaken]
  omega

theorem FirstAt.quiet (first : FirstAt process call stage) (unsettled : stage.isSettled = false) :
    process.microtasks = false := by
  rw [ServerProcess.microtasks, List.any_eq_false]
  intro other member
  obtain ⟨index, there⟩ := List.getElem?_of_mem member
  rcases Nat.eq_zero_or_pos index with rfl | after
  · obtain rfl := Option.some.inj (there.symm.trans first.there)
    simp [first.stage, unsettled]
  · simp [first.others index other after there]

theorem FirstAt.set (first : FirstAt process call stage) (later : ShutdownStage) (log : List (Nat × ShutdownLog)) :
    FirstAt { process with calls := process.calls.set 0 { call with stage := later }, log } { call with stage := later }
      later where
  running := first.running
  there := List.getElem?_set_self (List.getElem?_eq_some_iff.mp first.there).1
  stage := rfl
  others := by
    intro index other after there
    rw [List.getElem?_set_ne (by omega)] at there
    exact first.others index other after there

theorem macrotask_next {event : ProcessEvent} (running : process.exitCode = none) (quiet : process.microtasks = false)
    (turn : ∀ index, event ≠ .resume index) : process.next event = process.macrotask event := by
  unfold ServerProcess.next
  rw [running, quiet]
  simp only [Option.isSome_none, Bool.false_eq_true, if_false]

theorem FirstAt.quit (first : FirstAt process call .quittingRedis) : Exits pool redis process 0 := by
  have moved : process.next (.redisQuit 0 redis) = process.macrotask (.redisQuit 0 redis) :=
    macrotask_next first.running (first.quiet rfl) (by simp)
  simp only [ServerProcess.macrotask, ServerProcess.redisQuit, first.there, first.stage, if_true] at moved
  exact Exits.step moved (beq_self_eq_true redis) ⟨[], _, .refl, rfl, rfl, Nat.le_refl 0⟩

theorem FirstAt.end (first : FirstAt process call .endingPool) : Exits pool redis process 0 := by
  have moved : process.next (.poolEnded 0 pool) = process.macrotask (.poolEnded 0 pool) :=
    macrotask_next first.running (first.quiet rfl) (by simp)
  simp only [ServerProcess.macrotask, ServerProcess.poolEnded, first.there, first.stage, if_true] at moved
  exact Exits.step moved (beq_self_eq_true pool) (first.set .quittingRedis _).quit

theorem FirstAt.resume (first : FirstAt process call (.settled false)) : Exits pool redis process 0 := by
  have moved : process.next (.resume 0) = some (process.setStage 0 call .endingPool) := by
    simp only [ServerProcess.next, first.running, ServerProcess.resume, first.there, first.stage]
    rfl
  exact Exits.step moved rfl (first.set .endingPool _).end

theorem FirstAt.timeout (first : FirstAt process call .waiting)
    (late : call.startedAt + shutdownTimeoutMs ≤ process.clock) : Exits pool redis process 0 := by
  have moved : process.next (.timeout 0) = process.macrotask (.timeout 0) :=
    macrotask_next first.running (first.quiet rfl) (by simp)
  simp only [ServerProcess.macrotask, ServerProcess.timeout, first.there, first.stage, late, if_true] at moved
  exact Exits.step moved rfl (first.set (.settled false) _).resume

theorem FirstAt.elapse (first : FirstAt process call .waiting) (past : call.startedAt ≤ process.clock) :
    Exits pool redis process shutdownTimeoutMs := by
  have moved : process.next (.elapse shutdownTimeoutMs) = process.macrotask (.elapse shutdownTimeoutMs) :=
    macrotask_next first.running (first.quiet rfl) (by simp)
  have waited : FirstAt { process with clock := process.clock + shutdownTimeoutMs } call .waiting :=
    ⟨first.running, first.there, first.stage, first.others⟩
  exact Exits.step moved rfl (waited.timeout (Nat.add_le_add_right past _))

theorem Exits.longer {short time : Nat} (exits : Exits pool redis process short) (room : short ≤ time) :
    Exits pool redis process time := by
  obtain ⟨labels, last, ran, exited, alone, within⟩ := exits
  exact ⟨labels, last, ran, exited, alone, Nat.le_trans within room⟩

theorem ServerValid.exits_quiet (valid : ServerValid process) (running : process.exitCode = none)
    (quiet : process.microtasks = false) (signalled : process.calls ≠ []) :
    Exits pool redis process shutdownTimeoutMs := by
  have inside := List.length_pos_iff.mpr signalled
  have there : process.calls[0]? = some process.calls[0] := List.getElem?_eq_getElem inside
  have unsettled : ∀ call ∈ process.calls, call.stage.isSettled = false := by
    intro call member
    have none := List.any_eq_false.mp quiet call member
    simpa using none
  have first : ∀ stage, process.calls[0].stage = stage → FirstAt process process.calls[0] stage :=
    fun stage same => ⟨running, there, same, fun _ other _ found => unsettled other (List.mem_of_getElem? found)⟩
  cases stage : process.calls[0].stage with
  | waiting => exact (first _ stage).elapse (valid.calls 0 _ there).past
  | settled rejected =>
    have none := unsettled _ (List.mem_of_getElem? there)
    rw [stage] at none
    cases none
  | endingPool => exact (first _ stage).end.longer (Nat.zero_le _)
  | quittingRedis => exact (first _ stage).quit.longer (Nat.zero_le _)
  | complete => exact absurd stage (valid.unfinished running 0 _ there)

theorem countP_set {calls : List ShutdownCall} {index : Nat} {old new : ShutdownCall} (there : calls[index]? = some old)
    (settled : old.stage.isSettled = true) (unsettled : new.stage.isSettled = false) :
    (calls.set index new).countP (·.stage.isSettled) < calls.countP (·.stage.isSettled) := by
  obtain ⟨inside, rfl⟩ := List.getElem?_eq_some_iff.mp there
  have positive : 0 < calls.countP (·.stage.isSettled) :=
    List.countP_pos_iff.mpr ⟨_, List.getElem_mem inside, settled⟩
  rw [List.countP_set inside, settled, unsettled]
  simp only [if_true, Bool.false_eq_true, if_false]
  omega

/-- The induction is on the number of microtasks; a rejection among them exits at once. -/
theorem ServerValid.exits (valid : ServerValid process) (running : process.exitCode = none)
    (signalled : process.calls ≠ []) : Exits pool redis process shutdownTimeoutMs := by
  generalize count : process.calls.countP (·.stage.isSettled) = microtasks
  induction microtasks using Nat.strongRecOn generalizing process with
  | _ microtasks ih =>
    cases pending : process.microtasks with
    | false => exact valid.exits_quiet running pending signalled
    | true =>
      obtain ⟨call, member, settled⟩ := List.any_eq_true.mp pending
      obtain ⟨index, there⟩ := List.getElem?_of_mem member
      cases stage : call.stage with
      | settled rejected =>
        cases rejected with
        | true =>
          have moved : process.next (.resume index) = some ((process.say index .unhandledError).exit 1) := by
            simp only [ServerProcess.next, running, ServerProcess.resume, there, stage]
            rfl
          have exits : Exits pool redis process 0 := Exits.step moved rfl ⟨[], _, .refl, rfl, rfl, Nat.le_refl 0⟩
          exact exits.longer (Nat.zero_le _)
        | false =>
          have moved : process.next (.resume index) = some (process.setStage index call .endingPool) := by
            simp only [ServerProcess.next, running, ServerProcess.resume, there, stage]
            rfl
          have fewer : (process.setStage index call .endingPool).calls.countP (·.stage.isSettled) < microtasks := by
            rw [← count]
            exact countP_set there settled rfl
          have exits := ih _ fewer (valid.next (by simp) moved) running
            (by simpa [ServerProcess.setStage] using signalled)
            rfl
          have room : timeTaken [.resume index] + shutdownTimeoutMs ≤ shutdownTimeoutMs := by simp [timeTaken]
          exact (Exits.step moved rfl exits).longer room
      | _ =>
        rw [stage] at settled
        cases settled

end Exits

/-- However long its requests take, and however the pool and Redis end: once a process has been told to stop, it exits
    when ten more seconds have passed and both have ended, with no client doing anything. -/
theorem shutdown_never_blocked {first process : ServerProcess} {labels : List ProcessEvent}
    (initial : serverMachine.start first) (ran : serverMachine.Runs first labels process) (benign : Benign labels)
    (signalled : process.calls ≠ []) (running : process.exitCode = none) (pool redis : Bool) :
    Exits pool redis process shutdownTimeoutMs :=
  (ServerValid.runs initial ran benign).exits running signalled

theorem shutdown_never_blocked_hanging :
    ∃ process, follow ServerProcess.next [.connect, .connect, .signal .SIGTERM] (.fresh 0) = some process ∧
      Exits false false process shutdownTimeoutMs := by
  obtain ⟨process, followed⟩ := Option.isSome_iff_exists.mp
    (show (follow ServerProcess.next [.connect, .connect, .signal .SIGTERM] (.fresh 0)).isSome = true by decide +kernel)
  have stopping : (follow ServerProcess.next [.connect, .connect, .signal .SIGTERM] (.fresh 0)).any
      (fun process => process.calls ≠ [] ∧ process.exitCode = none) = true := by decide +kernel
  rw [followed] at stopping
  obtain ⟨signalled, running⟩ := of_decide_eq_true stopping
  exact ⟨process, followed, shutdown_never_blocked ⟨0, rfl⟩ (runs_of_follow followed) ⟨by decide, by decide⟩ signalled
    running false false⟩

end GatewayProof
