import Mathlib.Algebra.GroupWithZero.Nat
import AppGateway.Handlers.Calls
import AppGateway.Handlers.LogoutAtomicity
import AppGateway.Handlers.RotationAtomicity

namespace GatewayProof

open Async GatewayModel
open Async.System (Reaches Modular next_cases advance_cases)

/-- From this instant on the function sleeps no longer than `budget` in all: a wake-up time is so much behind the last
    reading of the clock at most. -/
def SleepsWithin {α : Type} : Gateway α → Nat → Nat → Prop
  | .done _, _, _ => True
  | .await .dateNow resume, clock, budget => (∀ thrown, SleepsWithin (resume (.error thrown)) clock budget) ∧
      ∀ now, clock ≤ now → SleepsWithin (resume (.ok now)) now budget
  | .await (.sleepUntil wakeAt) resume, clock, budget => wakeAt ≤ clock + budget ∧
      ∀ reply, SleepsWithin (resume reply) (max clock wakeAt) (budget - (wakeAt - clock))
  | .await _ resume, clock, budget => ∀ reply, SleepsWithin (resume reply) clock budget

section Budgets

variable {α β : Type} {program : Gateway α} {clock later budget more : Nat}

theorem SleepsWithin.weaken (sleeps : SleepsWithin program clock budget) (before : clock ≤ later)
    (fits : budget ≤ more) :
    SleepsWithin program later more := by
  induction program generalizing clock later budget more with
  | done outcome => trivial
  | await op resume ih =>
    cases op with
    | dateNow =>
      obtain ⟨rejected, resolved⟩ := sleeps
      refine ⟨fun thrown => ih _ (rejected thrown) before fits, fun now read => ?_⟩
      exact ih _ (resolved now (Nat.le_trans before read)) (Nat.le_refl now) fits
    | sleepUntil wakeAt =>
      obtain ⟨soon, rest⟩ := sleeps
      exact ⟨by omega, fun reply => ih _ (rest reply) (by omega) (by omega)⟩
    | _ => exact fun reply => ih _ (sleeps reply) before fits

theorem SleepsWithin.bind {next : α → Gateway β} (sleeps : SleepsWithin program clock budget)
    (rest : ∀ value instant, clock ≤ instant → SleepsWithin (next value) instant more) :
    SleepsWithin (program.bind next) clock (budget + more) := by
  induction program generalizing clock budget with
  | done outcome =>
    cases outcome with
    | ok value => exact (rest value clock (Nat.le_refl _)).weaken (Nat.le_refl _) (Nat.le_add_left ..)
    | error thrown => trivial
  | await op resume ih =>
    cases op with
    | dateNow =>
      obtain ⟨rejected, resolved⟩ := sleeps
      refine ⟨fun thrown => ih _ (rejected thrown) rest, fun now read =>
        ih _ (resolved now read) fun value instant since => ?_⟩
      exact rest value instant (Nat.le_trans read since)
    | sleepUntil wakeAt =>
      obtain ⟨soon, wakes⟩ := sleeps
      refine ⟨by omega, fun reply => ?_⟩
      refine (ih _ (wakes reply) fun value instant since => rest value instant ?_).weaken (Nat.le_refl _) (by omega)
      exact Nat.le_trans (Nat.le_max_left ..) since
    | _ => exact fun reply => ih _ (sleeps reply) rest

theorem sleeps_never (prompt : program.Uses Prompt) : SleepsWithin program clock budget := by
  induction program generalizing clock with
  | done outcome => trivial
  | await op resume ih =>
    cases op with
    | dateNow => exact ⟨fun thrown => ih _ (prompt.2 _), fun now _ => ih _ (prompt.2 _)⟩
    | sleepUntil wakeAt => exact prompt.1.elim
    | _ => exact fun reply => ih _ (prompt.2 reply)

theorem SleepsWithin.behind {next : α → Gateway β} (prompt : program.Uses Prompt)
    (rest : ∀ value instant, clock ≤ instant → SleepsWithin (next value) instant budget) :
    SleepsWithin (program.bind next) clock budget :=
  ((@sleeps_never _ _ clock 0 prompt).bind rest).weaken (Nat.le_refl _) (by omega)

theorem SleepsWithin.step {env : Env} {choice : Choice} {before after : GatewayState} {effect : Effect}
    {resume : Except Thrown effect.Reply → Gateway α} {reply : Except Thrown effect.Reply}
    (sleeps : SleepsWithin (.await effect resume) before.clock budget)
    (executed : exec env effect choice before = some (reply, after)) :
    SleepsWithin (resume reply) after.clock budget := by
  have still : after.clock = before.clock := (exec_tableStep executed).clock
  rw [still]
  cases effect with
  | dateNow =>
    cases reply with
    | error thrown => exact sleeps.1 thrown
    | ok now =>
      cases exec_ok executed
      exact sleeps.2 _ (Nat.le_refl _)
  | sleepUntil wakeAt =>
    obtain ⟨soon, rest⟩ := sleeps
    have woken : wakeAt ≤ before.clock := by
      unfold exec at executed
      split at executed
      · simp only [respond] at executed
        split at executed
        · cases executed
        · omega
      · cases executed
      · cases executed
    exact (rest reply).weaken (by omega) (by omega)
  | _ => exact sleeps reply

end Budgets

section Prompt

theorem login_prompt (env : Env) (client : Client) (email password : String) :
    (login env client email password).Uses Prompt :=
  (login_routine env client email password).weaken fun _ routine => routine.prompt

theorem rotateAndAnswer_prompt (env : Env) (refreshToken : String) (metadata : RefreshTokenMetadata)
    (presentedTokenHash : String) (claimed : Option String) :
    (rotateAndAnswer env refreshToken metadata presentedTokenHash claimed).Uses Prompt :=
  rotateAndAnswer_uses (fun _ routine => routine.prompt) env refreshToken metadata presentedTokenHash claimed
    fun _ _ => ⟨trivial, fun _ _ => trivial⟩

theorem logout_prompt (env : Env) (bearer : Option PresentedToken) (refreshToken : Option String) :
    (logout env bearer refreshToken).Uses Prompt :=
  logout_uses (fun _ routine => routine.prompt) env bearer refreshToken fun _ _ => trivial

end Prompt

theorem delay_sleeps (ms clock : Nat) : SleepsWithin (delay ms) clock ms :=
  ⟨fun _ => trivial, fun now _ => ⟨Nat.le_refl _, fun reply => by cases reply <;> trivial⟩⟩

theorem pollIdempotentResult_sleeps (idempotencyKey presentedTokenHash : String) (attempts clock : Nat) :
    SleepsWithin (pollIdempotentResult idempotencyKey presentedTokenHash attempts) clock
      (attempts * idempotencyClaimWaitMs) := by
  induction attempts generalizing clock with
  | zero => trivial
  | succ attempts ih =>
    have reads : (getIdempotencyCacheEntry idempotencyKey).Uses Prompt := by
      apply Program.Uses.bind (perform_uses trivial)
      intro raw
      split <;> trivial
    apply SleepsWithin.behind reads
    intro entry instant _
    split
    · trivial
    · trivial
    · apply ((delay_sleeps idempotencyClaimWaitMs instant).bind fun _ later _ => ih later).weaken (Nat.le_refl _)
      rw [Nat.add_mul]
      omega

/-- The longest that one request sleeps: every poll of a slot that stays claimed. -/
def longestWait : Nat := idempotencyClaimWaitAttempts * idempotencyClaimWaitMs

theorem HandlerCall.code_sleeps (env : Env) (call : HandlerCall) (clock : Nat) :
    SleepsWithin (call.code env) clock longestWait := by
  cases call with
  | login client email password => exact sleeps_never (login_prompt env client email password)
  | logout bearer refreshToken => exact sleeps_never (logout_prompt env bearer refreshToken)
  | refresh client refreshToken idempotencyKey =>
    show SleepsWithin (GatewayModel.refresh env client refreshToken idempotencyKey) clock longestWait
    unfold GatewayModel.refresh
    simp only
    split
    · exact sleeps_never (rotateAndAnswer_prompt ..)
    · rename_i key _
      have claims : (claimIdempotencyKey key).Uses Prompt := perform_uses trivial
      apply SleepsWithin.behind claims
      intro owns instant _
      split
      · exact sleeps_never (rotateAndAnswer_prompt ..)
      · refine ((pollIdempotentResult_sleeps key _ idempotencyClaimWaitAttempts instant).bind ?_).weaken (Nat.le_refl _)
          (Nat.le_of_eq (Nat.add_zero longestWait))
        intro waited later _
        cases waited with
        | none => exact @sleeps_never _ _ _ 0 (rotateAndAnswer_prompt ..)
        | some result => trivial

/-! Finishing one request -/

theorem sleepsWithin_modular (env : Env) : Modular (handlers env) (fun _ _ => True) (fun _ => True)
    (fun before after => before.clock ≤ after.clock)
    fun state (thread : HandlerThread) => SleepsWithin thread.program state.clock longestWait where
  call := fun state call _ => call.code_sleeps env state.clock
  step := by
    intro choice state thread moved later _ _ sleeps advanced
    obtain ⟨effect, resume, reply, _, program, executed, rfl⟩ := advance_cases advanced
    rw [program] at sleeps
    exact ⟨trivial, Nat.le_of_eq (exec_tableStep executed).clock.symm, sleeps.step executed⟩
  external := fun event state _ => ⟨trivial, (external_grows event state).clock⟩
  stable := fun _ _ _ growth sleeps => sleeps.weaken growth (Nat.le_refl _)
  crash := fun _ _ sleeps => sleeps

def OwnSteps {Call : Type} (index : Nat) : GatewayLabel Call → Prop
  | .step place choice => place = index ∧ choice.fault = .none
  | .external (.elapse _) => True
  | _ => False

def waitedIn {Call : Type} : GatewayLabel Call → Nat
  | .external (.elapse ms) => ms
  | _ => 0

theorem exists_exec (env : Env) (effect : Effect) (state : GatewayState)
    (woken : ∀ wakeAt, effect = .sleepUntil wakeAt → wakeAt ≤ state.clock) :
    ∃ choice reply after, choice.fault = .none ∧ exec env effect choice state = some (reply, after) := by
  by_cases prompt : Prompt effect
  · obtain ⟨random, pick, possible⟩ := respond_possible env state effect prompt
    obtain ⟨reply, after, responded⟩ := possible .none
    exact ⟨{ random, pick }, reply, after, rfl, (exec_plain rfl).trans responded⟩
  · cases effect with
    | sleepUntil wakeAt =>
      refine ⟨{}, .ok (), state, rfl, ?_⟩
      rw [exec_plain rfl]
      exact if_neg (Nat.not_lt.mpr (woken wakeAt rfl))
    | _ => exact absurd trivial prompt

variable {env : Env} {Call Out : Type} {code : Call → Gateway Out}

structure FinishedAt (config after : GatewayConfig Call Out) (index : Nat)
    (thread : GatewayThread Call Out) : Prop where
  others : ∀ place, place ≠ index → after.threads[place]? = config.threads[place]?
  own : ∃ last outcome, after.threads[index]? = some last ∧ last.call = thread.call ∧ last.answered outcome

theorem thread_finishes (program : Gateway Out) : ∀ (budget : Nat) (config : GatewayConfig Call Out) (index : Nat)
    (thread : GatewayThread Call Out), config.threads[index]? = some thread → thread.alive = true →
    thread.program = program → SleepsWithin program config.state.clock budget →
    ∃ labels after, (processes env code).run labels config = some after ∧ (∀ label ∈ labels, OwnSteps index label) ∧
      (labels.map waitedIn).sum ≤ budget ∧ FinishedAt config after index thread := by
  induction program with
  | done outcome =>
    intro budget config index thread found alive ended sleeps
    exact ⟨[], config, rfl, nofun, Nat.zero_le _, fun _ _ => rfl, thread, outcome, found, rfl, ended⟩
  | await effect resume ih =>
    intro budget config index thread found alive awaits sleeps
    -- wait until the effect is due, take the step, and finish what is left
    have due : ∃ ms ≤ budget, (∀ wakeAt, effect = .sleepUntil wakeAt → wakeAt ≤ config.state.clock + ms) ∧
        SleepsWithin (.await effect resume) (config.state.clock + ms) (budget - ms) := by
      by_cases prompt : Prompt effect
      · refine ⟨0, Nat.zero_le _, ?_, sleeps⟩
        rintro wakeAt rfl
        exact prompt.elim
      · cases effect with
        | sleepUntil wakeAt =>
          obtain ⟨soon, rest⟩ := sleeps
          refine ⟨wakeAt - config.state.clock, by omega, ?_, by omega, fun reply => ?_⟩
          · intro other same
            cases same
            omega
          · exact (rest reply).weaken (by omega) (by omega)
        | _ => exact absurd trivial prompt
    obtain ⟨ms, fits, woken, sleeps⟩ := due
    obtain ⟨choice, reply, state, unfailing, executed⟩ :=
      exists_exec env effect (external (.elapse ms) config.state) woken
    have sleeps := sleeps.step executed
    have inside := (List.getElem?_eq_some_iff.mp found).1
    have advanced : (processes env code).advance choice (external (.elapse ms) config.state) thread =
        some ({ thread with past := thread.past ++ [⟨effect, reply⟩], program := resume reply }, state) := by
      unfold System.advance
      rw [alive, awaits]
      simp only [processes, executed]
    obtain ⟨labels, after, ran, own, waited, finished⟩ := ih reply (budget - ms)
      ⟨state, config.threads.set index
        { thread with past := thread.past ++ [⟨effect, reply⟩], program := resume reply }⟩
      index _ (List.getElem?_set_self inside) alive rfl sleeps
    refine ⟨.external (.elapse ms) :: .step index choice :: labels, after, ?_, ?_, ?_, ?_, ?_⟩
    · simp only [System.run, System.next]
      have there : config.threads[index]? = some thread := found
      simp only [processes] at advanced ran ⊢
      simp only [there, advanced]
      exact ran
    · intro label member
      rcases List.mem_cons.mp member with rfl | member
      · trivial
      rcases List.mem_cons.mp member with rfl | member
      · exact ⟨rfl, unfailing⟩
      · exact own label member
    · simp only [List.map_cons, List.sum_cons, waitedIn]
      omega
    · intro place other
      rw [finished.others place other, List.getElem?_set_ne (Ne.symm other)]
    · exact finished.own

/-- Whatever the other requests are doing, and even if those that hold idempotency claims have died with them: every
    request in flight can be finished by steps of its own that do not fail, within 250 ms of clock time. -/
theorem requests_finish_alone {allowed : HandlerConfig → HandlerLabel → Prop} {config : HandlerConfig}
    (reachable : HandlersReachable env allowed config) {index : Nat} {thread : HandlerThread}
    (found : config.threads[index]? = some thread) (alive : thread.alive = true) :
    ∃ labels after, (handlers env).run labels config = some after ∧ (∀ label ∈ labels, OwnSteps index label) ∧
      (labels.map waitedIn).sum ≤ 250 ∧ FinishedAt config after index thread := by
  obtain ⟨clock, users, reached⟩ := reachable
  have sleeps := ((sleepsWithin_modular env).run (fun _ _ _ _ _ _ _ _ => trivial) reached
    ⟨trivial, by simp [freshGateway]⟩).2 thread (List.mem_of_getElem? found)
  exact thread_finishes thread.program 250 config index thread found alive rfl sleeps

def orphanedClaim : List HandlerLabel :=
  [.call (.refresh sampleClient "t9" (some "k")), .step 0 {}, .crash 0,
   .call (.refresh sampleClient "t9" (some "k"))] ++ steps 1 3

theorem requests_finish_alone_orphaned : ∃ config after : HandlerConfig, ∃ thread,
    config.threads[1]? = some thread ∧ thread.running = true ∧
    config.state.redis.get config.state.clock (.idempotencyRefresh "k") = some (.slot .pending) ∧
    (∃ holder, config.threads[0]? = some holder ∧ holder.alive = false) ∧
    ∃ labels, (handlers sampleEnv).run labels config = some after ∧ FinishedAt config after 1 thread := by
  have passed : ((handlers sampleEnv).run orphanedClaim (freshGateway 0 [sampleUser "u" "u@example.com"])).any
      (fun config => (config.threads[1]?.any fun thread => thread.running) &&
        ((config.state.redis.get config.state.clock (.idempotencyRefresh "k") = some (.slot .pending)) &&
          (config.threads[0]?.any fun holder => !holder.alive))) = true := by decide +kernel
  obtain ⟨config, reached, checked⟩ := Reaches.of_check passed
  obtain ⟨running, checked⟩ := Bool.and_eq_true_iff.mp checked
  obtain ⟨pending, dead⟩ := Bool.and_eq_true_iff.mp checked
  obtain ⟨thread, found, running⟩ := (Option.any_eq_true _ _).mp running
  obtain ⟨holder, there, dead⟩ := (Option.any_eq_true _ _).mp dead
  have reachable : HandlersReachable sampleEnv System.anyStep config := ⟨_, _, reached⟩
  have alive : thread.alive = true := (Bool.and_eq_true_iff.mp running).1
  obtain ⟨labels, after, ran, _, _, finished⟩ := requests_finish_alone reachable found alive
  exact ⟨config, after, thread, found, running, of_decide_eq_true pending,
    ⟨holder, there, by simpa using dead⟩, labels, ran,
    finished⟩

end GatewayProof
