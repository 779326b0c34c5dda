import AppGateway.Proxy.CounterExpiry

namespace GatewayProof

open Async GatewayModel

def observeCount (config : LimiterConfig) : LimiterLabel → Option Hit
  | .step index .unacknowledged => observeHit config (.step index .none)
  | label => observeHit config label

/-- The steps of a limiter on one counter, where an INCR that loses its reply is as timely as one that does not. -/
def CountStep (env : ProxyEnv) (base : String) (windowMs maxRequests : Nat) (config : LimiterConfig) :
    LimiterLabel → Prop
  | .step index .unacknowledged => LimiterStep env base windowMs maxRequests config (.step index .none)
  | label => LimiterStep env base windowMs maxRequests config label

/-- The INCR of the request has failed, or its reply is lost. -/
def CountUnknown (past : List ProxyEvent) : Prop := ∃ key thrown, ⟨.redisIncr key, .error thrown⟩ ∈ past

def HeardPermits (past : List ProxyEvent) (_ : ProxyEffect) : Prop := ¬ CountUnknown past

def HeardEnds (past : List ProxyEvent) (outcome : Except Thrown (Option AppError)) : Prop :=
  CountUnknown past → outcome = .ok none

theorem countUnknown_append {past later : List ProxyEvent}
    (uncounted : ∀ event ∈ later, ∀ key, event.op ≠ .redisIncr key) :
    CountUnknown (past ++ later) ↔ CountUnknown past := by
  constructor
  · rintro ⟨key, thrown, member⟩
    rcases List.mem_append.mp member with earlier | added
    · exact ⟨key, thrown, earlier⟩
    · exact absurd rfl (uncounted _ added key)
  · rintro ⟨key, thrown, member⟩
    exact ⟨key, thrown, List.mem_append_left _ member⟩

theorem heard_behind {program : Proxy (Option AppError)} {past : List ProxyEvent}
    (uses : program.Uses fun op => ∀ key, op ≠ .redisIncr key) (heard : ¬ CountUnknown past) :
    program.Obeys HeardPermits HeardEnds past := by
  induction program generalizing past with
  | done outcome => exact fun unheard => absurd unheard heard
  | await op resume ih =>
    refine ⟨heard, fun reply => ih reply (uses.2 reply) fun unheard => heard ?_⟩
    have uncounted : ∀ event ∈ [(⟨op, reply⟩ : ProxyEvent)], ∀ key, event.op ≠ .redisIncr key := by
      intro event member
      rw [List.mem_singleton.mp member]
      exact uses.1
    exact (countUnknown_append uncounted).mp unheard

theorem rateLimiter_heard (env : ProxyEnv) (call : LimiterCall) :
    (rateLimiter env call.options call.req).Obeys HeardPermits HeardEnds [] := by
  refine ⟨by simp [HeardPermits, CountUnknown], fun clock => ?_⟩
  rcases clock with thrown | now
  · intro unheard
    simp [CountUnknown] at unheard
  refine ⟨by simp [HeardPermits, CountUnknown], fun counted => ?_⟩
  rcases counted with thrown | count
  · exact fun _ => rfl
  have heard : ¬ CountUnknown ([] ++ [(⟨.gateway .dateNow, .ok now⟩ : ProxyEvent)] ++
      [⟨.redisIncr (counterKey call.base (now / call.windowMs env)), .ok count⟩]) := by
    simp [CountUnknown]
  by_cases first : count = 1
  · subst first
    refine ⟨heard, fun expires => ?_⟩
    rcases expires with thrown | _
    · intro unheard
      simp [CountUnknown] at unheard
    · refine heard_behind (limitRequest_uncounted _ _ _) ?_
      simp [CountUnknown]
  · simp only [Program.done_ok_bind, first, if_false]
    exact heard_behind (limitRequest_uncounted _ _ _) heard

/-! A request whose reply is lost leaves the counters as one does that crashes behind its INCR -/

inductive Silenced (left right : LimiterThread) : Prop where
  | same (equal : left = right) : Silenced left right
  | passed (call : left.call = right.call) (unheard : CountUnknown left.past) (answered : left.answered (.ok none))
      (stopped : right.alive = false) : Silenced left right

structure Silences (left right : LimiterConfig) : Prop where
  state : left.state = right.state
  threads : List.Forall₂ Silenced left.threads right.threads

theorem Silenced.refl (thread : LimiterThread) : Silenced thread thread := .same rfl

section Runs

variable {env : ProxyEnv} {base : String} {windowMs maxRequests : Nat} {start config left right after : LimiterConfig}
  {history : List Hit}

theorem Silenced.running {old other moved : LimiterThread} {fault : Fault} {before later : CounterState}
    (silenced : Silenced old other) (advanced : (faultyLimiters env).advance fault before old = some (moved, later)) :
    old = other := by
  cases silenced with
  | same equal => exact equal
  | passed _ _ answered _ =>
    obtain ⟨op, resume, _, _, program, _, _⟩ := System.advance_cases advanced
    rw [Thread.answered, program] at answered
    cases answered

theorem Silenced.crash {old other : LimiterThread} (silenced : Silenced old other) :
    Silenced { old with alive := false } { other with alive := false } := by
  cases silenced with
  | same equal => exact .same (by rw [equal])
  | passed call unheard answered _ => exact .passed call unheard answered rfl

theorem countUnknown_answered {thread : LimiterThread}
    (disciplined : System.Disciplined (fun _ => HeardPermits) (fun _ => HeardEnds) thread)
    (unheard : CountUnknown thread.past) : thread.answered (.ok none) := by
  cases program : thread.program with
  | done outcome =>
    have passed := disciplined.ended program unheard
    rw [Thread.answered, program, passed]
  | await op resume => exact absurd unheard (disciplined.permitted program)

theorem execFaulty_cases {effect : ProxyEffect} {fault : Fault} {before later : CounterState}
    {reply : Except Thrown effect.Reply}
    (executed : CounterState.execFaulty effect fault before = some (reply, later)) :
    CounterState.exec effect fault before = some (reply, later) ∨
    ∃ key thrown, (⟨effect, reply⟩ : ProxyEvent) = ⟨.redisIncr key, .error thrown⟩ ∧ fault = .unacknowledged ∧
      later = { before with counters := (before.counters.incr before.clock key).2 } := by
  unfold CounterState.execFaulty at executed
  split at executed
  · cases executed
    exact .inr ⟨_, _, rfl, rfl, rfl⟩
  · exact .inl executed

theorem observeHit_congr {index : Nat} {fault : Fault} (state : left.state = right.state)
    (same : left.threads[index]? = right.threads[index]?) :
    observeHit left (.step index fault) = observeHit right (.step index fault) := by
  cases fault with
  | none => simp only [observeHit, state, same]
  | lost => rfl
  | unacknowledged => rfl

theorem limiterStep_congr {index : Nat} {fault : Fault} (state : left.state = right.state)
    (same : left.threads[index]? = right.threads[index]?) :
    LimiterStep env base windowMs maxRequests left (.step index fault) ↔
      LimiterStep env base windowMs maxRequests right (.step index fault) := by
  cases fault with
  | none => simp only [LimiterStep, state, same]
  | lost => exact Iff.rfl
  | unacknowledged => exact Iff.rfl

theorem count_shared {index : Nat} {fault : Fault} {thread : LimiterThread} {effect : ProxyEffect}
    {resume : Except Thrown effect.Reply → Proxy (Option AppError)} {later : CounterState}
    {reply : Except Thrown effect.Reply} (there : left.threads[index]? = some thread)
    (program : thread.program = .await effect resume)
    (executed : CounterState.exec effect fault left.state = some (reply, later))
    (allow : CountStep env base windowMs maxRequests left (.step index fault)) :
    LimiterStep env base windowMs maxRequests left (.step index fault) ∧
      observeCount left (.step index fault) = observeHit left (.step index fault) := by
  cases fault with
  | none => exact ⟨allow, rfl⟩
  | lost => exact ⟨allow, rfl⟩
  | unacknowledged =>
    have uncounted : ∀ key, effect ≠ .redisIncr key := by
      rintro key rfl
      cases executed
    have silent : observeHit left (.step index .none) = none := by
      refine observeHit_other there fun key pending => ?_
      rw [program] at pending
      exact absurd (Option.some.inj pending) (uncounted key)
    exact ⟨trivial, silent⟩

theorem Silences.step {index : Nat} {fault : Fault} {thread moved : LimiterThread} {later : CounterState}
    (silences : Silences left right) (there : left.threads[index]? = some thread)
    (stepped : (faultyLimiters env).advance fault left.state thread = some (moved, later))
    (disciplined : System.Disciplined (fun _ => HeardPermits) (fun _ => HeardEnds) moved)
    (allow : CountStep env base windowMs maxRequests left (.step index fault))
    (recorded : System.Records (limiters env) (LimiterStep env base windowMs maxRequests) observeHit
      start history right) :
    ∃ silent, System.Records (limiters env) (LimiterStep env base windowMs maxRequests) observeHit start
      (history ++ (observeCount left (.step index fault)).toList) silent ∧
        Silences { state := later, threads := left.threads.set index moved } silent := by
  obtain ⟨other, found, silenced⟩ := Lists.forall₂_getElem? silences.threads there
  obtain rfl := silenced.running stepped
  obtain ⟨effect, resume, reply, alive, program, executed, rfl⟩ := System.advance_cases stepped
  have place : left.threads[index]? = right.threads[index]? := there.trans found.symm
  rcases execFaulty_cases executed with plain | ⟨key, thrown, event, rfl, rfl⟩
  · obtain ⟨permitted, observed⟩ := count_shared there program plain allow
    rw [observed, observeHit_congr silences.state place]
    rw [limiterStep_congr silences.state place] at permitted
    rw [silences.state] at plain
    have follows : (limiters env).next right (.step index fault) = some _ :=
      System.next_of_exec found alive program plain
    exact ⟨_, recorded.step permitted follows, rfl, Lists.forall₂_set silences.threads (.refl _) index⟩
  · cases event
    have counts : (limiters env).exec (.redisIncr key) Fault.none right.state =
        some (.ok (right.state.counters.incr right.state.clock key).1,
          { right.state with counters := (right.state.counters.incr right.state.clock key).2 }) := rfl
    have follows := System.next_of_exec found alive program counts
    have permitted : LimiterStep env base windowMs maxRequests right (.step index .none) :=
      (limiterStep_congr silences.state place).mp allow
    have observed : observeHit left (.step index .none) = observeHit right (.step index .none) :=
      observeHit_congr silences.state place
    rw [observeCount, observed]
    have counted := recorded.step permitted follows
    have inside := (List.getElem?_eq_some_iff.mp found).1
    have stopped := counted.step (by trivial) (System.next_of_crash (List.getElem?_set_self inside))
    have quiet : ∀ crashing : LimiterConfig, observeHit crashing (.crash index) = none := fun _ => rfl
    rw [quiet, Option.toList_none, List.append_nil] at stopped
    refine ⟨_, stopped, congrArg (fun state : CounterState =>
      { state with counters := (state.counters.incr state.clock key).2 }) silences.state, ?_⟩
    rw [List.set_set]
    have unheard : CountUnknown (thread.past ++ [⟨.redisIncr key, .error thrown⟩]) := ⟨key, thrown, by simp⟩
    refine Lists.forall₂_set silences.threads ?_ index
    exact .passed rfl unheard (countUnknown_answered disciplined unheard) rfl

/-- Every run is one in which the requests whose reply is lost have crashed, but for what these answer. -/
theorem silenced_run (initial : start.threads = [])
    (recorded : System.Records (faultyLimiters env) (CountStep env base windowMs maxRequests) observeCount start history
      config) :
    ∃ silent, System.Records (limiters env) (LimiterStep env base windowMs maxRequests) observeHit start history
      silent ∧ Silences config silent := by
  induction recorded with
  | refl => exact ⟨start, .refl, rfl, by rw [initial]; exact .nil⟩
  | @step history config after label earlier allow moved ih =>
    obtain ⟨right, shared, silences⟩ := ih
    have disciplined := System.Reaches.disciplined (rateLimiter_heard env) (earlier.step allow moved).reaches initial
    rcases System.next_cases moved with ⟨call, rfl, rfl⟩ |
      ⟨index, fault, thread, advanced, state, rfl, there, stepped, rfl⟩ |
      ⟨index, thread, rfl, there, rfl⟩ | ⟨elapsed, rfl, rfl⟩
    · have begun : (limiters env).next right (.call call) = some
          { right with threads := right.threads ++ [Thread.start (limiters env) call] } := rfl
      have agreed : LimiterStep env base windowMs maxRequests right (.call call) := allow
      exact ⟨_, shared.step agreed begun, silences.state,
        List.rel_append silences.threads (.cons (.refl _) .nil)⟩
    · have inside := (List.getElem?_eq_some_iff.mp there).1
      have last := disciplined advanced (List.mem_of_getElem? (List.getElem?_set_self inside))
      exact silences.step there stepped last allow shared
    · obtain ⟨other, found, silenced⟩ := Lists.forall₂_getElem? silences.threads there
      have crashed : (limiters env).next right (.crash index) = some _ := System.next_of_crash found
      exact ⟨_, shared.step (by trivial) crashed, silences.state,
        Lists.forall₂_set silences.threads silenced.crash index⟩
    · have passed : (limiters env).next right (.external elapsed) = some
          { right with state := { right.state with clock := right.state.clock + elapsed } } := rfl
      exact ⟨_, shared.step (by trivial) passed, congrArg (fun state : CounterState =>
        { state with clock := state.clock + elapsed }) silences.state, silences.threads⟩

end Runs

/-- Where an INCR that takes effect can lose its reply, the counter still reads the number of hits as long as the window
    lasts, and a request that has heard its count is admitted exactly when it is within the limit; the others are passed
    on. -/
theorem heard_hits_bounded {env : ProxyEnv} {base : String} {windowMs maxRequests : Nat} (windowed : 0 < windowMs)
    (limited : 0 < maxRequests) {start config : LimiterConfig} {history : List Hit} (initial : start.threads = [])
    (fresh : ∀ window, start.state.counters (counterKey base window) = none)
    (recorded : System.Records (faultyLimiters env) (CountStep env base windowMs maxRequests) observeCount start history
      config) :
    (∀ window, config.state.clock < (window + 1) * windowMs →
      config.state.counters.read config.state.clock (counterKey base window) =
        (hitsIn base windowMs window history).length) ∧
    ∀ (window position : Nat) (hit : Hit), (hitsIn base windowMs window history)[position]? = some hit →
      ∃ thread, config.threads[hit.index]? = some thread ∧ thread.call = hit.call ∧
        ∀ outcome, thread.answered outcome →
          outcome = .ok (if position < maxRequests then none else some tooManyRequestsError) ∨
          CountUnknown thread.past ∧ outcome = .ok none := by
  obtain ⟨silent, shared, silences⟩ := silenced_run initial recorded
  have valid := limiter_valid shared.reaches initial
  have counted := counted_run windowed initial fresh shared
  constructor
  · intro window lasts
    rw [silences.state] at lasts ⊢
    exact (counted.counters window).read lasts
  · intro window position hit found
    obtain ⟨other, present, called, numbered⟩ := counted.numbered window position hit found
    have flipped : List.Forall₂ (flip Silenced) silent.threads config.threads := List.Forall₂.flip silences.threads
    obtain ⟨thread, there, silenced⟩ := Lists.forall₂_getElem? flipped present
    have related : Silenced thread other := silenced
    cases related with
    | same equal =>
      subst equal
      have mine : thread.call.base = base := by
        have listed := (List.mem_filter.mp (List.mem_of_getElem? found)).2
        rw [called]
        exact (of_decide_eq_true listed).1
      exact ⟨thread, there, called, fun outcome answered =>
        .inl (hit_answer limited valid (List.mem_of_getElem? present) mine numbered answered)⟩
    | passed call unheard passed _ =>
      exact ⟨thread, there, call.trans called, fun outcome answered =>
        .inr ⟨unheard, answered.symm.trans passed |> Program.done.inj⟩⟩

end GatewayProof
