import AppGateway.Async.Records
import AppGateway.Codec.Decimal
import AppGateway.Lists
import AppGateway.Proxy.Mediation
import AppGateway.Store.Counters

namespace GatewayProof

open Async GatewayModel

structure LimiterCall where
  options : RateLimiterOptions
  req : ProxyRequest

def LimiterCall.base (call : LimiterCall) : String :=
  call.options.keyPrefix.getD "ratelimit" ++ ":" ++ call.req.ip.getD "unknown"

def LimiterCall.windowMs (env : ProxyEnv) (call : LimiterCall) : Nat :=
  call.options.windowMs.getD env.rateLimitWindowMs

def LimiterCall.maxRequests (env : ProxyEnv) (call : LimiterCall) : Nat :=
  call.options.maxRequests.getD env.rateLimitMaxRequests

def counterKey (base : String) (window : Nat) : String := base ++ ":" ++ toString window

theorem counterKey_inj {base other : String} {window window' : Nat}
    (same : counterKey base window = counterKey other window') : base = other ∧ window = window' :=
  Codec.Decimal.numbered_inj same

/-! One Redis and any number of limiters -/

structure CounterState where
  clock : Nat
  counters : Store.Counters String

/-- What one effect does. A command that is lost has no effect; of a failing PEXPIRE it is open
    whether it had. -/
def CounterState.exec : (effect : ProxyEffect) → Fault → CounterState →
    Option (Except Thrown effect.Reply × CounterState)
  | .gateway .dateNow, _, state => some (.ok state.clock, state)
  | .redisIncr key, .none, state =>
    let (count, counters) := state.counters.incr state.clock key
    some (.ok count, { state with counters })
  | .redisIncr _, .lost, state => some (.error (.error "Connection is closed."), state)
  | .redisPexpire key ms, .none, state =>
    some (.ok (), { state with counters := state.counters.pexpire state.clock key ms })
  | .redisPexpire _ _, .lost, state => some (.error (.error "Connection is closed."), state)
  | .redisPexpire key ms, .unacknowledged, state =>
    some (.error (.error "Connection is closed."),
      { state with counters := state.counters.pexpire state.clock key ms })
  | .setHeader .., _, state => some (.ok (), state)
  | _, _, _ => none

def limiters (env : ProxyEnv) :
    System ProxyEffect.Reply Thrown CounterState Fault Nat LimiterCall (Option AppError) where
  exec := CounterState.exec
  external elapsed state := { state with clock := state.clock + elapsed }
  code call := rateLimiter env call.options call.req

abbrev LimiterConfig := Config ProxyEffect.Reply Thrown CounterState LimiterCall (Option AppError)
abbrev LimiterThread := Thread ProxyEffect.Reply Thrown LimiterCall (Option AppError)
abbrev LimiterLabel := Label Fault Nat LimiterCall

/-- The limiters of one counter agree on its window and its limit, and an INCR takes effect at the
    instant of the clock reading before it. -/
def LimiterStep (env : ProxyEnv) (base : String) (windowMs maxRequests : Nat) (config : LimiterConfig) :
    LimiterLabel → Prop
  | .call call => call.base = base → call.windowMs env = windowMs ∧ call.maxRequests env = maxRequests
  | .step index .none => ∀ thread key, config.threads[index]? = some thread →
    thread.program.pending = some (.redisIncr key) → ⟨.gateway .dateNow, .ok config.state.clock⟩ ∈ thread.past
  | _ => True

structure Hit where
  index : Nat
  call : LimiterCall
  instant : Nat

def observeHit (config : LimiterConfig) : LimiterLabel → Option Hit
  | .step index .none =>
    match config.threads[index]? with
    | some thread =>
      match thread.program.pending with
      | some (.redisIncr _) => some ⟨index, thread.call, config.state.clock⟩
      | _ => none
    | none => none
  | _ => none

def hitsIn (base : String) (windowMs window : Nat) (history : List Hit) : List Hit :=
  history.filter fun hit => hit.call.base = base ∧ hit.instant / windowMs = window

def Hit.admitted (config : LimiterConfig) (hit : Hit) : Bool :=
  match config.threads[hit.index]? with
  | some thread =>
    match thread.program with
    | .done (.ok none) => true
    | _ => false
  | none => false

/-! What one limiter does -/

def LimiterPermits (env : ProxyEnv) (call : LimiterCall) (past : List ProxyEvent) : ProxyEffect → Prop
  | .redisIncr key => ∃ now, past = [⟨.gateway .dateNow, .ok now⟩] ∧
      key = counterKey call.base (now / call.windowMs env)
  | .redisPexpire key ms => ∃ now, ⟨.gateway .dateNow, .ok now⟩ ∈ past ∧
      key = counterKey call.base (now / call.windowMs env) ∧ ms = call.windowMs env
  | _ => True

def LimiterEnds (env : ProxyEnv) (call : LimiterCall) (past : List ProxyEvent)
    (outcome : Except Thrown (Option AppError)) : Prop :=
  0 < call.maxRequests env → (∀ thrown, ⟨.gateway .dateNow, .error thrown⟩ ∉ past) →
    ∀ key count, ⟨.redisIncr key, .ok count⟩ ∈ past →
      outcome = .ok (if count ≤ call.maxRequests env then none else some tooManyRequestsError)

theorem limitRequest_ends {env : ProxyEnv} {call : LimiterCall} {past : List ProxyEvent} {count : Nat}
    (windowResetAtMs : Nat) (counted : ∀ key other, ⟨.redisIncr key, .ok other⟩ ∈ past → other = count) :
    (limitRequest (call.maxRequests env) count windowResetAtMs).Obeys (LimiterPermits env call)
      (LimiterEnds env call) past := by
  have kept : ∀ later : List ProxyEvent, (∀ key reply, ⟨.redisIncr key, reply⟩ ∉ later) →
      ∀ key other, ⟨.redisIncr key, .ok other⟩ ∈ past ++ later → other = count := by
    intro later without key other member
    rcases List.mem_append.mp member with earlier | added
    · exact counted key other earlier
    · exact absurd added (without key _)
  refine ⟨trivial, fun _ => ⟨trivial, fun _ => ⟨trivial, fun _ => ?_⟩⟩⟩
  simp only [Program.done_ok_bind]
  by_cases exceeds : call.maxRequests env < count
  · simp only [exceeds, if_true]
    refine ⟨trivial, fun clock => ?_⟩
    rcases clock with thrown | now
    · intro _ readable
      exact absurd (by simp) (readable thrown)
    · refine ⟨trivial, fun _ => ?_⟩
      intro _ _ key other member
      simp only [List.append_assoc] at member
      obtain rfl := kept _ (by simp) key other member
      rw [if_neg (by omega)]
  · simp only [exceeds, if_false]
    intro _ _ key other member
    simp only [List.append_assoc] at member
    obtain rfl := kept _ (by simp) key other member
    rw [if_pos (by omega)]

theorem limitRequest_uncounted (maxRequests count windowResetAtMs : Nat) :
    (limitRequest maxRequests count windowResetAtMs).Uses fun op => ∀ key, op ≠ .redisIncr key := by
  refine ⟨by simp, fun _ => ⟨by simp, fun _ => ⟨by simp, fun _ => ?_⟩⟩⟩
  simp only [Program.done_ok_bind]
  by_cases exceeds : maxRequests < count
  · simp only [exceeds, if_true]
    refine ⟨by simp, fun clock => ?_⟩
    cases clock with
    | error thrown => trivial
    | ok now => exact ⟨by simp, fun _ => trivial⟩
  · simp only [exceeds, if_false]
    trivial

theorem rateLimiter_obeys (env : ProxyEnv) (call : LimiterCall) :
    (rateLimiter env call.options call.req).Obeys (LimiterPermits env call) (LimiterEnds env call) [] := by
  refine ⟨trivial, fun clock => ?_⟩
  rcases clock with thrown | now
  · intro _ _ key count member
    simp at member
  refine ⟨⟨now, rfl, rfl⟩, fun counted => ?_⟩
  rcases counted with thrown | count
  · intro _ _ key count member
    simp at member
  by_cases first : count = 1
  · subst first
    refine ⟨⟨now, by simp, rfl, rfl⟩, fun expires => ?_⟩
    rcases expires with thrown | _
    · intro positive _ key count member
      have one : count = 1 := by
        simp only [List.nil_append, List.cons_append, List.mem_cons, Event.mk.injEq] at member
        simp at member
        exact member.2
      rw [one, if_pos (by omega)]
    · exact limitRequest_ends _ (by simp)
  · simp only [Program.done_ok_bind, first, if_false]
    exact limitRequest_ends _ (by simp)

/-! Runs -/

section Runs

variable {env : ProxyEnv} {base : String} {windowMs maxRequests : Nat} {start config after : LimiterConfig}
  {history : List Hit}

def ReadsClock (state : CounterState) (thread : LimiterThread) : Prop :=
  ∀ reply, ⟨.gateway .dateNow, reply⟩ ∈ thread.past → ∃ now, reply = .ok now ∧ now ≤ state.clock

theorem exec_clock {effect : ProxyEffect} {fault : Fault} {before later : CounterState}
    {reply : Except Thrown effect.Reply} (executed : CounterState.exec effect fault before = some (reply, later)) :
    later.clock = before.clock := by
  unfold CounterState.exec at executed
  split at executed <;> cases executed <;> rfl

theorem readsClock_modular (env : ProxyEnv) : System.Modular (limiters env) (fun _ _ => True) (fun _ => True)
    (fun before after => before.clock ≤ after.clock) ReadsClock where
  call := by simp [ReadsClock, Thread.start]
  step := by
    intro fault state thread moved later _ _ own advanced
    obtain ⟨op, resume, reply, _, _, executed, rfl⟩ := System.advance_cases advanced
    have same := exec_clock executed
    refine ⟨trivial, by omega, fun other member => ?_⟩
    rcases List.mem_append.mp member with earlier | last
    · obtain ⟨now, read, past⟩ := own other earlier
      exact ⟨now, read, by omega⟩
    · cases List.mem_singleton.mp last
      cases executed
      exact ⟨state.clock, rfl, by omega⟩
  external := by
    intro elapsed state _
    exact ⟨trivial, Nat.le_add_right _ _⟩
  stable := by
    intro before later thread grows own reply member
    obtain ⟨now, read, past⟩ := own reply member
    exact ⟨now, read, by omega⟩
  crash := fun _ _ own => own

inductive CounterStep (before after : CounterState) : ProxyEffect → Fault → Prop where
  | incr (key : String) (counters : after.counters = (before.counters.incr before.clock key).2) :
      CounterStep before after (.redisIncr key) .none
  | pexpire (key : String) (ms : Nat) (fault : Fault)
      (counters : after.counters = before.counters.pexpire before.clock key ms) :
      CounterStep before after (.redisPexpire key ms) fault
  | keep (effect : ProxyEffect) (fault : Fault) (uncounted : ∀ key, effect = .redisIncr key → fault ≠ .none)
      (counters : after.counters = before.counters) : CounterStep before after effect fault

theorem exec_counterStep {effect : ProxyEffect} {fault : Fault} {before later : CounterState}
    {reply : Except Thrown effect.Reply} (executed : CounterState.exec effect fault before = some (reply, later)) :
    CounterStep before later effect fault := by
  unfold CounterState.exec at executed
  split at executed <;> cases executed
  · exact .keep _ _ (by simp) rfl
  · exact .incr _ rfl
  · exact .keep _ _ (by simp) rfl
  · exact .pexpire _ _ _ rfl
  · exact .keep _ _ (by simp) rfl
  · exact .pexpire _ _ _ rfl
  · exact .keep _ _ (by simp) rfl

/-- The counter of each window holds the number of its hits while the window lasts, and each hit has been
    given its number. -/
structure Counted (base : String) (windowMs : Nat) (history : List Hit) (config : LimiterConfig) : Prop where
  counters : ∀ window, config.state.counters.HoldsUntil (counterKey base window) ((window + 1) * windowMs)
    (hitsIn base windowMs window history).length
  numbered : ∀ (window position : Nat) (hit : Hit), (hitsIn base windowMs window history)[position]? = some hit →
    ∃ thread, config.threads[hit.index]? = some thread ∧ thread.call = hit.call ∧
      ⟨.redisIncr (counterKey base window), .ok (position + 1)⟩ ∈ thread.past

theorem hitsIn_snoc (base : String) (windowMs window : Nat) (history : List Hit) (hit : Hit) :
    hitsIn base windowMs window (history ++ [hit]) =
      if hit.call.base = base ∧ hit.instant / windowMs = window then hitsIn base windowMs window history ++ [hit]
      else hitsIn base windowMs window history := by
  unfold hitsIn
  rw [List.filter_append]
  by_cases counts : hit.call.base = base ∧ hit.instant / windowMs = window
  · simp [counts]
  · simp [counts]

theorem window_bounds {instant windowMs : Nat} (positive : 0 < windowMs) :
    instant / windowMs * windowMs ≤ instant ∧ instant < (instant / windowMs + 1) * windowMs := by
  have parts := Nat.div_add_mod instant windowMs
  have below := Nat.mod_lt instant positive
  rw [Nat.mul_comm] at parts
  rw [Nat.add_mul]
  omega

theorem Counted.kept {label : LimiterLabel} (counted : Counted base windowMs history config)
    (moved : (limiters env).next config label = some after) {window position : Nat} {hit : Hit}
    (found : (hitsIn base windowMs window history)[position]? = some hit) :
    ∃ thread, after.threads[hit.index]? = some thread ∧ thread.call = hit.call ∧
      ⟨.redisIncr (counterKey base window), .ok (position + 1)⟩ ∈ thread.past := by
  obtain ⟨thread, present, call, member⟩ := counted.numbered window position hit found
  obtain ⟨later, stored, grown⟩ := System.next_extends moved present
  exact ⟨later, stored, grown.call.trans call, grown.past.subset member⟩

theorem Counted.quiet {label : LimiterLabel} (counted : Counted base windowMs history config)
    (moved : (limiters env).next config label = some after) (unobserved : observeHit config label = none)
    (counters : ∀ window count,
      config.state.counters.HoldsUntil (counterKey base window) ((window + 1) * windowMs) count →
      after.state.counters.HoldsUntil (counterKey base window) ((window + 1) * windowMs) count) :
    Counted base windowMs (history ++ (observeHit config label).toList) after := by
  rw [unobserved, Option.toList_none, List.append_nil]
  exact ⟨fun window => counters window _ (counted.counters window), fun _ _ _ found => counted.kept moved found⟩

theorem Counted.hit {label : LimiterLabel} {hit : Hit} {thread : LimiterThread} (positive : 0 < windowMs)
    (counted : Counted base windowMs history config) (moved : (limiters env).next config label = some after)
    (observed : observeHit config label = some hit) (present : after.threads[hit.index]? = some thread)
    (called : thread.call = hit.call)
    (now : hit.instant = config.state.clock) {key : String}
    (named : key = counterKey hit.call.base (hit.instant / hit.call.windowMs env))
    (agreed : hit.call.base = base → hit.call.windowMs env = windowMs)
    (replied : ⟨.redisIncr key, .ok (config.state.counters.incr config.state.clock key).1⟩ ∈ thread.past)
    (counters : after.state.counters = (config.state.counters.incr config.state.clock key).2) :
    Counted base windowMs (history ++ (observeHit config label).toList) after := by
  rw [observed, Option.toList_some]
  have apart : ∀ window, counterKey base window ≠ key →
      hitsIn base windowMs window (history ++ [hit]) = hitsIn base windowMs window history := by
    intro window different
    rw [hitsIn_snoc, if_neg]
    rintro ⟨mine, rfl⟩
    exact different (by rw [named, mine, agreed mine])
  have same : ∀ window, counterKey base window = key →
      hitsIn base windowMs window (history ++ [hit]) = hitsIn base windowMs window history ++ [hit] ∧
        config.state.clock < (window + 1) * windowMs := by
    intro window shared
    obtain ⟨mine, reached⟩ := counterKey_inj (shared.trans named)
    rw [agreed mine.symm] at reached
    constructor
    · rw [hitsIn_snoc, if_pos ⟨mine.symm, reached.symm⟩]
    · rw [reached, ← now]
      exact (window_bounds positive).2
  constructor
  · intro window
    rw [counters]
    by_cases shared : counterKey base window = key
    · obtain ⟨longer, early⟩ := same window shared
      rw [longer, List.length_append, List.length_singleton, shared]
      have holds := counted.counters window
      rw [shared] at holds
      exact (holds.incr early).2
    · rw [apart window shared]
      exact (counted.counters window).congr (Store.Counters.incr_other _ _ shared)
  · intro window position other found
    by_cases shared : counterKey base window = key
    · obtain ⟨longer, early⟩ := same window shared
      rw [longer, List.getElem?_append] at found
      split at found
      · exact counted.kept moved found
      · rename_i outside
        have last : position = (hitsIn base windowMs window history).length := by
          have inside := (List.getElem?_eq_some_iff.mp found).1
          simp only [List.length_singleton] at inside
          omega
        subst last
        simp only [Nat.sub_self, List.getElem?_cons_zero, Option.some.injEq] at found
        subst found
        have holds := counted.counters window
        rw [shared] at holds
        rw [(holds.incr early).1] at replied
        exact ⟨thread, present, called, shared ▸ replied⟩
    · rw [apart window shared] at found
      exact counted.kept moved found

theorem observeHit_other {index : Nat} {fault : Fault} {thread : LimiterThread}
    (there : config.threads[index]? = some thread)
    (other : ∀ key, thread.program.pending = some (.redisIncr key) → fault ≠ .none) :
    observeHit config (.step index fault) = none := by
  unfold observeHit
  split
  · rename_i same
    cases same
    rw [there]
    dsimp only
    split
    · rename_i key pending
      exact absurd rfl (other key pending)
    · rfl
  · rfl

structure LimiterValid (env : ProxyEnv) (base : String) (windowMs maxRequests : Nat)
    (config : LimiterConfig) : Prop where
  agreed : ∀ thread ∈ config.threads, thread.call.base = base →
    thread.call.windowMs env = windowMs ∧ thread.call.maxRequests env = maxRequests
  clocks : ∀ thread ∈ config.threads, ReadsClock config.state thread
  disciplined : ∀ thread ∈ config.threads, System.Disciplined (LimiterPermits env) (LimiterEnds env) thread

theorem limiter_valid (reached : System.Reaches (limiters env) (LimiterStep env base windowMs maxRequests) start config)
    (initial : start.threads = []) : LimiterValid env base windowMs maxRequests config where
  agreed := reached.calls (fun _ _ allow => allow) (by simp [initial])
  clocks := ((readsClock_modular env).run (fun _ _ _ _ _ _ _ _ => trivial) reached ⟨trivial, by simp [initial]⟩).2
  disciplined := reached.disciplined (rateLimiter_obeys env) initial

theorem Counted.next {label : LimiterLabel} (positive : 0 < windowMs)
    (valid : LimiterValid env base windowMs maxRequests config) (counted : Counted base windowMs history config)
    (allow : LimiterStep env base windowMs maxRequests config label)
    (moved : (limiters env).next config label = some after) :
    Counted base windowMs (history ++ (observeHit config label).toList) after := by
  have step := moved
  rcases System.next_cases step with ⟨call, rfl, rfl⟩ |
    ⟨index, fault, thread, advanced, state, rfl, there, stepped, rfl⟩ |
    ⟨index, thread, rfl, there, rfl⟩ | ⟨elapsed, rfl, rfl⟩
  · exact counted.quiet moved rfl fun _ _ holds => holds
  · have member := List.mem_of_getElem? there
    obtain ⟨op, resume, reply, _, program, executed, rfl⟩ := System.advance_cases stepped
    have pending : thread.program.pending = some op := by rw [program]; rfl
    have permitted := (valid.disciplined thread member).permitted program
    cases exec_counterStep executed with
    | incr key counters =>
      obtain ⟨now, first, named⟩ := permitted
      have instant : now = config.state.clock := by
        have reading := allow thread key there pending
        rw [first] at reading
        simpa using (List.mem_singleton.mp reading).symm
      subst instant
      have inside := (List.getElem?_eq_some_iff.mp there).1
      have observed : observeHit config (.step index .none) = some ⟨index, thread.call, config.state.clock⟩ := by
        simp [observeHit, there, pending]
      have answer : reply = .ok (config.state.counters.incr config.state.clock key).1 := by
        cases executed
        rfl
      exact counted.hit positive moved observed (List.getElem?_set_self inside) rfl rfl named
        (fun mine => (valid.agreed thread member mine).1) (by simp [answer]) counters
    | pexpire key ms _ counters =>
      obtain ⟨now, reading, named, rfl⟩ := permitted
      obtain ⟨past, same, earlier⟩ := valid.clocks thread member _ reading
      cases same
      have unobserved : observeHit config (.step index fault) = none :=
        observeHit_other there fun other same => by simp [pending] at same
      refine counted.quiet moved unobserved fun window count holds => ?_
      rw [counters]
      by_cases shared : counterKey base window = key
      · obtain ⟨mine, reached⟩ := counterKey_inj (shared.trans named)
        rw [(valid.agreed thread member mine.symm).1] at reached ⊢
        have aligned : now / windowMs * windowMs ≤ now := (window_bounds positive).1
        rw [← shared]
        refine holds.pexpire ?_
        rw [← reached] at aligned
        rw [Nat.add_mul]
        omega
      · exact holds.congr (Store.Counters.pexpire_other _ _ _ shared)
    | keep _ _ uncounted counters =>
      have unobserved : observeHit config (.step index fault) = none := by
        refine observeHit_other there fun key same => uncounted key ?_
        exact Option.some.inj (pending.symm.trans same)
      refine counted.quiet moved unobserved fun window count holds => ?_
      rw [counters]
      exact holds
  · exact counted.quiet moved rfl fun _ _ holds => holds
  · exact counted.quiet moved rfl fun _ _ holds => holds

theorem counted_run (positive : 0 < windowMs) (initial : start.threads = [])
    (fresh : ∀ window, start.state.counters (counterKey base window) = none)
    (recorded : System.Records (limiters env) (LimiterStep env base windowMs maxRequests) observeHit
      start history config) :
    Counted base windowMs history config := by
  refine recorded.invariant ⟨fun window => .absent (fresh window), fun _ _ _ found => by simp [hitsIn] at found⟩ ?_
  intro history config label after reached counted allow moved
  exact counted.next positive (limiter_valid reached initial) allow moved

theorem hit_answer {thread : LimiterThread} {window position : Nat} (positive : 0 < maxRequests)
    (valid : LimiterValid env base windowMs maxRequests config) (member : thread ∈ config.threads)
    (mine : thread.call.base = base)
    (numbered : ⟨.redisIncr (counterKey base window), .ok (position + 1)⟩ ∈ thread.past)
    {outcome : Except Thrown (Option AppError)} (answered : thread.answered outcome) :
    outcome = .ok (if position < maxRequests then none else some tooManyRequestsError) := by
  have agreed := (valid.agreed thread member mine).2
  have readable : ∀ thrown, ⟨.gateway .dateNow, .error thrown⟩ ∉ thread.past := by
    intro thrown failed
    obtain ⟨now, same, _⟩ := valid.clocks thread member _ failed
    cases same
  have ended := (valid.disciplined thread member).ended answered
  rw [ended (by omega) readable _ _ numbered, agreed]
  rfl

end Runs

/-- What a limit of so many requests in an aligned window comes to. -/
structure AdmissionBound (base : String) (windowMs maxRequests : Nat) (history : List Hit)
    (config : LimiterConfig) : Prop where
  answers : ∀ (window position : Nat) (hit : Hit), (hitsIn base windowMs window history)[position]? = some hit →
    ∃ thread, config.threads[hit.index]? = some thread ∧ thread.call = hit.call ∧
      ∀ outcome, thread.answered outcome →
        outcome = .ok (if position < maxRequests then none else some tooManyRequestsError)
  admitted : ∀ window, (∀ hit ∈ hitsIn base windowMs window history, ∀ thread,
      config.threads[hit.index]? = some thread → ∃ outcome, thread.answered outcome) →
    (hitsIn base windowMs window history).filter (Hit.admitted config) =
      (hitsIn base windowMs window history).take maxRequests
  unreset : ∀ window, config.state.clock < (window + 1) * windowMs →
    config.state.counters.read config.state.clock (counterKey base window) =
      (hitsIn base windowMs window history).length
  interval : ∀ opening, history.countP (fun hit => hit.call.base = base ∧ opening ≤ hit.instant ∧
      hit.instant ≤ opening + windowMs ∧ hit.admitted config = true) ≤ 2 * maxRequests

theorem Hit.admitted_iff {config : LimiterConfig} {hit : Hit} {thread : LimiterThread}
    (found : config.threads[hit.index]? = some thread) : hit.admitted config = true ↔ thread.answered (.ok none) := by
  unfold Hit.admitted Thread.answered
  rw [found]
  dsimp only
  split
  · rename_i program
    simp [program]
  · rename_i other
    simpa using other

theorem interval_windows {instant opening windowMs : Nat} (positive : 0 < windowMs) (after : opening ≤ instant)
    (before : instant ≤ opening + windowMs) :
    instant / windowMs = opening / windowMs ∨ instant / windowMs = opening / windowMs + 1 := by
  have lower := Nat.div_le_div_right (c := windowMs) after
  have upper := Nat.div_le_div_right (c := windowMs) before
  rw [Nat.add_div_right _ positive] at upper
  omega

theorem rateLimiter_bounded {env : ProxyEnv} {base : String} {windowMs maxRequests : Nat} (windowed : 0 < windowMs)
    (limited : 0 < maxRequests) {start config : LimiterConfig} {history : List Hit} (initial : start.threads = [])
    (fresh : ∀ window, start.state.counters (counterKey base window) = none)
    (recorded : System.Records (limiters env) (LimiterStep env base windowMs maxRequests) observeHit start history
      config) : AdmissionBound base windowMs maxRequests history config := by
  have valid := limiter_valid recorded.reaches initial
  have counted := counted_run windowed initial fresh recorded
  have answers : ∀ (window position : Nat) (hit : Hit), (hitsIn base windowMs window history)[position]? = some hit →
      ∃ thread, config.threads[hit.index]? = some thread ∧ thread.call = hit.call ∧
        ∀ outcome, thread.answered outcome →
          outcome = .ok (if position < maxRequests then none else some tooManyRequestsError) := by
    intro window position hit found
    obtain ⟨thread, present, called, numbered⟩ := counted.numbered window position hit found
    have mine : thread.call.base = base := by
      have listed := (List.mem_filter.mp (List.mem_of_getElem? found)).2
      rw [called]
      exact (of_decide_eq_true listed).1
    exact ⟨thread, present, called, fun outcome =>
      hit_answer limited valid (List.mem_of_getElem? present) mine numbered⟩
  have first : ∀ (window position : Nat) (hit : Hit), (hitsIn base windowMs window history)[position]? = some hit →
      hit.admitted config = true → position < maxRequests := by
    intro window position hit found passed
    obtain ⟨thread, present, _, decided⟩ := answers window position hit found
    have outcome := decided _ ((Hit.admitted_iff present).mp passed)
    by_contra late
    rw [if_neg late] at outcome
    cases outcome
  refine ⟨answers, fun window ended => ?_, fun window lasts => (counted.counters window).read lasts, fun opening => ?_⟩
  · refine Lists.filter_eq_take fun position hit found => ⟨first window position hit found, fun early => ?_⟩
    obtain ⟨thread, present, _, decided⟩ := answers window position hit found
    obtain ⟨outcome, answered⟩ := ended hit (List.mem_of_getElem? found) thread present
    have same := decided outcome answered
    rw [if_pos early] at same
    exact (Hit.admitted_iff present).mpr (same ▸ answered)
  · have within : ∀ window, (hitsIn base windowMs window history).countP (Hit.admitted config) ≤ maxRequests :=
      fun window => Lists.countP_le_of_first (first window)
    have here := within (opening / windowMs)
    have next := within (opening / windowMs + 1)
    unfold hitsIn at here next
    rw [List.countP_filter] at here next
    refine Nat.le_trans (Lists.countP_le_add fun hit _ kept => ?_) (Nat.le_trans (Nat.add_le_add here next) (by omega))
    obtain ⟨mine, after, before, passed⟩ := of_decide_eq_true kept
    rcases interval_windows windowed after before with same | same
    · exact .inl (by simp [passed, mine, same])
    · exact .inr (by simp [passed, mine, same])

/-! Two requests, of which the second is over the limit -/

def limitedCall : LimiterCall where
  options := { windowMs := some 1000, maxRequests := some 1 }
  req := sampleRequest "/login"

def permitsLimited (config : LimiterConfig) : LimiterLabel → Bool
  | .call call => call.windowMs sampleProxy = 1000 ∧ call.maxRequests sampleProxy = 1
  | .step index .none =>
    match config.threads[index]? with
    | some thread =>
      match thread.program.pending with
      | some (.redisIncr _) =>
        match thread.past with
        | [⟨.gateway .dateNow, .ok now⟩] => now == config.state.clock
        | _ => false
      | _ => true
    | none => false
  | _ => true

theorem permitsLimited_sound (config : LimiterConfig) (label : LimiterLabel)
    (permitted : permitsLimited config label = true) : LimiterStep sampleProxy limitedCall.base
    1000 1 config label := by
  cases label with
  | call call =>
    intro _
    simpa [permitsLimited] using permitted
  | step index fault =>
    cases fault with
    | none =>
      intro thread key there pending
      simp only [permitsLimited, there, pending] at permitted
      split at permitted
      · rename_i first
        rw [first, ← eq_of_beq permitted]
        exact List.mem_singleton_self _
      · cases permitted
    | lost => trivial
    | unacknowledged => trivial
  | crash index => trivial
  | external elapsed => trivial

def emptyCounters : LimiterConfig where
  state := { clock := 1500, counters := fun _ => none }
  threads := []

/-- The first request loses its PEXPIRE, and the second is refused a little later. -/
def limitedRun : List LimiterLabel :=
  [.call limitedCall, .call limitedCall, .step 0 .none, .step 0 .none, .step 0 .lost, .external 100] ++
    List.replicate 7 (.step 1 .none)

theorem limitedRun_bounded : ∃ history config,
    history.map (fun hit => (hit.index, hit.instant, hit.admitted config)) = [(0, 1500, true), (1, 1600, false)] ∧
      AdmissionBound limitedCall.base 1000 1 history config := by
  have passed : ((limiters sampleProxy).runRecorded permitsLimited observeHit limitedRun [] emptyCounters).any
      (fun ended => ended.1.map (fun hit => (hit.index, hit.instant, hit.admitted ended.2)) =
        [(0, 1500, true), (1, 1600, false)]) = true := by decide +kernel
  obtain ⟨history, config, recorded, checked⟩ := System.Records.of_checks permitsLimited_sound passed
  exact ⟨history, config, of_decide_eq_true checked,
    rateLimiter_bounded (by decide) (by decide) rfl (fun _ => rfl) recorded⟩

end GatewayProof
