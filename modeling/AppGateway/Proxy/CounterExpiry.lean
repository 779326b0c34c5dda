import AppGateway.Proxy.RateLimit

namespace GatewayProof

open Async GatewayModel

def CounterState.execFaulty : (effect : ProxyEffect) → Fault → CounterState →
    Option (Except Thrown effect.Reply × CounterState)
  | .redisIncr key, .unacknowledged, state =>
    some (.error (.error "Connection is closed."),
      { state with counters := (state.counters.incr state.clock key).2 })
  | effect, fault, state => CounterState.exec effect fault state

def faultyLimiters (env : ProxyEnv) :
    System ProxyEffect.Reply Thrown CounterState Fault Nat LimiterCall (Option AppError) where
  exec := CounterState.execFaulty
  external elapsed state := { state with clock := state.clock + elapsed }
  code call := rateLimiter env call.options call.req

def Idle (config : LimiterConfig) : Prop := ∀ thread ∈ config.threads, thread.running = false

def AllExpire (state : CounterState) : Prop :=
  ∀ key counter, state.counters.lookup state.clock key = some counter → counter.expiresAt.isSome

/-- The INCR that makes a counter keeps its reply, no PEXPIRE fails without effect, and no process crashes before its
    PEXPIRE. -/
def ExpiryKept (config : LimiterConfig) : LimiterLabel → Prop
  | .step index fault => ∀ thread, config.threads[index]? = some thread → ∀ key,
    (thread.program.pending = some (.redisIncr key) → fault = .unacknowledged →
      config.state.counters.lookup config.state.clock key ≠ none) ∧
    ∀ ms, thread.program.pending = some (.redisPexpire key ms) → fault ≠ .lost
  | .crash index => ∀ thread, config.threads[index]? = some thread → thread.alive = true →
    ∀ key ms, thread.program.pending ≠ some (.redisPexpire key ms)
  | _ => True

def MadeCounter (past : List ProxyEvent) (key : String) : Prop := past.getLast? = some ⟨.redisIncr key, .ok (1 : Nat)⟩

def ExpiryPermits (past : List ProxyEvent) (effect : ProxyEffect) : Prop :=
  ∀ key, MadeCounter past key → ∃ ms, effect = .redisPexpire key ms

def ExpiryEnds (past : List ProxyEvent) (_ : Except Thrown (Option AppError)) : Prop := ∀ key, ¬ MadeCounter past key

theorem madeCounter_snoc {past : List ProxyEvent} {event : ProxyEvent} {key : String} :
    MadeCounter (past ++ [event]) key ↔ event = ⟨.redisIncr key, .ok (1 : Nat)⟩ := by
  rw [MadeCounter, List.getLast?_concat, Option.some.injEq]

theorem expiry_behind {α : Type} {program : Proxy α} {past : List ProxyEvent}
    (uses : program.Uses fun op => ∀ key, op ≠ .redisIncr key) (settled : ∀ key, ¬ MadeCounter past key) :
    program.Obeys ExpiryPermits (fun whole _ => ∀ key, ¬ MadeCounter whole key) past := by
  induction program generalizing past with
  | done outcome => exact settled
  | await op resume ih =>
    refine ⟨fun key made => absurd made (settled key), fun reply => ih reply (uses.2 reply) fun key made => ?_⟩
    exact uses.1 key (congrArg Event.op (madeCounter_snoc.mp made))

theorem rateLimiter_expires (env : ProxyEnv) (call : LimiterCall) :
    (rateLimiter env call.options call.req).Obeys ExpiryPermits ExpiryEnds [] := by
  have settled : ∀ {past : List ProxyEvent} {event : ProxyEvent}, (∀ key, event ≠ ⟨.redisIncr key, .ok (1 : Nat)⟩) →
      ∀ key, ¬ MadeCounter (past ++ [event]) key :=
    fun other key made => other key (madeCounter_snoc.mp made)
  refine ⟨nofun, fun clock => ?_⟩
  rcases clock with thrown | now
  · exact settled nofun
  refine ⟨fun key made => (nomatch Option.some.inj made), fun counted => ?_⟩
  rcases counted with thrown | count
  · exact settled nofun
  by_cases first : count = 1
  · subst first
    refine ⟨fun key made => ?_, fun expires => ?_⟩
    · cases madeCounter_snoc.mp made
      exact ⟨_, rfl⟩
    · rcases expires with thrown | _
      · exact settled nofun
      · exact expiry_behind (limitRequest_uncounted _ _ _) (settled nofun)
  · simp only [Program.done_ok_bind, first, if_false]
    refine expiry_behind (limitRequest_uncounted _ _ _) (settled fun key same => ?_)
    cases same
    exact first rfl

section Runs

variable {env : ProxyEnv} {start config after : LimiterConfig}

theorem lookup_unexpiring {counters : Store.Counters String} {key : String} {count : Nat} (now : Nat)
    (stored : counters key = some ⟨count, none⟩) : counters.lookup now key = some ⟨count, none⟩ := by
  simp [Store.Counters.lookup, stored]

theorem incr_unexpiring {counters : Store.Counters String} {now count : Nat} {key other : String}
    (stored : (counters.incr now other).2 key = some ⟨count, none⟩) :
    (∃ earlier, counters key = some ⟨earlier, none⟩) ∨
    (other = key ∧ counters.lookup now key = none ∧ (counters.incr now other).1 = 1) := by
  by_cases same : key = other
  · subst same
    cases found : counters.lookup now key with
    | none => exact .inr ⟨rfl, rfl, by simp [Store.Counters.incr, found]⟩
    | some counter =>
      have kept : counter.expiresAt = none := by
        simp only [Store.Counters.incr, found, Function.update_self, Option.some.injEq] at stored
        rw [Store.Counter.mk.injEq] at stored
        exact stored.2
      exact .inl ⟨counter.count, (Option.filter_eq_some_iff.mp found).1.trans (by rw [← kept])⟩
  · rw [Store.Counters.incr_other counters now same] at stored
    exact .inl ⟨count, stored⟩

theorem pexpire_unexpiring {counters : Store.Counters String} {now ms count : Nat} {key other : String}
    (stored : counters.pexpire now other ms key = some ⟨count, none⟩) :
    counters key = some ⟨count, none⟩ ∧ key ≠ other := by
  by_cases same : key = other
  · subst same
    cases found : counters.lookup now key with
    | some counter => simp [Store.Counters.pexpire, found] at stored
    | none =>
      simp only [Store.Counters.pexpire, found] at stored
      rw [lookup_unexpiring now stored] at found
      cases found
  · rw [Store.Counters.pexpire_other counters now ms same] at stored
    exact ⟨stored, same⟩

theorem exec_unexpiring {effect : ProxyEffect} {fault : Fault} {before later : CounterState}
    {reply : Except Thrown effect.Reply} {key : String} {count : Nat}
    (executed : CounterState.execFaulty effect fault before = some (reply, later))
    (stored : later.counters key = some ⟨count, none⟩) :
    (∃ earlier, before.counters key = some ⟨earlier, none⟩ ∧ ∀ ms, effect = .redisPexpire key ms → fault = .lost) ∨
    (⟨effect, reply⟩ : ProxyEvent) = ⟨.redisIncr key, .ok (1 : Nat)⟩ ∨
    (effect = .redisIncr key ∧ fault = .unacknowledged ∧ before.counters.lookup before.clock key = none) := by
  unfold CounterState.execFaulty at executed
  split at executed
  · cases executed
    rcases incr_unexpiring stored with ⟨earlier, kept⟩ | ⟨rfl, free, _⟩
    · exact .inl ⟨earlier, kept, nofun⟩
    · exact .inr (.inr ⟨rfl, rfl, free⟩)
  · unfold CounterState.exec at executed
    split at executed <;> cases executed
    · exact .inl ⟨count, stored, nofun⟩
    · rcases incr_unexpiring stored with ⟨earlier, kept⟩ | ⟨rfl, _, one⟩
      · exact .inl ⟨earlier, kept, nofun⟩
      · exact .inr (.inl (congrArg (fun number : Nat => (⟨.redisIncr _, .ok number⟩ : ProxyEvent)) one))
    · exact .inl ⟨count, stored, nofun⟩
    · obtain ⟨kept, different⟩ := pexpire_unexpiring stored
      refine .inl ⟨count, kept, fun ms same => ?_⟩
      cases same
      exact absurd rfl different
    · exact .inl ⟨count, stored, fun _ _ => rfl⟩
    · obtain ⟨kept, different⟩ := pexpire_unexpiring stored
      refine .inl ⟨count, kept, fun ms same => ?_⟩
      cases same
      exact absurd rfl different
    · exact .inl ⟨count, stored, nofun⟩

theorem pexpire_pending {thread : LimiterThread} {key : String}
    (disciplined : System.Disciplined (fun _ => ExpiryPermits) (fun _ => ExpiryEnds) thread)
    (made : MadeCounter thread.past key) : ∃ ms, thread.program.pending = some (.redisPexpire key ms) := by
  cases program : thread.program with
  | done outcome => exact absurd made (disciplined.ended program key)
  | await op resume =>
    obtain ⟨ms, rfl⟩ := disciplined.permitted program key made
    exact ⟨ms, rfl⟩

def Covered (config : LimiterConfig) : Prop :=
  ∀ key count, config.state.counters key = some ⟨count, none⟩ →
    ∃ (index : Nat) (thread : LimiterThread), config.threads[index]? = some thread ∧ thread.alive = true ∧
      MadeCounter thread.past key

theorem Covered.next {label : LimiterLabel} (covered : Covered config)
    (disciplined : ∀ thread ∈ config.threads, System.Disciplined (fun _ => ExpiryPermits) (fun _ => ExpiryEnds) thread)
    (allow : ExpiryKept config label) (moved : (faultyLimiters env).next config label = some after) :
    Covered after := by
  rcases System.next_cases moved with ⟨call, rfl, rfl⟩ |
    ⟨place, fault, old, advanced, state, rfl, there, stepped, rfl⟩ |
    ⟨place, old, rfl, there, rfl⟩ | ⟨elapsed, rfl, rfl⟩
  · intro key count stored
    obtain ⟨index, thread, found, alive, made⟩ := covered key count stored
    have inside := (List.getElem?_eq_some_iff.mp found).1
    exact ⟨index, thread, by rw [List.getElem?_append_left inside, found], alive, made⟩
  · obtain ⟨op, resume, reply, alive, program, executed, rfl⟩ := System.advance_cases stepped
    have pending : old.program.pending = some op := by
      rw [program]
      rfl
    have inside := (List.getElem?_eq_some_iff.mp there).1
    intro key count stored
    rcases exec_unexpiring executed stored with ⟨earlier, kept, unset⟩ | made | ⟨rfl, lost, free⟩
    · obtain ⟨index, thread, found, living, made⟩ := covered key earlier kept
      by_cases same : index = place
      · subst same
        obtain rfl := Option.some.inj (found.symm.trans there)
        obtain ⟨ms, awaits⟩ := pexpire_pending (disciplined thread (List.mem_of_getElem? found)) made
        have own : op = .redisPexpire key ms := Option.some.inj (pending.symm.trans awaits)
        exact absurd (unset ms own) ((allow thread found key).2 ms awaits)
      · exact ⟨index, thread, by rw [List.getElem?_set_ne (Ne.symm same), found], living, made⟩
    · exact ⟨place, _, List.getElem?_set_self inside, alive, madeCounter_snoc.mpr made⟩
    · exact absurd free ((allow old there key).1 pending lost)
  · intro key count stored
    obtain ⟨index, thread, found, alive, made⟩ := covered key count stored
    by_cases same : index = place
    · subst same
      obtain rfl := Option.some.inj (found.symm.trans there)
      obtain ⟨ms, awaits⟩ := pexpire_pending (disciplined thread (List.mem_of_getElem? found)) made
      exact absurd awaits (allow thread found alive key ms)
    · exact ⟨index, thread, by rw [List.getElem?_set_ne (Ne.symm same), found], alive, made⟩
  · exact covered

/-- Where no reply to the INCR that makes a counter is lost, no PEXPIRE fails and no process crashes before its PEXPIRE,
    every counter has an expiry once no call is in progress. -/
theorem counters_expire (initial : start.threads = []) (fresh : ∀ key, start.state.counters key = none)
    (reached : System.Reaches (faultyLimiters env) ExpiryKept start config) :
    Idle config → AllExpire config.state := by
  have along := reached.along fun middle earlier =>
    System.Reaches.disciplined (rateLimiter_expires env) earlier initial
  have covered : Covered config := by
    refine along.invariant (fun key count stored => ?_) fun _ _ _ holds allow moved => holds.next allow.2 allow.1 moved
    rw [fresh key] at stored
    cases stored
  intro idle key counter found
  obtain ⟨count, expiresAt⟩ := counter
  cases expiresAt with
  | some instant => rfl
  | none =>
    have stored := (Option.filter_eq_some_iff.mp found).1
    obtain ⟨index, thread, there, alive, made⟩ := covered key count stored
    have member := List.mem_of_getElem? there
    have stopped := idle thread member
    have disciplined := System.Reaches.disciplined (rateLimiter_expires env) reached initial thread member
    obtain ⟨ms, awaits⟩ := pexpire_pending disciplined made
    cases program : thread.program with
    | done outcome => exact absurd made (disciplined.ended program key)
    | await op resume => simp [Thread.running, alive, program, Program.running] at stopped

end Runs

/-! Two requests, and where the expiry of a counter is lost -/

def keepsExpiry (config : LimiterConfig) : LimiterLabel → Bool
  | .step index .lost =>
    match config.threads[index]? with
    | some thread =>
      match thread.program.pending with
      | some (.redisPexpire ..) => false
      | _ => true
    | none => false
  | .step _ .unacknowledged => false
  | .crash _ => false
  | _ => true

theorem keepsExpiry_sound (config : LimiterConfig) (label : LimiterLabel)
    (permitted : keepsExpiry config label = true) : ExpiryKept config label := by
  cases label with
  | call call => trivial
  | step index fault =>
    intro thread there key
    cases fault with
    | none => exact ⟨fun _ lost => (nomatch lost), fun _ _ lost => (nomatch lost)⟩
    | lost =>
      refine ⟨fun _ lost => (nomatch lost), fun ms awaits _ => ?_⟩
      simp [keepsExpiry, there, awaits] at permitted
    | unacknowledged => cases permitted
  | crash index => cases permitted
  | external elapsed => trivial

def idles (config : LimiterConfig) : Bool := config.threads.all fun thread => !thread.running

theorem idles_sound {config : LimiterConfig} (passed : idles config = true) : Idle config := by
  intro thread member
  simpa using List.all_eq_true.mp passed thread member

def expiringRun : List LimiterLabel :=
  [.call limitedCall, .call limitedCall, .step 0 .none, .step 0 .lost] ++ List.replicate 6 (.step 1 .none)

theorem expiringRun_expires : ∃ config : LimiterConfig,
    config.state.counters.lookup config.state.clock "ratelimit:127.0.0.1:1" = some ⟨1, some 2500⟩ ∧ Idle config ∧
      AllExpire config.state := by
  have passed : ((faultyLimiters sampleProxy).runChecked keepsExpiry expiringRun emptyCounters).any
      (fun config => idles config && decide
        (config.state.counters.lookup config.state.clock "ratelimit:127.0.0.1:1" = some ⟨1, some 2500⟩)) = true := by
    decide +kernel
  obtain ⟨config, reached, checked⟩ := System.Reaches.of_checks keepsExpiry_sound passed
  obtain ⟨idle, counted⟩ := Bool.and_eq_true_iff.mp checked
  exact ⟨config, of_decide_eq_true counted, idles_sound idle,
    counters_expire rfl (fun _ => rfl) reached (idles_sound idle)⟩

/-- The request makes the counter, loses its PEXPIRE and is admitted. -/
def unexpiringRun : List LimiterLabel :=
  [.call limitedCall, .step 0 .none, .step 0 .none, .step 0 .lost]

theorem unexpiringRun_stays : ∃ config, System.Reaches
    (faultyLimiters sampleProxy) System.anyStep emptyCounters config ∧
    Idle config ∧ ¬ AllExpire config.state := by
  have passed : ((faultyLimiters sampleProxy).run unexpiringRun emptyCounters).any
      (fun config => idles config &&
        decide (config.state.counters.lookup config.state.clock "ratelimit:127.0.0.1:1" = some ⟨1, none⟩)) = true := by
    decide +kernel
  obtain ⟨config, reached, checked⟩ := System.Reaches.of_check passed
  obtain ⟨idle, stays⟩ := Bool.and_eq_true_iff.mp checked
  refine ⟨config, reached, idles_sound idle, fun expire => ?_⟩
  have set := expire _ _ (of_decide_eq_true stays)
  cases set

end GatewayProof
