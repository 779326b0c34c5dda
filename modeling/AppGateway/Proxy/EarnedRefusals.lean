import AppGateway.Proxy.CounterExpiry
import AppGateway.Proxy.LimitHeaders

namespace GatewayProof

open Async GatewayModel

def incrOf : ProxyEffect → Option String
  | .redisIncr key => some key
  | _ => none

/-- The request has sent the INCR of this counter, whatever has become of it. -/
def hasCounted (key : String) (thread : LimiterThread) : Bool :=
  thread.past.any fun event => incrOf event.op = some key

structure EarnedCounts (key : String) (config : LimiterConfig) : Prop where
  held : config.state.counters.held key ≤ config.threads.countP (hasCounted key)
  told : ∀ thread ∈ config.threads, ∀ count : Nat, ⟨.redisIncr key, .ok count⟩ ∈ thread.past →
    count ≤ config.threads.countP (hasCounted key)

section Runs

variable {env : ProxyEnv} {key : String} {start config after : LimiterConfig}

theorem incrOf_eq_some {effect : ProxyEffect} : incrOf effect = some key ↔ effect = .redisIncr key := by
  cases effect <;> simp [incrOf]

theorem exec_held {effect : ProxyEffect} {fault : Fault} {before later : CounterState}
    {reply : Except Thrown effect.Reply}
    (executed : CounterState.execFaulty effect fault before = some (reply, later)) :
    later.counters.held key ≤ before.counters.held key + (if incrOf effect = some key then 1 else 0) ∧
      ∀ count : Nat, (⟨effect, reply⟩ : ProxyEvent) = ⟨.redisIncr key, .ok count⟩ →
      count ≤ before.counters.held key + 1 := by
  have counts : ∀ other : String, ((before.counters.incr before.clock other).2).held key ≤
      before.counters.held key + (if incrOf (.redisIncr other) = some key then 1 else 0) := by
    intro other
    by_cases same : other = key
    · subst same
      have own : incrOf (.redisIncr other) = some other := rfl
      rw [Store.Counters.held_incr, if_pos own]
      exact Store.Counters.incr_le ..
    · rw [Store.Counters.held, Store.Counters.incr_other _ _ (Ne.symm same)]
      exact Nat.le_add_right ..
  unfold CounterState.execFaulty at executed
  split at executed
  · cases executed
    exact ⟨counts _, fun _ same => by cases same⟩
  · unfold CounterState.exec at executed
    split at executed <;> cases executed
    · exact ⟨Nat.le_add_right .., fun _ same => by cases same⟩
    · refine ⟨counts _, fun count same => ?_⟩
      cases same
      exact Store.Counters.incr_le ..
    · exact ⟨Nat.le_add_right .., fun _ same => by cases same⟩
    · exact ⟨by rw [Store.Counters.held_pexpire]; exact Nat.le_add_right .., fun _ same => by cases same⟩
    · exact ⟨Nat.le_add_right .., fun _ same => by cases same⟩
    · exact ⟨by rw [Store.Counters.held_pexpire]; exact Nat.le_add_right .., fun _ same => by cases same⟩
    · exact ⟨Nat.le_add_right .., fun _ same => by cases same⟩

theorem not_counted_before {thread : LimiterThread} {other : String}
    (disciplined : System.Disciplined (LimiterPermits env) (LimiterEnds env) thread)
    {resume : Except Thrown (ProxyEffect.redisIncr key).Reply → Proxy (Option AppError)}
    (program : thread.program = .await (.redisIncr key) resume) : hasCounted other thread = false := by
  obtain ⟨now, past, _⟩ := disciplined.permitted program
  simp [hasCounted, past, incrOf]

theorem hasCounted_snoc {thread : LimiterThread} {event : ProxyEvent} {program : Proxy (Option AppError)} :
    hasCounted key { thread with past := thread.past ++ [event], program } =
      (hasCounted key thread || decide (incrOf event.op = some key)) := by
  simp [hasCounted, List.any_append]

theorem EarnedCounts.next {label : LimiterLabel} (earned : EarnedCounts key config)
    (disciplined : ∀ thread ∈ config.threads, System.Disciplined (LimiterPermits env) (LimiterEnds env) thread)
    (moved : (faultyLimiters env).next config label = some after) : EarnedCounts key after := by
  rcases System.next_cases moved with ⟨call, rfl, rfl⟩ |
    ⟨place, fault, old, advanced, state, rfl, there, stepped, rfl⟩ |
    ⟨place, old, rfl, there, rfl⟩ | ⟨elapsed, rfl, rfl⟩
  · have same : (config.threads ++ [Thread.start (faultyLimiters env) call]).countP (hasCounted key) =
        config.threads.countP (hasCounted key) := by simp [hasCounted, Thread.start]
    refine ⟨same ▸ earned.held, fun thread member count told => ?_⟩
    rw [same]
    rcases List.mem_append.mp member with earlier | started
    · exact earned.told thread earlier count told
    · rw [List.mem_singleton.mp started] at told
      cases told
  · have present := List.mem_of_getElem? there
    obtain ⟨effect, resume, reply, _, program, executed, rfl⟩ := System.advance_cases stepped
    obtain ⟨held, told⟩ := @exec_held key _ _ _ _ _ executed
    -- the stepping thread counts on the key from now on, or nothing changes
    have grown : (config.threads.set place
      { old with past := old.past ++ [⟨effect, reply⟩], program := resume reply }).countP
        (hasCounted key) = config.threads.countP (hasCounted key) + (if incrOf effect = some key then 1 else 0) := by
      by_cases own : incrOf effect = some key
      · obtain rfl := incrOf_eq_some.mp own
        have first := @not_counted_before _ _ _ key (disciplined old present) _ program
        obtain ⟨inside, found⟩ := List.getElem?_eq_some_iff.mp there
        rw [List.countP_set inside, found, hasCounted_snoc, first, if_pos own]
        simp [own]
      · rw [if_neg own]
        apply Lists.countP_set_same there
        rw [hasCounted_snoc]
        simp [own]
    refine ⟨grown ▸ Nat.le_trans held (Nat.add_le_add_right earned.held _), fun thread member count known => ?_⟩
    rw [grown]
    rcases List.mem_or_eq_of_mem_set member with earlier | rfl
    · exact Nat.le_trans (earned.told thread earlier count known) (Nat.le_add_right ..)
    · rcases List.mem_append.mp known with earlier | now
      · exact Nat.le_trans (earned.told old present count earlier) (Nat.le_add_right ..)
      · have same := (List.mem_singleton.mp now).symm
        have own : incrOf effect = some key := incrOf_eq_some.mpr (congrArg Event.op same)
        rw [if_pos own]
        exact Nat.le_trans (told count same) (Nat.add_le_add_right earned.held 1)
  · have same := @Lists.countP_set_same _ config.threads (hasCounted key) place old
      { old with alive := false } there rfl
    refine ⟨same ▸ earned.held, fun thread member count told => ?_⟩
    rw [same]
    rcases List.mem_or_eq_of_mem_set member with earlier | rfl
    · exact earned.told thread earlier count told
    · exact earned.told old (List.mem_of_getElem? there) count told
  · exact ⟨earned.held, earned.told⟩

end Runs

end GatewayProof
