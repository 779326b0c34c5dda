import AppGateway.Model.ProxyDispatch
import AppGateway.Proxy.Mediation
import AppGateway.Refinement.Simulation

namespace GatewayProof

open Async GatewayModel
open GatewayModel.DispatchState (settle emit onError onNext resume step fresh getProxyMiddleware)

/-! Calls on their own -/

structure DispatchCall.Sound (call : DispatchCall) : Prop where
  waiting : call.settled = false → call.settlements = [] ∧ call.returned = none
  settled : call.settled = true → ∃ outcome, call.settlements = [outcome]
  returned : call.returned = none ∨ call.returned = call.settlements.head?

theorem sound_new (route : RouteConfig) (req : Nat) (originalUrl : String) : DispatchCall.Sound
    { route, res := req, originalUrl, settled := false, settlements := [], returned := none } where
  waiting := fun _ => ⟨rfl, rfl⟩
  settled := fun flag => by cases flag
  returned := .inl rfl

theorem DispatchCall.Sound.settle {call : DispatchCall} (sound : DispatchCall.Sound call) (waits : call.settled = false)
    (outcome : Except Thrown Unit) : DispatchCall.Sound (call.settle outcome) := by
  obtain ⟨none_yet, running⟩ := sound.waiting waits
  constructor
  · intro flag
    cases flag
  · intro _
    exact ⟨outcome, by rw [DispatchCall.settle, none_yet, List.nil_append]⟩
  · exact .inl running

theorem DispatchCall.Sound.resume {call : DispatchCall} (sound : DispatchCall.Sound call) {outcome : Except Thrown Unit}
    (first : call.settlements.head? = some outcome) : DispatchCall.Sound { call with returned := some outcome } := by
  constructor
  · intro waits
    rw [(sound.waiting waits).1] at first
    cases first
  · exact sound.settled
  · exact .inr first.symm

def DispatchCall.callback (outcome : RouteConfig → Except Thrown Unit) (call : DispatchCall) : DispatchCall :=
  if call.settled then call else call.settle (outcome call.route)

theorem callback_waiting {call : DispatchCall} {outcome : RouteConfig → Except Thrown Unit}
    (waits : call.settled = false) : DispatchCall.callback outcome call = call.settle (outcome call.route) := by
  rw [DispatchCall.callback, waits]
  rfl

theorem callback_settled {call : DispatchCall} {outcome : RouteConfig → Except Thrown Unit}
    (done : call.settled = true) : DispatchCall.callback outcome call = call := by
  rw [DispatchCall.callback, if_pos done]

@[simp] theorem callback_res (outcome : RouteConfig → Except Thrown Unit) (call : DispatchCall) :
    (DispatchCall.callback outcome call).res = call.res := by
  unfold DispatchCall.callback
  split <;> rfl

@[simp] theorem callback_flag (outcome : RouteConfig → Except Thrown Unit) (call : DispatchCall) :
    (DispatchCall.callback outcome call).settled = true := by
  unfold DispatchCall.callback
  split
  · assumption
  · rfl

theorem DispatchCall.Sound.callback {call : DispatchCall} (sound : DispatchCall.Sound call)
    (outcome : RouteConfig → Except Thrown Unit) : DispatchCall.Sound (DispatchCall.callback outcome call) := by
  cases flag : call.settled with
  | false =>
    rw [callback_waiting flag]
    exact sound.settle flag _
  | true =>
    rw [callback_settled flag]
    exact sound

/-! Callbacks in the process -/

section Callbacks

variable {state : DispatchState} {outcome : RouteConfig → Except Thrown Unit}

theorem settle_cases (id : Nat) (outcome : RouteConfig → Except Thrown Unit) (state : DispatchState) :
    (settle id outcome state = state ∧ ∀ call, state.calls[id]? = some call → call.settled = true) ∨
    ∃ call, state.calls[id]? = some call ∧ call.settled = false ∧ settle id outcome state =
      { state with
        pendingUpstreamErrors := state.pendingUpstreamErrors.filter fun entry => entry.1 ≠ call.res
        calls := state.calls.set id (call.settle (outcome call.route)) } := by
  unfold settle
  cases found : state.calls[id]? with
  | none => exact .inl ⟨rfl, fun call absent => by cases absent⟩
  | some call =>
    cases flag : call.settled with
    | true =>
      refine .inl ⟨if_pos flag, fun other same => ?_⟩
      cases same
      exact flag
    | false => exact .inr ⟨call, rfl, flag, by simp [flag]⟩

theorem settle_calls (id other : Nat) : (settle id outcome state).calls[other]? =
    (state.calls[other]?).map fun call => if other = id then DispatchCall.callback outcome call else call := by
  rcases settle_cases id outcome state with ⟨same, settled⟩ | ⟨call, found, waits, same⟩
  · rw [same]
    cases found : state.calls[other]? with
    | none => rfl
    | some call =>
      simp only [Option.map_some]
      split
      · rename_i equal
        rw [callback_settled (settled call (equal ▸ found))]
      · rfl
  · rw [same]
    have inside : id < state.calls.length := (List.getElem?_eq_some_iff.mp found).1
    by_cases equal : other = id
    · subst equal
      rw [List.getElem?_set_self inside, found, Option.map_some, if_pos rfl, callback_waiting waits]
    · rw [List.getElem?_set_ne (Ne.symm equal)]
      simp [equal]

theorem settle_urls (id : Nat) : (settle id outcome state).urls = state.urls := by
  rcases settle_cases id outcome state with ⟨same, _⟩ | ⟨call, _, _, same⟩
  all_goals rw [same]

theorem settle_listeners (id : Nat) : (settle id outcome state).listeners = state.listeners := by
  rcases settle_cases id outcome state with ⟨same, _⟩ | ⟨call, _, _, same⟩
  all_goals rw [same]

end Callbacks

/-- What the maps and the calls of the process have to do with each other. -/
structure Wired (state : DispatchState) : Prop where
  single : ∀ (i j : Nat) (first second : DispatchCall), state.calls[i]? = some first →
    state.calls[j]? = some second → first.res = second.res → i = j
  pending : ∀ res id, (res, id) ∈ state.pendingUpstreamErrors ↔
    ∃ call, state.calls[id]? = some call ∧ call.res = res ∧ call.settled = false
  owned : ∀ listener ∈ state.listeners, ∃ call, state.calls[listener.call]? = some call ∧ call.res = listener.res
  sound : ∀ (id : Nat) call, state.calls[id]? = some call → DispatchCall.Sound call

def Listening (state : DispatchState) : Prop :=
  ∀ (id : Nat) call, state.calls[id]? = some call → call.settled = false → ∀ event,
    ⟨call.res, event, id⟩ ∈ state.listeners

section Wiring

variable {state : DispatchState} {outcome : RouteConfig → Except Thrown Unit}

theorem settle_before {id other : Nat} {later : DispatchCall}
    (found : (settle id outcome state).calls[other]? = some later) :
    ∃ call, state.calls[other]? = some call ∧
      later = if other = id then DispatchCall.callback outcome call else call := by
  rw [settle_calls] at found
  obtain ⟨call, before, same⟩ := Option.map_eq_some_iff.mp found
  exact ⟨call, before, same.symm⟩

theorem settle_after {other : Nat} {call : DispatchCall} (id : Nat) (found : state.calls[other]? = some call) :
    (settle id outcome state).calls[other]? =
      some (if other = id then DispatchCall.callback outcome call else call) := by
  rw [settle_calls, found]
  rfl

theorem settle_res {id other : Nat} {later : DispatchCall}
    (found : (settle id outcome state).calls[other]? = some later) :
    ∃ call, state.calls[other]? = some call ∧ later.res = call.res := by
  obtain ⟨call, before, rfl⟩ := settle_before found
  refine ⟨call, before, ?_⟩
  split
  · exact callback_res outcome call
  · rfl

theorem Wired.settle (wired : Wired state) (id : Nat) (outcome : RouteConfig → Except Thrown Unit) :
    Wired (settle id outcome state) := by
  constructor
  · intro i j first second one other same
    obtain ⟨earlier, before, same_res⟩ := settle_res one
    obtain ⟨earlier', before', same_res'⟩ := settle_res other
    exact wired.single i j earlier earlier' before before' (by rw [← same_res, ← same_res', same])
  · intro res other
    rcases settle_cases id outcome state with ⟨same, _⟩ | ⟨call, found, waits, same⟩
    · rw [same]
      exact wired.pending res other
    · have inside : id < state.calls.length := (List.getElem?_eq_some_iff.mp found).1
      rw [same, List.mem_filter, wired.pending]
      constructor
      · rintro ⟨⟨waiting, there, rfl, unsettled⟩, kept⟩
        refine ⟨waiting, ?_, rfl, unsettled⟩
        have apart : id ≠ other := by
          intro equal
          subst equal
          rw [found] at there
          cases there
          simp at kept
        rw [List.getElem?_set_ne apart]
        exact there
      · rintro ⟨waiting, there, rfl, unsettled⟩
        by_cases equal : id = other
        · subst equal
          rw [List.getElem?_set_self inside] at there
          cases there
          cases unsettled
        · rw [List.getElem?_set_ne equal] at there
          refine ⟨⟨waiting, there, rfl, unsettled⟩, ?_⟩
          have apart : waiting.res ≠ call.res := fun same => equal (wired.single _ _ _ _ found there same.symm)
          simpa using apart
  · intro listener member
    rw [settle_listeners] at member
    obtain ⟨call, found, own⟩ := wired.owned listener member
    refine ⟨_, settle_after id found, ?_⟩
    split
    · rw [callback_res, own]
    · exact own
  · intro other later found
    obtain ⟨call, before, rfl⟩ := settle_before found
    split
    · exact (wired.sound other call before).callback outcome
    · exact wired.sound other call before

theorem Listening.settle (listening : Listening state) (id : Nat) (outcome : RouteConfig → Except Thrown Unit) :
    Listening (DispatchState.settle id outcome state) := by
  intro other later found waits event
  rw [settle_listeners]
  obtain ⟨call, before, rfl⟩ := settle_before found
  by_cases same : other = id
  · rw [if_pos same, callback_flag] at waits
    cases waits
  · rw [if_neg same] at waits ⊢
    exact listening other call before waits event

theorem notified_calls (due : List OnceListener) (id : Nat) :
    (due.foldl (fun state listener => settle listener.call (fun _ => .ok ()) state) state).calls[id]? =
      (state.calls[id]?).map fun call =>
        if id ∈ due.map (·.call) then DispatchCall.callback (fun _ => .ok ()) call else call := by
  induction due generalizing state with
  | nil => simp
  | cons listener due ih =>
    rw [List.foldl_cons, ih, settle_calls, Option.map_map]
    congr 1
    funext call
    by_cases first : id = listener.call
    · have done : DispatchCall.callback (fun _ => .ok ()) (DispatchCall.callback (fun _ => .ok ()) call) =
          DispatchCall.callback (fun _ => .ok ()) call := callback_settled (callback_flag _ call)
      simp [first, done]
    · simp [first]

theorem notified_wired (due : List OnceListener) (wired : Wired state) :
    Wired (due.foldl (fun state listener => settle listener.call (fun _ => .ok ()) state) state) := by
  induction due generalizing state with
  | nil => exact wired
  | cons listener due ih => exact ih (wired.settle listener.call _)

theorem notified_same (due : List OnceListener) :
    let after := due.foldl (fun state listener => settle listener.call (fun _ => .ok ()) state) state
    after.urls = state.urls ∧ after.listeners = state.listeners := by
  induction due generalizing state with
  | nil => exact ⟨rfl, rfl⟩
  | cons listener due ih =>
    obtain ⟨urls, listeners⟩ := @ih (settle listener.call (fun _ => .ok ()) state)
    exact ⟨urls.trans (settle_urls _), listeners.trans (settle_listeners _)⟩

theorem emit_calls (wired : Wired state) (listening : Listening state) (res : Nat) (event : ResponseEvent) {id : Nat}
    {call : DispatchCall} (found : state.calls[id]? = some call) : (emit res event state).calls[id]? =
      some (if call.res = res then DispatchCall.callback (fun _ => .ok ()) call else call) := by
  unfold emit
  rw [notified_calls]
  simp only [found, Option.map_some]
  congr 1
  by_cases own : call.res = res
  · rw [if_pos own]
    cases flag : call.settled with
    | true => rw [callback_settled flag, ite_self]
    | false =>
      have registered := listening id call found flag event
      rw [if_pos]
      refine List.mem_map.mpr ⟨⟨call.res, event, id⟩, List.mem_filter.mpr ⟨registered, ?_⟩, rfl⟩
      simp [own]
  · rw [if_neg own, if_neg]
    intro member
    obtain ⟨listener, due, same⟩ := List.mem_map.mp member
    obtain ⟨registered, here⟩ := List.mem_filter.mp due
    obtain ⟨owner, there, mine⟩ := wired.owned listener registered
    rw [same, found] at there
    cases there
    simp only [decide_eq_true_eq] at here
    exact own (mine.trans here.1)

theorem emit_wired (wired : Wired state) (res : Nat) (event : ResponseEvent) : Wired (emit res event state) := by
  refine notified_wired _ ⟨wired.single, wired.pending, fun listener member => ?_, wired.sound⟩
  exact wired.owned listener (List.mem_of_mem_filter member)

theorem emit_listening (wired : Wired state) (listening : Listening state) (res : Nat) (event : ResponseEvent) :
    Listening (emit res event state) := by
  intro id later found waits other
  have listeners : (emit res event state).listeners = state.listeners.filter fun listener =>
      ¬ (listener.res = res ∧ listener.event = event) := (notified_same _).2
  have before : ∃ call, state.calls[id]? = some call := by
    cases absent : state.calls[id]? with
    | some call => exact ⟨call, rfl⟩
    | none =>
      unfold emit at found
      rw [notified_calls] at found
      simp [absent] at found
  obtain ⟨call, before⟩ := before
  rw [emit_calls wired listening res event before, Option.some_inj] at found
  subst found
  by_cases own : call.res = res
  · rw [if_pos own, callback_flag] at waits
    cases waits
  · rw [if_neg own] at waits ⊢
    rw [listeners]
    refine List.mem_filter.mpr ⟨listening id call before waits other, ?_⟩
    simp [own]

end Wiring

/-! Steps -/

def settlingEvent (req id : Nat) : DispatchEvent → Option UpstreamEvent
  | .error _ (some res) code message => if req = res then some (.error code message) else none
  | .emit res .finish => if req = res then some .finish else none
  | .emit res .close => if req = res then some .close else none
  | .next call (some message) => if id = call then some (.failed message) else none
  | _ => none

def settlement (route : RouteConfig) : UpstreamEvent → Except Thrown Unit
  | .finish | .close => .ok ()
  | .error code message => .error (.app (mapUpstreamError route code message))
  | .failed message => .error (.error message)

def DispatchCall.react (id : Nat) (event : DispatchEvent) (call : DispatchCall) : DispatchCall :=
  match settlingEvent call.res id event with
  | some settling => DispatchCall.callback (fun route => settlement route settling) call
  | none => if event = .resume id then { call with returned := call.settlements.head? } else call

section Steps

variable {state after : DispatchState} {event : DispatchEvent}

theorem pending_found (wired : Wired state) {id : Nat} {call : DispatchCall} (found : state.calls[id]? = some call) :
    state.pendingUpstreamErrors.find? (fun entry => entry.1 = call.res) =
      if call.settled then none else some (call.res, id) := by
  have own : ∀ entry ∈ state.pendingUpstreamErrors, entry.1 = call.res → entry = (call.res, id) ∧
    call.settled = false := by
    intro entry member same
    obtain ⟨owner, there, mine, waits⟩ := (wired.pending entry.1 entry.2).mp member
    have equal := wired.single _ _ _ _ found there (by rw [mine, same])
    rw [← equal, found] at there
    cases there
    exact ⟨Prod.ext same equal.symm, waits⟩
  cases sought : state.pendingUpstreamErrors.find? (fun entry => entry.1 = call.res) with
  | none =>
    cases flag : call.settled with
    | true => rfl
    | false =>
      have entry := (wired.pending call.res id).mpr ⟨call, found, rfl, flag⟩
      have unequal := List.find?_eq_none.mp sought _ entry
      simp at unequal
  | some entry =>
    have same := List.find?_some sought
    obtain ⟨equal, waits⟩ := own entry (List.mem_of_find?_eq_some sought) (by simpa using same)
    rw [waits, equal]
    rfl

theorem onError_calls (wired : Wired state) (res : Nat) (code message : String) {id : Nat} {call : DispatchCall}
    (found : state.calls[id]? = some call) : (onError (some res) code message state).calls[id]? =
      some (if call.res = res then
        DispatchCall.callback (fun route => settlement route (.error code message)) call else call) := by
  unfold onError
  by_cases own : call.res = res
  · subst own
    simp only [pending_found wired found]
    cases flag : call.settled with
    | true => simp [found, callback_settled flag]
    | false =>
      simp only [Bool.false_eq_true, if_false, if_true]
      rw [settle_after id found, if_pos rfl]
      rfl
  · rw [if_neg own]
    simp only
    split
    · exact found
    · rename_i entry sought
      rw [settle_after _ found, if_neg]
      intro same
      obtain ⟨owner, there, mine, _⟩ := (wired.pending entry.1 entry.2).mp (List.mem_of_find?_eq_some sought)
      rw [← same, found] at there
      cases there
      have equal := List.find?_some sought
      exact own (mine.trans (by simpa using equal))

theorem react_other {id : Nat} {call : DispatchCall} (foreign : settlingEvent call.res id event = none)
    (awaits : event ≠ .resume id) : DispatchCall.react id event call = call := by
  simp only [DispatchCall.react, foreign, if_neg awaits]

theorem react_settling {id : Nat} {call : DispatchCall} {settling : UpstreamEvent}
    (own : settlingEvent call.res id event = some settling) :
    DispatchCall.react id event call = DispatchCall.callback (fun route => settlement route settling) call := by
  simp only [DispatchCall.react, own]

theorem react_resume (id : Nat) (call : DispatchCall) :
    DispatchCall.react id (.resume id) call = { call with returned := call.settlements.head? } := by
  simp only [DispatchCall.react, settlingEvent, if_true]

def newCall (route : RouteConfig) (req : Nat) (originalUrl : String) : DispatchCall :=
  { route, res := req, originalUrl, settled := false, settlements := [], returned := none }

theorem dispatch_cases {req : Nat} {route : RouteConfig} {forwardPath : String}
    (moved : DispatchState.dispatchToUpstream route forwardPath req state = some after) :
    ∃ originalUrl, state.urls[req]? = some originalUrl ∧ (∀ call ∈ state.calls, call.res ≠ req) ∧
      after.urls = state.urls.set req forwardPath ∧ after.pendingUpstreamErrors = (req, state.calls.length) ::
        state.pendingUpstreamErrors.filter (fun entry => entry.1 ≠ req) ∧
      after.listeners = state.listeners ++
        [⟨req, .finish, state.calls.length⟩, ⟨req, .close, state.calls.length⟩] ∧
      after.calls = state.calls ++ [newCall route req originalUrl] := by
  unfold DispatchState.dispatchToUpstream at moved
  split at moved
  · cases moved
  · rename_i unused
    obtain ⟨originalUrl, known, rfl⟩ := Option.map_eq_some_iff.mp moved
    refine ⟨originalUrl, known, ?_, ?_⟩
    · intro call member same
      exact unused (List.any_eq_true.mpr ⟨call, member, by simpa using same⟩)
    · unfold getProxyMiddleware
      split <;> exact ⟨rfl, rfl, rfl, rfl⟩

theorem resume_cases {id : Nat} (moved : resume id state = some after) :
    ∃ call outcome, state.calls[id]? = some call ∧ call.settlements.head? = some outcome ∧ call.returned = none ∧
      after = { state with
        urls := state.urls.set call.res call.originalUrl
        calls := state.calls.set id { call with returned := some outcome } } := by
  unfold resume at moved
  split at moved
  · cases moved
  · rename_i call found
    split at moved
    · rename_i outcome settled running
      cases moved
      exact ⟨call, outcome, found, settled, running, rfl⟩
    · cases moved

theorem step_call (wired : Wired state) (listening : Listening state) (moved : step state event = some after) {id : Nat}
    {call : DispatchCall} (found : state.calls[id]? = some call) :
    after.calls[id]? = some (DispatchCall.react id event call) := by
  have inside : id < state.calls.length := (List.getElem?_eq_some_iff.mp found).1
  cases event with
  | request url =>
    cases moved
    exact found
  | dispatch req route forwardPath =>
    obtain ⟨originalUrl, _, _, _, _, _, calls⟩ := dispatch_cases moved
    rw [calls, List.getElem?_append_left inside, found, react_other rfl (by simp)]
  | error middleware res code message =>
    simp only [step] at moved
    split at moved
    · cases moved
      cases res with
      | none =>
        rw [react_other rfl (by simp)]
        exact found
      | some res =>
        rw [onError_calls wired res code message found]
        by_cases own : call.res = res
        · rw [if_pos own, react_settling (by rw [settlingEvent, if_pos own])]
        · rw [if_neg own, react_other (by rw [settlingEvent, if_neg own]) (by simp)]
    · cases moved
  | emit res event =>
    cases moved
    rw [emit_calls wired listening res event found]
    by_cases own : call.res = res
    · rw [if_pos own]
      cases event with
      | finish => rw [react_settling (by rw [settlingEvent, if_pos own])]; rfl
      | close => rw [react_settling (by rw [settlingEvent, if_pos own])]; rfl
    · rw [if_neg own]
      cases event with
      | finish => rw [react_other (by rw [settlingEvent, if_neg own]) (by simp)]
      | close => rw [react_other (by rw [settlingEvent, if_neg own]) (by simp)]
  | next other err =>
    simp only [step] at moved
    split at moved
    · cases moved
      cases err with
      | none =>
        rw [react_other rfl (by simp)]
        exact found
      | some message =>
        have called : (onNext other (some message) state).calls[id]? = some (if id = other then
            DispatchCall.callback (fun _ => .error (.error message)) call else call) := settle_after other found
        rw [called]
        by_cases own : id = other
        · rw [if_pos own, react_settling (by rw [settlingEvent, if_pos own])]
          rfl
        · rw [if_neg own, react_other (by rw [settlingEvent, if_neg own]) (by simp)]
    · cases moved
  | resume other =>
    obtain ⟨finished, outcome, there, settled, running, rfl⟩ := resume_cases moved
    by_cases own : other = id
    · subst own
      rw [found] at there
      cases there
      rw [List.getElem?_set_self inside, react_resume, settled]
    · rw [react_other rfl (by simpa using own)]
      exact (List.getElem?_set_ne own).trans found

theorem dispatch_wired {req : Nat} {route : RouteConfig} {forwardPath : String} (wired : Wired state)
    (listening : Listening state) (moved : DispatchState.dispatchToUpstream route forwardPath req state = some after) :
    Wired after ∧ Listening after := by
  obtain ⟨originalUrl, _, unused, _, pending, listeners, calls⟩ := dispatch_cases moved
  have found_cases : ∀ (id : Nat) call, after.calls[id]? = some call →
      state.calls[id]? = some call ∧ call.res ≠ req ∨ id = state.calls.length ∧
      call = newCall route req originalUrl := by
    intro id call found
    rw [calls, Lists.concat_eq_some] at found
    rcases found with before | made
    · exact .inl ⟨before, unused call (List.mem_of_getElem? before)⟩
    · exact .inr made
  have kept : ∀ {id : Nat} {call}, state.calls[id]? = some call → after.calls[id]? = some call := by
    intro id call found
    rw [calls, Lists.concat_eq_some]
    exact .inl found
  have made : after.calls[state.calls.length]? = some (newCall route req originalUrl) := by
    rw [calls, List.getElem?_concat_length]
  refine ⟨⟨?_, ?_, ?_, ?_⟩, ?_⟩
  · intro i j first second one other same
    rcases found_cases i first one with ⟨before, apart⟩ | ⟨here, rfl⟩
    · rcases found_cases j second other with ⟨before', _⟩ | ⟨there, rfl⟩
      · exact wired.single i j first second before before' same
      · exact absurd same apart
    · rcases found_cases j second other with ⟨_, apart⟩ | ⟨there, rfl⟩
      · exact absurd same.symm apart
      · rw [here, there]
  · intro res id
    rw [pending, List.mem_cons, List.mem_filter, wired.pending]
    constructor
    · rintro (same | ⟨⟨call, found, own, waits⟩, _⟩)
      · cases same
        exact ⟨_, made, rfl, rfl⟩
      · exact ⟨call, kept found, own, waits⟩
    · rintro ⟨call, found, own, waits⟩
      rcases found_cases id call found with ⟨before, apart⟩ | ⟨here, rfl⟩
      · exact .inr ⟨⟨call, before, own, waits⟩, by simpa using own ▸ apart⟩
      · subst here
        exact .inl (Prod.ext own.symm rfl)
  · intro listener member
    rw [listeners] at member
    rcases List.mem_append.mp member with before | added
    · obtain ⟨call, found, own⟩ := wired.owned listener before
      exact ⟨call, kept found, own⟩
    · have here : listener.call = state.calls.length ∧ listener.res = req := by
        rcases List.mem_cons.mp added with rfl | last
        · exact ⟨rfl, rfl⟩
        · rw [List.mem_singleton.mp last]
          exact ⟨rfl, rfl⟩
      exact ⟨newCall route req originalUrl, by rw [here.1]; exact made, here.2.symm⟩
  · intro id call found
    rcases found_cases id call found with ⟨before, _⟩ | ⟨_, rfl⟩
    · exact wired.sound id call before
    · exact sound_new route req originalUrl
  · intro id call found waits event
    rw [listeners, List.mem_append]
    rcases found_cases id call found with ⟨before, _⟩ | ⟨rfl, rfl⟩
    · exact .inl (listening id call before waits event)
    · refine .inr ?_
      cases event <;> simp [newCall]

theorem resume_wired {id : Nat} (wired : Wired state) (listening : Listening state)
    (moved : resume id state = some after) :
    Wired after ∧ Listening after := by
  obtain ⟨call, outcome, found, settled, running, rfl⟩ := resume_cases moved
  have inside : id < state.calls.length := (List.getElem?_eq_some_iff.mp found).1
  have found_cases : ∀ (other : Nat) later,
    (state.calls.set id { call with returned := some outcome })[other]? = some later →
      ∃ earlier, state.calls[other]? = some earlier ∧ later.res = earlier.res ∧ later.settled = earlier.settled ∧
        (DispatchCall.Sound earlier → DispatchCall.Sound later) := by
    intro other later there
    by_cases same : id = other
    · subst same
      rw [List.getElem?_set_self inside] at there
      cases there
      exact ⟨call, found, rfl, rfl, fun sound => sound.resume settled⟩
    · rw [List.getElem?_set_ne same] at there
      exact ⟨later, there, rfl, rfl, fun sound => sound⟩
  have kept : ∀ {other : Nat} {earlier}, state.calls[other]? = some earlier →
      ∃ later, (state.calls.set id { call with returned := some outcome })[other]? = some later ∧
        later.res = earlier.res ∧ later.settled = earlier.settled := by
    intro other earlier there
    by_cases same : id = other
    · subst same
      rw [found] at there
      cases there
      exact ⟨_, List.getElem?_set_self inside, rfl, rfl⟩
    · exact ⟨earlier, by rw [List.getElem?_set_ne same]; exact there, rfl, rfl⟩
  refine ⟨⟨?_, ?_, ?_, ?_⟩, ?_⟩
  · intro i j first second one other same
    obtain ⟨earlier, before, same_res, _⟩ := found_cases i first one
    obtain ⟨earlier', before', same_res', _⟩ := found_cases j second other
    exact wired.single i j earlier earlier' before before' (by rw [← same_res, ← same_res', same])
  · intro res other
    rw [wired.pending]
    constructor
    · rintro ⟨earlier, before, own, waits⟩
      obtain ⟨later, there, same_res, same_flag⟩ := kept before
      exact ⟨later, there, same_res.trans own, same_flag.trans waits⟩
    · rintro ⟨later, there, own, waits⟩
      obtain ⟨earlier, before, same_res, same_flag, _⟩ := found_cases other later there
      exact ⟨earlier, before, same_res.symm.trans own, same_flag.symm.trans waits⟩
  · intro listener member
    obtain ⟨earlier, before, own⟩ := wired.owned listener member
    obtain ⟨later, there, same_res, _⟩ := kept before
    exact ⟨later, there, same_res.trans own⟩
  · intro other later there
    obtain ⟨earlier, before, _, _, sound⟩ := found_cases other later there
    exact sound (wired.sound other earlier before)
  · intro other later there waits event
    obtain ⟨earlier, before, same_res, same_flag, _⟩ := found_cases other later there
    rw [same_res]
    exact listening other earlier before (same_flag.symm.trans waits) event

theorem step_wired (wired : Wired state) (listening : Listening state) (moved : step state event = some after) :
    Wired after ∧ Listening after := by
  cases event with
  | request url =>
    cases moved
    exact ⟨⟨wired.single, wired.pending, wired.owned, wired.sound⟩, listening⟩
  | dispatch req route forwardPath => exact dispatch_wired wired listening moved
  | error middleware res code message =>
    simp only [step] at moved
    split at moved
    · cases moved
      unfold onError
      split
      · exact ⟨wired, listening⟩
      · split
        · exact ⟨wired, listening⟩
        · exact ⟨wired.settle _ _, listening.settle _ _⟩
    · cases moved
  | emit res event =>
    cases moved
    exact ⟨emit_wired wired res event, emit_listening wired listening res event⟩
  | next call err =>
    simp only [step] at moved
    split at moved
    · cases moved
      cases err with
      | none => exact ⟨wired, listening⟩
      | some message =>
        exact ⟨wired.settle call fun _ => .error (.error message), listening.settle call fun _ =>
          .error (.error message)⟩
    · cases moved
  | resume call => exact resume_wired wired listening moved

def isQuiet : DispatchEvent → Bool
  | .error .. | .emit .. | .next .. => true
  | .request _ | .dispatch .. | .resume _ => false

theorem quiet_urls (moved : step state event = some after) (quiet : isQuiet event = true) : after.urls =
    state.urls := by
  cases event with
  | request url => cases quiet
  | dispatch req route forwardPath => cases quiet
  | error middleware res code message =>
    simp only [step] at moved
    split at moved
    · cases moved
      unfold onError
      repeat' split
      · rfl
      · rfl
      · exact settle_urls _
    · cases moved
  | emit res event =>
    cases moved
    exact (notified_same _).1
  | next other err =>
    simp only [step] at moved
    split at moved
    · cases moved
      cases err with
      | none => rfl
      | some message => exact settle_urls other
    · cases moved
  | resume other => cases quiet

theorem step_url (wired : Wired state) (moved : step state event = some after) {id : Nat} {call : DispatchCall}
    {url : String} (found : state.calls[id]? = some call) (known : state.urls[call.res]? = some url) :
    after.urls[call.res]? = some (if event = .resume id then call.originalUrl else url) := by
  have inside : call.res < state.urls.length := (List.getElem?_eq_some_iff.mp known).1
  cases event with
  | request other =>
    cases moved
    exact (List.getElem?_append_left inside).trans known
  | dispatch req route forwardPath =>
    obtain ⟨originalUrl, _, unused, urls, _⟩ := dispatch_cases moved
    have apart : req ≠ call.res := fun same => unused call (List.mem_of_getElem? found) same.symm
    rw [urls, List.getElem?_set_ne apart]
    exact known
  | error middleware res code message =>
    rw [quiet_urls moved rfl]
    exact known
  | emit res event =>
    rw [quiet_urls moved rfl]
    exact known
  | next other err =>
    rw [quiet_urls moved rfl]
    exact known
  | resume other =>
    obtain ⟨finished, outcome, there, _, _, rfl⟩ := resume_cases moved
    by_cases own : other = id
    · subst own
      rw [found] at there
      cases there
      rw [if_pos rfl]
      exact List.getElem?_set_self inside
    · have apart : finished.res ≠ call.res := fun same => own (wired.single _ _ _ _ there found same)
      rw [if_neg (by simpa using own)]
      exact (List.getElem?_set_ne apart).trans known

end Steps

/-! Runs -/

def dispatchMachine : Refinement.Machine DispatchState DispatchEvent where
  start state := state = fresh
  step state event after := step state event = some after

theorem dispatchMachine_wired {state : DispatchState} (reachable : dispatchMachine.Reachable state) :
    Wired state ∧ Listening state := by
  refine reachable.invariant (fun start same => ?_) fun before event after held moved => step_wired held.1 held.2 moved
  have none_yet : start.calls = [] := by rw [same]; rfl
  have absent : ∀ (id : Nat) call, start.calls[id]? ≠ some call := by simp [none_yet]
  constructor
  · constructor
    · exact fun i j first second one => absurd one (absent i first)
    · intro res id
      rw [same]
      simp [fresh]
    · rw [same]
      simp [fresh]
    · exact fun id call found => absurd found (absent id call)
  · exact fun id call found => absurd found (absent id call)

structure InFlight (route : RouteConfig) (req id : Nat) (originalUrl forwardPath : String) (since : List DispatchEvent)
    (state : DispatchState) (call : DispatchCall) : Prop where
  found : state.calls[id]? = some call
  called : call.route = route
  own : call.res = req
  saved : call.originalUrl = originalUrl
  settlements : call.settlements = ((since.findSome? (settlingEvent req id)).map (settlement route)).toList
  url : state.urls[req]? = some (if call.returned = none then forwardPath else originalUrl)

section Runs

variable {route : RouteConfig} {req id : Nat} {originalUrl forwardPath : String} {since : List DispatchEvent}
  {state after : DispatchState} {call : DispatchCall} {event : DispatchEvent}

theorem InFlight.step (dispatched : InFlight route req id originalUrl forwardPath since state call)
    (wired : Wired state)
    (listening : Listening state) (moved : step state event = some after) :
    InFlight route req id originalUrl forwardPath (since ++ [event]) after (DispatchCall.react id event call) := by
  obtain ⟨found, rfl, rfl, rfl, settlements, url⟩ := dispatched
  have sound := wired.sound id call found
  have reacted := step_call wired listening moved found
  have moved_url := step_url wired moved found url
  have first : (since ++ [event]).findSome? (settlingEvent call.res id) =
      (since.findSome? (settlingEvent call.res id)).or (settlingEvent call.res id event) := by
    rw [List.findSome?_append, List.findSome?_cons, List.findSome?_nil]
    cases settlingEvent call.res id event <;> rfl
  cases own : settlingEvent call.res id event with
  | none =>
    by_cases awaits : event = .resume id
    · -- The call ends: its URL is restored.
      subst awaits
      obtain ⟨finished, outcome, there, settled, running, _⟩ := resume_cases moved
      rw [found] at there
      cases there
      rw [react_resume] at reacted ⊢
      refine ⟨reacted, rfl, rfl, rfl, ?_, ?_⟩
      · rw [first, own, Option.or_none]
        exact settlements
      · rw [moved_url, if_pos rfl, settled]
        rfl
    · rw [react_other own awaits] at reacted ⊢
      refine ⟨reacted, rfl, rfl, rfl, ?_, ?_⟩
      · rw [first, own, Option.or_none]
        exact settlements
      · rw [moved_url, if_neg awaits]
  | some settling =>
    have awaits : event ≠ .resume id := by
      intro same
      rw [same] at own
      cases own
    rw [react_settling own] at reacted ⊢
    cases flag : call.settled with
    | true =>
      -- A late event finds the call settled.
      obtain ⟨outcome, once⟩ := sound.settled flag
      rw [callback_settled flag] at reacted ⊢
      refine ⟨reacted, rfl, rfl, rfl, ?_, ?_⟩
      · rw [first]
        cases earlier : since.findSome? (settlingEvent call.res id) with
        | none =>
          rw [earlier, once] at settlements
          cases settlements
        | some settled =>
          rw [earlier] at settlements
          exact settlements
      · rw [moved_url, if_neg awaits]
    | false =>
      obtain ⟨none_yet, running⟩ := sound.waiting flag
      rw [callback_waiting flag] at reacted ⊢
      refine ⟨reacted, rfl, rfl, rfl, ?_, ?_⟩
      · rw [first]
        cases earlier : since.findSome? (settlingEvent call.res id) with
        | some settled =>
          rw [earlier, none_yet] at settlements
          cases settlements
        | none =>
          rw [own, DispatchCall.settle, none_yet]
          rfl
      · rw [moved_url, if_neg awaits]
        rfl

theorem InFlight.run {labels : List DispatchEvent}
    (dispatched : InFlight route req id originalUrl forwardPath since state call) (wired : Wired state)
    (listening : Listening state) (runs : dispatchMachine.Runs state labels after) :
    ∃ later, InFlight route req id originalUrl forwardPath (since ++ labels) after later ∧
      Wired after ∧ Listening after := by
  induction runs with
  | refl => exact ⟨call, by simpa using dispatched, wired, listening⟩
  | snoc _ moved ih =>
    obtain ⟨later, dispatched, wired, listening⟩ := ih
    have stepped := dispatched.step wired listening moved
    rw [List.append_assoc] at stepped
    exact ⟨_, stepped, step_wired wired listening moved⟩

theorem dispatched_first (wired : Wired state) (listening : Listening state)
    (called : step state (.dispatch req route forwardPath) = some after) : ∃ originalUrl,
    state.urls[req]? = some originalUrl ∧ InFlight route req state.calls.length originalUrl forwardPath [] after
      (newCall route req originalUrl) ∧ Wired after ∧ Listening after := by
  obtain ⟨originalUrl, known, _, urls, _, _, calls⟩ := dispatch_cases called
  refine ⟨originalUrl, known, ⟨?_, rfl, rfl, rfl, rfl, ?_⟩, dispatch_wired wired listening called⟩
  · rw [calls, List.getElem?_concat_length]
  · rw [urls, List.getElem?_set_self (List.getElem?_eq_some_iff.mp known).1]
    rfl

end Runs

def responseOf (state : DispatchState) : DispatchEvent → Option Nat
  | .request _ => none
  | .dispatch req .. => some req
  | .error _ res .. => res
  | .emit res _ => some res
  | .next call _ | .resume call => (state.calls[call]?).map (·.res)

/-- A call is settled by the first settling event of its own response and by no other. It then waits for no error, and
    at its end the URL is what it was before the call. -/
structure SettlesOnce (route : RouteConfig) (req id : Nat) (originalUrl : String) (since : List DispatchEvent)
    (state : DispatchState) (call : DispatchCall) : Prop where
  found : state.calls[id]? = some call
  once : call.settlements = ((since.findSome? (settlingEvent req id)).map (settlement route)).toList
  released : call.settlements ≠ [] → ∀ entry ∈ state.pendingUpstreamErrors, entry.1 ≠ req
  restored : ∀ outcome, call.returned = some outcome →
    call.settlements = [outcome] ∧ state.urls[req]? = some originalUrl
  resumes : call.settlements ≠ [] → call.returned = none → ∃ later, step state (.resume id) = some later ∧
    later.calls[id]? = some { call with returned := call.settlements.head? } ∧ later.urls[req]? = some originalUrl
  alone : ∀ event later, step state event = some later → responseOf state event ≠ some req →
    later.calls[id]? = some call

theorem InFlight.settlesOnce {route : RouteConfig} {req id : Nat} {originalUrl forwardPath : String}
    {since : List DispatchEvent} {state : DispatchState} {call : DispatchCall}
    (dispatched : InFlight route req id originalUrl forwardPath since state call) (wired : Wired state)
    (listening : Listening state) : SettlesOnce route req id originalUrl since state call := by
  obtain ⟨found, rfl, rfl, rfl, settlements, url⟩ := dispatched
  have sound := wired.sound id call found
  have flagged : call.settlements ≠ [] → call.settled = true := by
    intro settled
    cases flag : call.settled with
    | true => rfl
    | false => exact absurd (sound.waiting flag).1 settled
  refine ⟨found, settlements, ?_, ?_, ?_, ?_⟩
  · intro settled entry member same
    obtain ⟨owner, there, own, waits⟩ := (wired.pending entry.1 entry.2).mp member
    have equal := wired.single _ _ _ _ found there (by rw [own, same])
    rw [← equal, found] at there
    cases there
    rw [flagged settled] at waits
    cases waits
  · intro outcome ended
    rw [ended] at url
    refine ⟨?_, url⟩
    rcases sound.returned with running | first
    · rw [ended] at running
      cases running
    · rw [ended] at first
      have settled : call.settlements ≠ [] := by
        intro none_yet
        rw [none_yet] at first
        cases first
      obtain ⟨settledWith, one⟩ := sound.settled (flagged settled)
      rw [one] at first ⊢
      cases first
      rfl
  · intro settled running
    obtain ⟨outcome, one⟩ := sound.settled (flagged settled)
    have moved : DispatchState.step state (.resume id) = some { state with
        urls := state.urls.set call.res call.originalUrl
        calls := state.calls.set id { call with returned := some outcome } } := by
      simp only [DispatchState.step, resume, found, one, running, List.head?_cons]
    refine ⟨_, moved, ?_, ?_⟩
    · rw [step_call wired listening moved found, react_resume]
    · rw [step_url wired moved found url, if_pos rfl]
  · intro event later moved foreign
    have reacted := step_call wired listening moved found
    rw [react_other ?_ ?_] at reacted
    · exact reacted
    · cases event with
      | request url => rfl
      | dispatch other route forwardPath => rfl
      | error middleware res code message =>
        cases res with
        | none => rfl
        | some res => exact if_neg fun same => foreign (congrArg some same.symm)
      | emit res event =>
        have apart : call.res ≠ res := fun same => foreign (congrArg some same.symm)
        cases event <;> exact if_neg apart
      | next other err =>
        cases err with
        | none => rfl
        | some message =>
          refine if_neg fun same => foreign ?_
          rw [responseOf, ← same, found]
          rfl
      | resume other => rfl
    · intro same
      apply foreign
      rw [same, responseOf, found]
      rfl

/-- Whatever happens to the requests in flight after a call of `dispatchToUpstream`, it is settled once. -/
theorem dispatch_settles_once {before sent after : DispatchState} {route : RouteConfig} {req : Nat}
    {forwardPath : String} {since : List DispatchEvent} (reachable : dispatchMachine.Reachable before)
    (called : step before (.dispatch req route forwardPath) = some sent)
    (runs : dispatchMachine.Runs sent since after) :
    ∃ originalUrl call, before.urls[req]? = some originalUrl ∧
      SettlesOnce route req before.calls.length originalUrl since after call := by
  obtain ⟨wired, listening⟩ := dispatchMachine_wired reachable
  obtain ⟨originalUrl, known, first, wired, listening⟩ := dispatched_first wired listening called
  obtain ⟨call, dispatched, wired, listening⟩ := first.run wired listening runs
  exact ⟨originalUrl, call, known, dispatched.settlesOnce wired listening⟩

/-- The function the router awaits ends as the call that its settling event has settled. -/
theorem dispatchToUpstream_follows (route : RouteConfig) (forwardPath : String) (req : ProxyRequest)
    (settling : UpstreamEvent) : (dispatchToUpstream route forwardPath req).Follows
      [⟨.proxy route { req with url := forwardPath }, .ok settling⟩] (.done (settlement route settling)) := by
  cases settling <;> exact .next _ (.here _)

/-- Two requests on one route: the first is answered, and the second is reset before its response closes. -/
def resetSecond : List DispatchEvent :=
  [.emit 0 .finish, .error usersRoute (some 1) "ECONNRESET" "socket hang up", .emit 1 .close, .resume 1]

theorem second_request_rejected : ∃ before sent after call, dispatchMachine.Reachable before ∧
    step before (.dispatch 1 usersRoute "/b") = some sent ∧ dispatchMachine.Runs sent resetSecond after ∧
    SettlesOnce usersRoute 1 1 "/api/users/2" resetSecond after call ∧
    call.settlements = [.error (.app (gatewayTimeoutError "/api/users/*rest"))] := by
  have began : ∃ before, Refinement.follow step
      [.request "/api/users/1", .request "/api/users/2", .dispatch 0 usersRoute "/a"] fresh = some before ∧
      before.calls.length = 1 ∧ before.urls[1]? = some "/api/users/2" ∧ ∃ sent after,
        step before (.dispatch 1 usersRoute "/b") = some sent ∧
        Refinement.follow step resetSecond sent = some after := ⟨_, rfl, rfl, rfl, _, _, rfl, rfl⟩
  obtain ⟨before, ran, one, known, sent, after, called, went⟩ := began
  have reachable : dispatchMachine.Reachable before :=
    ⟨fresh, _, rfl, Refinement.Machine.Runs.of_follow (fun _ _ _ moved => moved) ran⟩
  have runs : dispatchMachine.Runs sent resetSecond after :=
    Refinement.Machine.Runs.of_follow (fun _ _ _ moved => moved) went
  obtain ⟨originalUrl, call, saved, settles⟩ := dispatch_settles_once reachable called runs
  rw [known] at saved
  cases saved
  rw [one] at settles
  exact ⟨before, sent, after, call, reachable, called, runs, settles, settles.once⟩

end GatewayProof
