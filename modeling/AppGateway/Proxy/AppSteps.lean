import AppGateway.Proxy.MountedUrl

namespace GatewayProof

open Async GatewayModel
open GatewayModel.DispatchState (resume)

/-! What a step can do -/

def Settles (process later : DispatchState) : Prop :=
  later = process ∨ ∃ event, isQuiet event = true ∧ DispatchState.step process event = some later

structure Touches (exchange changed : Exchange) : Prop where
  req : changed.req = exchange.req
  position : changed.position = exchange.position
  logging : changed.logging = exchange.logging
  logged : changed.finished = exchange.finished ∧ changed.logged = exchange.logged ∨
    exchange.finished = false ∧ changed.finished = true

inductive Moves (express : Express) (env : ProxyEnv) (routes : List RouteConfig)
    (state : AppState) : AppState → Prop where
  | arrived (req : ProxyRequest) (method : String) :
      Moves express env routes state (AppState.request express req method state)
  | passed {req : Nat} {exchange : Exchange} {url : String} {failed : Bool}
      (found : state.exchanges[req]? = some exchange) (known : state.process.urls[req]? = some url)
      (idle : awaitsUpstream state.process req = false) (passes : exchange.position.mayPass express failed = true) :
      Moves express env routes state
        { process := { state.process with
            urls := state.process.urls.set req ((exchange.passOn express url failed).position.url express) }
          exchanges := state.exchanges.set req (exchange.passOn express url failed) }
  | touched {req : Nat} {exchange changed : Exchange} {process : DispatchState}
      (found : state.exchanges[req]? = some exchange) (touches : Touches exchange changed)
      (settles : Settles state.process process) :
      Moves express env routes state { process, exchanges := state.exchanges.set req changed }
  | reacted {process : DispatchState} (settles : Settles state.process process) :
      Moves express env routes state { state with process }
  | dispatched {req : Nat} {exchange : Exchange} {resolved : ResolvedRoute} {process : DispatchState}
      (found : state.exchanges[req]? = some exchange)
      (resolves : resolveRoute env (resourcePath exchange.req) routes = .ok (some resolved))
      (moved : DispatchState.dispatchToUpstream resolved.route resolved.forwardPath req state.process = some process) :
      Moves express env routes state { state with process }
  | resumed {call : Nat} {process : DispatchState} (moved : resume call state.process = some process) :
      Moves express env routes state { state with process }

section Moving

variable {express : Express} {env : ProxyEnv} {routes : List RouteConfig} {state after : AppState} {event : AppEvent}

theorem respondWith_cases {status req : Nat} {allowed : Exchange → Bool}
    (moved : AppState.respondWith status req allowed state = some after) : ∃ exchange,
    state.exchanges[req]? = some exchange ∧
      after =
        { state with exchanges := state.exchanges.set req { exchange with statusCode := status, ended := true } } := by
  unfold AppState.respondWith at moved
  split at moved
  · rename_i exchange found
    split at moved
    · cases moved
      exact ⟨exchange, found, rfl⟩
    · cases moved
  · cases moved

theorem finish_cases {req : Nat} (moved : AppState.finish express req state = some after) : ∃ exchange url,
    state.exchanges[req]? = some exchange ∧ state.process.urls[req]? = some url ∧ exchange.finished = false ∧
      after =
        { process := state.process.emit req .finish
          exchanges :=
            state.exchanges.set req { onFinish (express.pathname url) exchange with finished := true } } := by
  unfold AppState.finish at moved
  split at moved
  · rename_i exchange url found known
    split at moved
    · rename_i open_response
      cases moved
      simp only [Bool.and_eq_true, Bool.not_eq_true'] at open_response
      exact ⟨exchange, url, found, known, open_response.1.2, rfl⟩
    · cases moved
  · cases moved

theorem step_moves (moved : AppState.step express env routes state event = some after) :
    Moves express env routes state after := by
  cases event with
  | request req method =>
    cases moved
    exact .arrived req method
  | next req failed =>
    simp only [AppState.step, AppState.next] at moved
    split at moved
    · rename_i exchange url found known
      split at moved
      · rename_i allowed
        cases moved
        simp only [Bool.and_eq_true, Bool.not_eq_true'] at allowed
        exact .passed found known allowed.2 allowed.1
      · cases moved
    · cases moved
  | answer req status =>
    obtain ⟨exchange, found, rfl⟩ := respondWith_cases moved
    exact .touched found ⟨rfl, rfl, rfl, .inl ⟨rfl, rfl⟩⟩ (.inl rfl)
  | dispatch req =>
    simp only [AppState.step, AppState.dispatch] at moved
    split at moved
    · rename_i exchange found
      split at moved
      · split at moved
        · rename_i resolved resolves
          obtain ⟨process, called, rfl⟩ := Option.map_eq_some_iff.mp moved
          exact .dispatched found resolves called
        · cases moved
      · cases moved
    · cases moved
  | respond req status =>
    obtain ⟨exchange, found, rfl⟩ := respondWith_cases moved
    exact .touched found ⟨rfl, rfl, rfl, .inl ⟨rfl, rfl⟩⟩ (.inl rfl)
  | error middleware res code message =>
    obtain ⟨process, reacted, rfl⟩ := Option.map_eq_some_iff.mp moved
    exact .reacted (.inr ⟨_, rfl, reacted⟩)
  | failed call err =>
    obtain ⟨process, reacted, rfl⟩ := Option.map_eq_some_iff.mp moved
    exact .reacted (.inr ⟨_, rfl, reacted⟩)
  | resume call =>
    obtain ⟨process, resumed, rfl⟩ := Option.map_eq_some_iff.mp moved
    exact .resumed resumed
  | finish req =>
    obtain ⟨exchange, url, found, _, unfinished, rfl⟩ := finish_cases moved
    have touches : Touches exchange { onFinish (express.pathname url) exchange with finished := true } := by
      unfold onFinish
      split <;> exact ⟨rfl, rfl, rfl, .inr ⟨unfinished, rfl⟩⟩
    exact .touched found touches (.inr ⟨.emit req .finish, rfl, rfl⟩)
  | close req =>
    simp only [AppState.step, AppState.close] at moved
    split at moved
    · rename_i exchange found
      split at moved
      · cases moved
      · cases moved
        exact .touched found ⟨rfl, rfl, rfl, .inl ⟨rfl, rfl⟩⟩ (.inr ⟨.emit req .close, rfl, rfl⟩)
    · cases moved

end Moving

/-! Where the requests are -/

section Serving

variable {express : Express} {env : ProxyEnv} {routes : List RouteConfig} {state after : AppState}

structure Serving (express : Express) (env : ProxyEnv) (routes : List RouteConfig) (state : AppState) : Prop where
  wired : Wired state.process
  listening : Listening state.process
  paired : state.exchanges.length = state.process.urls.length
  arrived : ∀ req url, Saved state.process req url → req < state.exchanges.length
  routed : ∀ (req : Nat) (exchange : Exchange), state.exchanges[req]? = some exchange →
    Routed express env routes state.process req exchange.req exchange.position

theorem Settles.wired {process later : DispatchState} (settles : Settles process later) (wired : Wired process)
    (listening : Listening process) : Wired later ∧ Listening later := by
  rcases settles with rfl | ⟨event, _, moved⟩
  · exact ⟨wired, listening⟩
  · exact step_wired wired listening moved

theorem Settles.urls {process later : DispatchState} (settles : Settles process later) : later.urls = process.urls := by
  rcases settles with rfl | ⟨event, quiet, moved⟩
  · rfl
  · exact quiet_urls moved quiet

theorem Settles.leftAlone {process later : DispatchState} (settles : Settles process later) (wired : Wired process)
    (listening : Listening process) (req : Nat) : LeftAlone process later req := by
  rcases settles with rfl | ⟨event, quiet, moved⟩
  · exact .refl _ req
  · exact quiet_leftAlone wired listening moved quiet req

theorem passOn_position (express : Express) (url : String) (failed : Bool) (exchange : Exchange) :
    (exchange.passOn express url failed).req = exchange.req ∧ (exchange.passOn express url failed).position =
      express.next (exchange.position.restored express url) failed exchange.position.layers := by
  unfold Exchange.passOn httpLogger
  split
  · split <;> exact ⟨rfl, rfl⟩
  · exact ⟨rfl, rfl⟩

theorem Serving.frame {process : DispatchState} (serving : Serving express env routes state) {req : Nat}
    {exchange : Exchange} (found : state.exchanges[req]? = some exchange)
    (alone : LeftAlone state.process process req) :
    Routed express env routes process req exchange.req exchange.position :=
  (serving.routed req exchange found).leftAlone alone

theorem Serving.request (laws : ExpressLaws express) (serving : Serving express env routes state) (req : ProxyRequest)
    (method : String) :
    Serving express env routes (AppState.request express req method state) := by
  obtain ⟨wired, listening, paired, arrived, routed⟩ := serving
  refine ⟨⟨wired.single, wired.pending, wired.owned, wired.sound⟩, listening, ?_, ?_, ?_⟩
  · simp [AppState.request, paired]
  · intro other url saved
    have before := arrived other url saved
    simp only [AppState.request, List.length_append]
    omega
  · intro other exchange found
    rcases Lists.concat_eq_some.mp found with before | ⟨here, rfl⟩
    · have inside : other < state.process.urls.length := by
        rw [← paired]
        exact (List.getElem?_eq_some_iff.mp before).1
      exact (routed other exchange before).leftAlone ⟨List.getElem?_append_left inside, fun _ => Iff.rfl⟩
    · refine .entered laws rfl (fun layer member => member) (fun url saved => ?_) ?_
      · have before := arrived other url saved
        omega
      · rw [here, paired]
        exact List.getElem?_concat_length

theorem Serving.passed (laws : ExpressLaws express) (serving : Serving express env routes state) {req : Nat}
    {exchange : Exchange} {url : String} (failed : Bool) (found : state.exchanges[req]? = some exchange)
    (known : state.process.urls[req]? = some url) (idle : awaitsUpstream state.process req = false) :
    Serving express env routes
      { process := { state.process with
          urls := state.process.urls.set req ((exchange.passOn express url failed).position.url express) }
        exchanges := state.exchanges.set req (exchange.passOn express url failed) } := by
  obtain ⟨wired, listening, paired, arrived, routed⟩ := serving
  have inside : req < state.exchanges.length := (List.getElem?_eq_some_iff.mp found).1
  have unsaved := awaitsUpstream_eq_false.mp idle
  refine ⟨⟨wired.single, wired.pending, wired.owned, wired.sound⟩, listening, ?_, ?_, ?_⟩
  · rw [List.length_set, List.length_set, paired]
  · intro other saved_url saved
    rw [List.length_set]
    exact arrived other saved_url saved
  · intro other later there
    by_cases same : req = other
    · subst same
      rw [List.getElem?_set_self inside] at there
      cases there
      obtain ⟨same_req, position⟩ := passOn_position express url failed exchange
      have before := routed req exchange found
      have here := before.idle unsaved
      rw [known, Option.some_inj] at here
      rw [same_req, position]
      refine .entered laws ?_ before.layers unsaved ?_
      · rw [here]
        exact before.restored laws
      · exact List.getElem?_set_self (paired ▸ inside)
    · rw [List.getElem?_set_ne same] at there
      exact (routed other later there).leftAlone ⟨List.getElem?_set_ne same, fun _ => Iff.rfl⟩

theorem Serving.touched (serving : Serving express env routes state) {req : Nat} {exchange changed : Exchange}
    {process : DispatchState} (found : state.exchanges[req]? = some exchange) (touches : Touches exchange changed)
    (settles : Settles state.process process) :
    Serving express env routes { process, exchanges := state.exchanges.set req changed } := by
  have inside : req < state.exchanges.length := (List.getElem?_eq_some_iff.mp found).1
  have alone := settles.leftAlone serving.wired serving.listening
  obtain ⟨wired, listening⟩ := settles.wired serving.wired serving.listening
  refine ⟨wired, listening, ?_, ?_, ?_⟩
  · rw [List.length_set, settles.urls, serving.paired]
  · intro other url saved
    rw [List.length_set]
    exact serving.arrived other url (((alone other).saved url).mp saved)
  · intro other later there
    by_cases same : req = other
    · subst same
      rw [List.getElem?_set_self inside] at there
      cases there
      rw [touches.req, touches.position]
      exact serving.frame found (alone req)
    · rw [List.getElem?_set_ne same] at there
      exact serving.frame there (alone other)

theorem Serving.reacted (serving : Serving express env routes state) {process : DispatchState}
    (settles : Settles state.process process) : Serving express env routes { state with process } := by
  have alone := settles.leftAlone serving.wired serving.listening
  obtain ⟨wired, listening⟩ := settles.wired serving.wired serving.listening
  refine ⟨wired, listening, ?_, ?_, fun req exchange found => serving.frame found (alone req)⟩
  · rw [settles.urls]
    exact serving.paired
  · intro req url saved
    exact serving.arrived req url (((alone req).saved url).mp saved)

theorem Serving.dispatched (serving : Serving express env routes state) {req : Nat} {exchange : Exchange}
    {resolved : ResolvedRoute} {process : DispatchState} (found : state.exchanges[req]? = some exchange)
    (resolves : resolveRoute env (resourcePath exchange.req) routes = .ok (some resolved))
    (moved : DispatchState.dispatchToUpstream resolved.route resolved.forwardPath req state.process = some process) :
    Serving express env routes { state with process } := by
  obtain ⟨wired, listening⟩ := dispatch_wired serving.wired serving.listening moved
  obtain ⟨url, _, _, _, _, urls, others⟩ := dispatch_saved moved
  refine ⟨wired, listening, ?_, ?_, ?_⟩
  · rw [urls, List.length_set]
    exact serving.paired
  · intro other saved_url saved
    by_cases same : other = req
    · subst same
      exact (List.getElem?_eq_some_iff.mp found).1
    · exact serving.arrived other saved_url (((others other same).saved saved_url).mp saved)
  · intro other later there
    by_cases same : other = req
    · subst same
      rw [found] at there
      cases there
      exact (serving.routed other exchange found).dispatched resolves moved
    · exact serving.frame there (others other same)

theorem Serving.resumed (serving : Serving express env routes state) {call : Nat} {process : DispatchState}
    (moved : resume call state.process = some process) : Serving express env routes { state with process } := by
  obtain ⟨wired, listening⟩ := resume_wired serving.wired serving.listening moved
  obtain ⟨req, url, saved, none_left, urls, others⟩ := resume_saved serving.wired moved
  refine ⟨wired, listening, ?_, ?_, ?_⟩
  · rw [urls, List.length_set]
    exact serving.paired
  · intro other saved_url left
    by_cases same : other = req
    · subst same
      exact absurd left (none_left saved_url)
    · exact serving.arrived other saved_url (((others other same).saved saved_url).mp left)
  · intro other exchange found
    by_cases same : other = req
    · subst same
      exact (serving.routed other exchange found).resumed saved none_left urls
    · exact serving.frame found (others other same)

theorem Serving.step (laws : ExpressLaws express) (serving : Serving express env routes state)
    (moves : Moves express env routes state after) : Serving express env routes after := by
  cases moves with
  | arrived req method => exact serving.request laws req method
  | passed found known idle passes => exact serving.passed laws _ found known idle
  | touched found touches settles => exact serving.touched found touches settles
  | reacted settles => exact serving.reacted settles
  | dispatched found resolves moved => exact serving.dispatched found resolves moved
  | resumed moved => exact serving.resumed moved

theorem serving_fresh (express : Express) (env : ProxyEnv) (routes : List RouteConfig) :
    Serving express env routes .fresh := by
  obtain ⟨wired, listening⟩ := dispatchMachine_wired ⟨DispatchState.fresh, [], rfl, .refl⟩
  refine ⟨wired, listening, rfl, ?_, ?_⟩
  · rintro req url ⟨id, call, found, _⟩
    cases found
  · intro req exchange found
    cases found

end Serving

end GatewayProof
