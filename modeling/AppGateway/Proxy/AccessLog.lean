import AppGateway.Proxy.AppSteps
import Mathlib.Data.List.TakeWhile

namespace GatewayProof

open Async GatewayModel

/-! The listener -/

structure Unheard (position : Position) (place : Nat) : Prop where
  low : place < 4
  error : position.error = false
  mount : position.mount = none
  handler : position.handler = (createApp[place]?).map (·.handler)
  layers : position.layers = createApp.drop (place + 1)

/-- Past `httpLogger` its listener waits for a finish, unless the path is excluded, and up to the finish nothing is
    logged. -/
structure Logs (express : Express) (exchange : Exchange) : Prop where
  listens : express.pathname exchange.req.originalUrl ∉ EXCLUDED_PATHS →
    exchange.logging = true ∨ ∃ place, Unheard exchange.position place
  once : exchange.finished = false → exchange.logged = []

section Listener

variable {express : Express} {exchange changed : Exchange} {position : Position}

theorem unheard_first (laws : ExpressLaws express) (url : String) : Unheard (express.next url false createApp) 0 := by
  rw [laws.next_eq]
  exact ⟨by decide, rfl, rfl, rfl, rfl⟩

theorem Unheard.cases {place : Nat} (unheard : Unheard position place) :
    place = 0 ∨ place = 1 ∨ place = 2 ∨ place = 3 := by
  have low := unheard.low
  omega

theorem Unheard.handlers {place : Nat} (unheard : Unheard position place) :
    position.handler ∈ [some .helmet, some .cors, some .requestId, some .httpLogger] := by
  rw [unheard.handler]
  rcases unheard.cases with rfl | rfl | rfl | rfl <;> decide

theorem Unheard.passed (laws : ExpressLaws express) {place : Nat} {failed : Bool} (unheard : Unheard position place)
    (passes : position.mayPass express failed = true) (url : String) :
    failed = false ∧ (place = 3 ∨ Unheard (express.next url failed position.layers) (place + 1)) := by
  have handler := unheard.handler
  have helmet : express.passes .helmet true = false := laws.packages _ (by decide)
  have cors : express.passes .cors true = false := laws.packages _ (by decide)
  have clean : failed = false := by
    by_contra wrong
    rw [Bool.not_eq_false] at wrong
    subst wrong
    rcases unheard.cases with rfl | rfl | rfl | rfl
    all_goals
      simp only [createApp, List.getElem?_cons_zero, List.getElem?_cons_succ, Option.map_some] at handler
      simp [Position.mayPass, Position.invoked, handler, unheard.error, Middleware.passes, helmet, cors] at passes
  subst clean
  refine ⟨rfl, ?_⟩
  rw [unheard.layers, laws.next_eq]
  rcases unheard.cases with rfl | rfl | rfl | rfl
  · exact .inr ⟨by decide, rfl, rfl, rfl, rfl⟩
  · exact .inr ⟨by decide, rfl, rfl, rfl, rfl⟩
  · exact .inr ⟨by decide, rfl, rfl, rfl, rfl⟩
  · exact .inl rfl

theorem passOn_logging (express : Express) (url : String) (failed : Bool) (exchange : Exchange) :
    (exchange.passOn express url failed).logged = exchange.logged ∧
      (exchange.passOn express url failed).finished = exchange.finished ∧
      (exchange.logging = true → (exchange.passOn express url failed).logging = true) := by
  unfold Exchange.passOn httpLogger
  split
  · split
    · exact ⟨rfl, rfl, fun logging => logging⟩
    · exact ⟨rfl, rfl, fun _ => rfl⟩
  · exact ⟨rfl, rfl, fun logging => logging⟩

theorem Logs.passed (laws : ExpressLaws express) {url : String} {failed : Bool} (logs : Logs express exchange)
    (passes : exchange.position.mayPass express failed = true) (root : exchange.position.mount = none →
      express.pathname url = express.pathname exchange.req.originalUrl) :
    Logs express (exchange.passOn express url failed) := by
  obtain ⟨logged, finished, kept⟩ := passOn_logging express url failed exchange
  obtain ⟨same_req, position⟩ := passOn_position express url failed exchange
  refine ⟨fun named => ?_, fun unfinished => ?_⟩
  · rw [same_req] at named
    rcases logs.listens named with logging | ⟨place, unheard⟩
    · exact .inl (kept logging)
    · obtain ⟨clean, rfl | further⟩ := unheard.passed laws passes (exchange.position.restored express url)
      · left
        have logger : exchange.position.handler = some .httpLogger := unheard.handler
        have invoked : exchange.position.invoked = true := by simp [Position.invoked, logger, unheard.error]
        rw [← root unheard.mount] at named
        simp [Exchange.passOn, httpLogger, logger, invoked, named]
      · rw [position]
        exact .inr ⟨place + 1, further⟩
  · rw [logged]
    rw [finished] at unfinished
    exact logs.once unfinished

theorem Logs.touched (logs : Logs express exchange) (touches : Touches exchange changed) : Logs express changed := by
  refine ⟨fun named => ?_, fun unfinished => ?_⟩
  · rw [touches.req] at named
    rw [touches.logging, touches.position]
    exact logs.listens named
  · rcases touches.logged with ⟨same, logged⟩ | ⟨_, done⟩
    · rw [same] at unfinished
      rw [logged]
      exact logs.once unfinished
    · rw [done] at unfinished
      cases unfinished

end Listener

/-! Runs -/

section Runs

variable {express : Express} {env : ProxyEnv} {routes : List RouteConfig} {state after last : AppState} {req : Nat}
  {exchange : Exchange} {events : List AppEvent}

def appMachine (express : Express) (env : ProxyEnv) (routes : List RouteConfig) :
    Refinement.Machine AppState AppEvent where
  start state := state = .fresh
  step state event after := AppState.step express env routes state event = some after

theorem Routed.root {process : DispatchState} {request : ProxyRequest} {position : Position} {url : String}
    (routed : Routed express env routes process req request position) (idle : awaitsUpstream process req = false)
    (known : process.urls[req]? = some url) (root : position.mount = none) :
    express.pathname url = express.pathname request.originalUrl := by
  have here := routed.idle (awaitsUpstream_eq_false.mp idle)
  rw [known, Option.some_inj, Position.url, root] at here
  rw [here]
  exact routed.path

theorem logs_step (laws : ExpressLaws express) (serving : Serving express env routes state)
    (moves : Moves express env routes state after) (held : ∀ exchange ∈ state.exchanges, Logs express exchange) :
    ∀ exchange ∈ after.exchanges, Logs express exchange := by
  intro later member
  cases moves with
  | arrived req method =>
    rcases List.mem_append.mp member with before | added
    · exact held later before
    · rw [List.mem_singleton.mp added]
      exact ⟨fun _ => .inr ⟨0, unheard_first laws req.originalUrl⟩, fun _ => rfl⟩
  | @passed req exchange url failed found known idle passes =>
    rcases List.mem_or_eq_of_mem_set member with before | rfl
    · exact held later before
    · exact (held exchange (List.mem_of_getElem? found)).passed laws passes fun root =>
        (serving.routed req exchange found).root idle known root
  | touched found touches settles =>
    rcases List.mem_or_eq_of_mem_set member with before | rfl
    · exact held later before
    · exact (held _ (List.mem_of_getElem? found)).touched touches
  | reacted settles => exact held later member
  | dispatched found resolves moved => exact held later member
  | resumed moved => exact held later member

theorem appMachine_serving (laws : ExpressLaws express) (reachable : (appMachine express env routes).Reachable state) :
    Serving express env routes state ∧ ∀ exchange ∈ state.exchanges, Logs express exchange := by
  obtain ⟨start, labels, same, runs⟩ := reachable
  induction runs with
  | refl =>
    rw [same]
    refine ⟨serving_fresh express env routes, fun exchange member => ?_⟩
    cases member
  | snoc _ moved ih =>
    obtain ⟨serving, logs⟩ := ih
    have moves := step_moves moved
    exact ⟨serving.step laws moves, logs_step laws serving moves logs⟩

theorem finished_kept (moves : Moves express env routes state after) (found : state.exchanges[req]? = some exchange)
    (finished : exchange.finished = true) : ∃ now, after.exchanges[req]? = some now ∧ now.req = exchange.req ∧
      now.finished = true ∧ now.logged = exchange.logged := by
  have inside : req < state.exchanges.length := (List.getElem?_eq_some_iff.mp found).1
  cases moves with
  | arrived request method =>
    exact ⟨exchange, (List.getElem?_append_left inside).trans found, rfl, finished, rfl⟩
  | @passed other earlier url failed there known idle passes =>
    by_cases same : other = req
    · subst same
      rw [found] at there
      cases there
      obtain ⟨logged, done, _⟩ := passOn_logging express url failed exchange
      exact ⟨_, List.getElem?_set_self inside, (passOn_position express url failed exchange).1,
        done.trans finished, logged⟩
    · exact ⟨exchange, (List.getElem?_set_ne same).trans found, rfl, finished, rfl⟩
  | @touched other earlier changed process there touches settles =>
    by_cases same : other = req
    · subst same
      rw [found] at there
      cases there
      rcases touches.logged with ⟨done, logged⟩ | ⟨open_response, _⟩
      · exact ⟨changed, List.getElem?_set_self inside, touches.req, done.trans finished, logged⟩
      · rw [finished] at open_response
        cases open_response
    · exact ⟨exchange, (List.getElem?_set_ne same).trans found, rfl, finished, rfl⟩
  | reacted settles => exact ⟨exchange, found, rfl, finished, rfl⟩
  | dispatched there resolves moved => exact ⟨exchange, found, rfl, finished, rfl⟩
  | resumed moved => exact ⟨exchange, found, rfl, finished, rfl⟩

theorem finished_stays (runs : (appMachine express env routes).Runs after events last)
    (found : after.exchanges[req]? = some exchange) (finished : exchange.finished = true) :
    ∃ now, last.exchanges[req]? = some now ∧ now.req = exchange.req ∧ now.logged = exchange.logged := by
  have kept : ∃ now, last.exchanges[req]? = some now ∧ now.req = exchange.req ∧ now.finished = true ∧
      now.logged = exchange.logged := by
    induction runs with
    | refl => exact ⟨exchange, found, rfl, finished, rfl⟩
    | snoc _ moved ih =>
      obtain ⟨middle, there, same_req, done, logged⟩ := ih
      obtain ⟨now, here, same_req', done', logged'⟩ := finished_kept (step_moves moved) there done
      exact ⟨now, here, same_req'.trans same_req, done', logged'.trans logged⟩
  obtain ⟨now, here, same_req, _, logged⟩ := kept
  exact ⟨now, here, same_req, logged⟩

theorem Routed.finish_path (laws : ExpressLaws express) {process : DispatchState} {request : ProxyRequest}
    {position : Position} {url : String} (routed : Routed express env routes process req request position)
    (known : process.urls[req]? = some url) :
    express.pathname url = express.pathname request.originalUrl ↔
      if awaitsUpstream process req then ∃ resolved,
        resolveRoute env (resourcePath request) routes = .ok (some resolved) ∧
          express.pathname resolved.forwardPath = express.pathname request.originalUrl
      else position.mount = none := by
  cases waits : awaitsUpstream process req with
  | true =>
    obtain ⟨saved_url, saved⟩ := awaitsUpstream_iff.mp waits
    obtain ⟨_, resolved, resolves, forwarded⟩ := routed.awaiting saved_url saved
    rw [known, Option.some_inj] at forwarded
    subst forwarded
    rw [if_pos rfl]
    constructor
    · intro same
      exact ⟨resolved, resolves, same⟩
    · rintro ⟨other, resolves', same⟩
      rw [resolves] at resolves'
      cases resolves'
      exact same
  | false =>
    rw [if_neg Bool.false_ne_true]
    constructor
    · intro same
      cases mounted : position.mount with
      | none => rfl
      | some mount =>
        have here := routed.idle (awaitsUpstream_eq_false.mp waits)
        rw [known, Option.some_inj] at here
        rw [here] at same
        exact absurd same (routed.mounted laws mounted)
    · intro root
      exact routed.root waits known root

/-- In every run one line is logged for a request whose response finishes past `httpLogger`. Its path is the one that
    the client requested exactly when control is in no mounted router, or the proxy waits for the upstream with that
    path forwarded. -/
theorem access_log_path_iff (laws : ExpressLaws express) (reachable : (appMachine express env routes).Reachable state)
    (found : state.exchanges[req]? = some exchange)
    (named : express.pathname exchange.req.originalUrl ∉ EXCLUDED_PATHS)
    (past : exchange.position.handler ∉ [some .helmet, some .cors, some .requestId, some .httpLogger])
    (finishes : AppState.step express env routes state (.finish req) = some after)
    (runs : (appMachine express env routes).Runs after events last) :
    ∃ now line, last.exchanges[req]? = some now ∧ now.req = exchange.req ∧ now.logged = [line] ∧
      (line.path = express.pathname exchange.req.originalUrl ↔
        if awaitsUpstream state.process req then ∃ resolved,
          resolveRoute env (resourcePath exchange.req) routes = .ok (some resolved) ∧
            express.pathname resolved.forwardPath = express.pathname exchange.req.originalUrl
        else exchange.position.mount = none) := by
  obtain ⟨serving, logs⟩ := appMachine_serving laws reachable
  obtain ⟨listens, once⟩ := logs exchange (List.mem_of_getElem? found)
  obtain ⟨finished, url, there, known, unfinished, rfl⟩ := finish_cases finishes
  rw [found] at there
  cases there
  have logging : exchange.logging = true := by
    rcases listens named with logging | ⟨place, unheard⟩
    · exact logging
    · exact absurd unheard.handlers past
  have inside : req < state.exchanges.length := (List.getElem?_eq_some_iff.mp found).1
  obtain ⟨now, here, same_req, logged⟩ := finished_stays runs (List.getElem?_set_self inside) rfl
  simp only [onFinish, logging, if_true, once unfinished, List.nil_append] at same_req logged
  refine ⟨now, _, here, same_req, logged, ?_⟩
  exact (serving.routed req exchange found).finish_path laws known

end Runs

/-! Express for targets that begin with a slash and spell the mounts as `createApp` does -/

def sampleMounting : Mounting where
  pathname url := String.ofList (url.toList.takeWhile (· ≠ '?'))
  matchLayer mount path :=
    mount.toList.isPrefixOf path.toList && decide ((path.toList.drop mount.length).head? ∈ [none, some '/'])
  trimPrefix mount url :=
    let rest := url.toList.drop mount.length
    String.ofList (if rest.head? = some '/' then rest else '/' :: rest)
  restore mount entered url :=
    let slashAdded := (entered.toList.drop mount.length).head? ≠ some '/'
    String.ofList (entered.toList.take mount.length ++ if slashAdded then url.toList.drop 1 else url.toList)

def sampleExpress : Express :=
  { sampleMounting with
    next := enter sampleMounting
    passes := fun handler failed => decide (handler = .json ∨ handler = .urlencoded) || !failed
    answers := fun handler => decide (handler = .cors) }

theorem matchLayer_split {mount url : String}
    (fits : sampleExpress.matchLayer mount (sampleExpress.pathname url) = true) :
    ∃ rest, url.toList = mount.toList ++ rest ∧ ∀ c ∈ mount.toList, decide (c ≠ '?') = true := by
  simp only [sampleExpress, sampleMounting, Bool.and_eq_true, String.toList_ofList] at fits
  obtain ⟨more, front⟩ := List.isPrefixOf_iff_prefix.mp fits.1
  refine ⟨more ++ url.toList.dropWhile (· ≠ '?'), ?_, fun c member => ?_⟩
  · rw [← List.append_assoc, front, List.takeWhile_append_dropWhile]
  · have inside : c ∈ url.toList.takeWhile (fun c => decide (c ≠ '?')) := by
      rw [← front]
      exact List.mem_append_left _ member
    have holds := List.mem_takeWhile_imp inside
    exact holds

theorem sampleExpress_laws : ExpressLaws sampleExpress := by
  constructor
  · intro mount url fits
    obtain ⟨rest, split, plain⟩ := matchLayer_split fits
    refine ⟨mount, String.ofList (rest.takeWhile (· ≠ '?')), ?_, rfl, ?_⟩
    · apply String.toList_injective
      rw [String.toList_append]
      simp only [sampleExpress, sampleMounting, String.toList_ofList]
      rw [split, List.takeWhile_append_of_pos plain]
    · have left_over : url.toList.drop mount.length = rest := by
        rw [split, ← String.length_toList, List.drop_left]
      simp only [sampleExpress, sampleMounting, left_over, String.toList_ofList]
      split
      · exact .inl rfl
      · right
        apply String.toList_injective
        rw [String.toList_append]
        simp
  · intro mount url fits
    obtain ⟨rest, split, _⟩ := matchLayer_split fits
    have left_over : url.toList.drop mount.length = rest := by
      rw [split, ← String.length_toList, List.drop_left]
    have whole : url.toList.take mount.length ++ rest = url.toList := by
      rw [← left_over, List.take_append_drop]
    congr 1
    simp only [sampleExpress, sampleMounting, left_over, String.toList_ofList]
    by_cases slash : rest.head? = some '/'
    · simp [slash, whole]
    · simp [slash, whole]
  · exact fun _ _ => rfl
  · intro url error layer layers mount found
    exact enter_found found
  · intro url error layer layers found
    exact enter_passed found
  · decide

def sampleStep : AppState → AppEvent → Option AppState := AppState.step sampleExpress sampleProxy [usersRoute]

def passing (method target : String) (count : Nat) : List AppEvent :=
  .request (sampleRequest target) method :: List.replicate count (.next 0 false)

theorem sample_runs {events : List AppEvent} {first last : AppState}
    (ran : Refinement.follow sampleStep events first = some last) :
    (appMachine sampleExpress sampleProxy [usersRoute]).Runs first events last :=
  Refinement.Machine.Runs.of_follow (fun _ _ _ moved => moved) ran

/-- The path of a proxied request is logged while the forwarded path is in `req.url`. -/
theorem proxied_path_logged : ∃ last now line,
    (appMachine sampleExpress sampleProxy [usersRoute]).Reachable last ∧ last.exchanges[0]? = some now ∧
      now.req = sampleRequest "/api/users/1?x=1" ∧ now.logged = [line] ∧ line.path = "/api/users/1" := by
  have computed : (Refinement.follow sampleStep (passing "GET" "/api/users/1?x=1" 6 ++ [.dispatch 0, .respond 0 200])
      .fresh).map (fun state => (awaitsUpstream state.process 0, ((state.exchanges[0]?).map fun exchange =>
        (exchange.req, exchange.position.handler)), (Refinement.follow sampleStep [.finish 0, .resume 0] state).isSome))
        =
      some (true, some (sampleRequest "/api/users/1?x=1", some .proxyRouter), true) := by decide +kernel
  obtain ⟨state, ran, facts⟩ := Option.map_eq_some_iff.mp computed
  obtain ⟨waits, facts⟩ := Prod.mk.inj facts
  obtain ⟨there, goes_on⟩ := Prod.mk.inj facts
  obtain ⟨exchange, found, position⟩ := Option.map_eq_some_iff.mp there
  obtain ⟨same_req, handler⟩ := Prod.mk.inj position
  obtain ⟨last, ended⟩ := Option.isSome_iff_exists.mp goes_on
  obtain ⟨after, finishes, resumes⟩ := Option.bind_eq_some_iff.mp ended
  have reachable : (appMachine sampleExpress sampleProxy [usersRoute]).Reachable state :=
    ⟨.fresh, _, rfl, sample_runs ran⟩
  have named : sampleExpress.pathname exchange.req.originalUrl ∉ EXCLUDED_PATHS := by
    rw [same_req]
    decide +kernel
  have past : exchange.position.handler ∉ [some .helmet, some .cors, some .requestId, some .httpLogger] := by
    rw [handler]
    decide
  obtain ⟨now, line, here, kept, logged, exact_when⟩ := access_log_path_iff sampleExpress_laws reachable found named
    past finishes (sample_runs resumes)
  rw [waits, if_pos rfl, same_req] at exact_when
  have forwarded : resolveRoute sampleProxy (resourcePath (sampleRequest "/api/users/1?x=1")) [usersRoute] =
      .ok (some ⟨usersRoute, "/api/users/1"⟩) := by decide +kernel
  refine ⟨last, now, line, reachable.runs (sample_runs ended), here, kept.trans same_req, logged, ?_⟩
  rw [exact_when.mpr ⟨_, forwarded, by decide +kernel⟩]
  decide +kernel

/-- A login is answered in a mounted router, and the path in its line is without the mount point. -/
theorem login_path_lost : ∃ last now line, ExpressLaws sampleExpress ∧
    (appMachine sampleExpress sampleProxy [usersRoute]).Reachable last ∧ last.exchanges[0]? = some now ∧
      now.req = sampleRequest "/v1/auth/login" ∧ now.position.handler = some .authRouter ∧ now.logged = [line] ∧
      line.path = "/login" ∧ sampleExpress.pathname now.req.originalUrl = "/v1/auth/login" := by
  have computed : (Refinement.follow sampleStep
    (passing "POST" "/v1/auth/login" 9 ++ [.answer 0 200, .finish 0]) .fresh).map
      (fun last => (last.exchanges[0]?).map fun now => (now.req, now.position.handler, now.logged)) =
      some (some (sampleRequest "/v1/auth/login", some .authRouter, [⟨"req", "POST", "/login", 200⟩])) := by
        decide +kernel
  obtain ⟨last, ran, facts⟩ := Option.map_eq_some_iff.mp computed
  obtain ⟨now, here, facts⟩ := Option.map_eq_some_iff.mp facts
  obtain ⟨same_req, facts⟩ := Prod.mk.inj facts
  obtain ⟨handler, logged⟩ := Prod.mk.inj facts
  refine ⟨last, now, _, sampleExpress_laws, ⟨.fresh, _, rfl, sample_runs ran⟩, here, same_req,
    handler, logged, rfl, ?_⟩
  rw [same_req]
  decide +kernel

end GatewayProof
