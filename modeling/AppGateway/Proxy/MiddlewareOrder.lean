import AppGateway.Lists
import AppGateway.Proxy.AccessLog

namespace GatewayProof

open Async GatewayModel

/-! The way of a request through the layers -/

/-- What a step adds to the way of a request: the handler that passes it on, and whether with an error. Layers that are
    passed over because of an earlier error are not on it. -/
def crossing (state : AppState) (req : Nat) : AppEvent → List (Middleware × Bool)
  | .next other failed =>
    if other = req then
      (((state.exchanges[req]?.map (·.position)).filter Position.invoked).bind Position.handler).toList.map (·, failed)
    else []
  | _ => []

inductive Travels (express : Express) (env : ProxyEnv) (routes : List RouteConfig) (req : Nat) :
    List (Middleware × Bool) → AppState → Prop where
  | fresh : Travels express env routes req [] .fresh
  | step {way : List (Middleware × Bool)} {state after : AppState} {event : AppEvent}
      (travels : Travels express env routes req way state)
      (moved : AppState.step express env routes state event = some after) :
      Travels express env routes req (way ++ crossing state req event) after

def isFor (express : Express) (path : String) (layer : Layer) : Bool := (layer.matched express.toMounting path).isSome

def wayTo (express : Express) (path : String) (place : Nat) : List (Middleware × Bool) :=
  ((createApp.take place).filter (isFor express path)).map fun layer => (layer.handler, false)

structure Stands (position : Position) (place : Nat) (layer : Layer) : Prop where
  there : createApp[place]? = some layer
  handler : position.handler = some layer.handler
  layers : position.layers = createApp.drop (place + 1)

/-- Up to the first error a request has been through the layers for its path, in their order; with an error it has only
    the error handler before it. -/
inductive OnTheWay (express : Express) (path : String) (position : Position) : List (Middleware × Bool) → Prop where
  | clean (place : Nat) (layer : Layer) (low : place ≤ 12) (stands : Stands position place layer)
      (fits : isFor express path layer = true) (error : position.error = false) :
      OnTheWay express path position (wayTo express path place)
  | failing (place : Nat) (layer : Layer) (low : place ≤ 12) (there : createApp[place]? = some layer)
      (fits : isFor express path layer = true) (error : position.error = true) (later : Nat) (next : Layer)
      (before : later ≤ 13) (stands : Stands position later next) :
      OnTheWay express path position (wayTo express path place ++ [(layer.handler, true)])
  | gone (way : List (Middleware × Bool)) (handler : position.handler = none) (layers : position.layers = [])
      (error : position.error = true) : OnTheWay express path position way

section Layers

variable {express : Express} {url path : String} {error : Bool}

theorem next_skips (laws : ExpressLaws express) (layers : List Layer) :
    (∃ skipped layer, layers = skipped ++ layer :: (express.next url error layers).layers ∧
      (∀ other ∈ skipped, isFor express (express.pathname url) other = false) ∧
      isFor express (express.pathname url) layer = true ∧
      (express.next url error layers).handler = some layer.handler) ∨
    (∀ other ∈ layers, isFor express (express.pathname url) other = false) ∧
      (express.next url error layers).handler = none ∧ (express.next url error layers).layers = [] := by
  rw [laws.next_eq]
  induction layers with
  | nil => exact .inr ⟨nofun, rfl, rfl⟩
  | cons layer layers ih =>
    cases matched : layer.matched express.toMounting (express.pathname url) with
    | some mount =>
      rw [enter_found matched]
      exact .inl ⟨[], layer, rfl, nofun, by simp [isFor, matched], rfl⟩
    | none =>
      have passes : isFor express (express.pathname url) layer = false := by simp [isFor, matched]
      rw [enter_passed matched]
      rcases ih with ⟨skipped, found, split, others, fits, handler⟩ | ⟨others, handler, rest⟩
      · refine .inl ⟨layer :: skipped, found, by rw [List.cons_append, ← split], ?_, fits, handler⟩
        exact List.forall_mem_cons.mpr ⟨passes, others⟩
      · exact .inr ⟨List.forall_mem_cons.mpr ⟨passes, others⟩, handler, rest⟩

theorem isFor_root {layer : Layer} (root : layer.mounts = []) : isFor express path layer = true := by
  simp [isFor, Layer.matched, root]

theorem drop_place {place : Nat} {skipped rest : List Layer} {layer : Layer}
    (split : createApp.drop place = skipped ++ layer :: rest) :
    createApp[place + skipped.length]? = some layer ∧ rest = createApp.drop (place + skipped.length + 1) := by
  constructor
  · rw [← List.getElem?_drop, split]
    simp
  · have further := congrArg (List.drop (skipped.length + 1)) split
    rw [List.drop_drop] at further
    rw [Nat.add_assoc, further, List.drop_append]
    simp

theorem next_stands (laws : ExpressLaws express) {place stop : Nat} {root : Layer} (before : place ≤ stop)
    (there : createApp[stop]? = some root) (all : root.mounts = []) : ∃ later layer, later ≤ stop ∧
    Stands (express.next url error (createApp.drop place)) later layer ∧
    isFor express (express.pathname url) layer = true ∧
    wayTo express (express.pathname url) later = wayTo express (express.pathname url) place := by
  have seen : (createApp.drop place)[stop - place]? = some root := by
    rw [List.getElem?_drop, Nat.add_sub_cancel' before]
    exact there
  have caught : isFor express (express.pathname url) root = true := isFor_root all
  rcases @next_skips express url error laws (createApp.drop place) with
    ⟨skipped, layer, split, others, fits, handler⟩ | ⟨others, _, _⟩
  · obtain ⟨found, rest⟩ := drop_place split
    have short : place + skipped.length ≤ stop := by
      by_contra beyond
      rw [split, List.getElem?_append_left (by omega)] at seen
      rw [others root (List.mem_of_getElem? seen)] at caught
      cases caught
    refine ⟨place + skipped.length, layer, short, ⟨found, handler, rest⟩, fits, ?_⟩
    have front : createApp.take (place + skipped.length) = createApp.take place ++ skipped := by
      rw [List.take_add, split]
      simp
    have nothing : skipped.filter (isFor express (express.pathname url)) = [] :=
      List.filter_eq_nil_iff.mpr fun other inside => by simp [others other inside]
    rw [wayTo, front, List.filter_append, nothing, List.append_nil]
    rfl
  · rw [others root (List.mem_of_getElem? seen)] at caught
    cases caught

theorem wayTo_succ {place : Nat} {layer : Layer} (there : createApp[place]? = some layer)
    (fits : isFor express path layer = true) :
    wayTo express path (place + 1) = wayTo express path place ++ [(layer.handler, false)] := by
  obtain ⟨inside, rfl⟩ := List.getElem?_eq_some_iff.mp there
  rw [wayTo, List.take_succ_eq_append_getElem inside, List.filter_append, List.map_append]
  simp [wayTo, fits]

end Layers

section Ways

variable {express : Express} {path url : String} {position : Position} {way : List (Middleware × Bool)} {place : Nat}
  {layer : Layer}

theorem createApp_once {first second : Nat} {one two : Layer} (there : createApp[first]? = some one)
    (there' : createApp[second]? = some two) (same : one.handler = two.handler) : first = second := by
  have apart : ∀ first < 14, ∀ second < 14, (createApp[first]?).map (·.handler) = (createApp[second]?).map (·.handler) →
      first = second := by decide
  refine apart first (List.getElem?_eq_some_iff.mp there).1 second (List.getElem?_eq_some_iff.mp there').1 ?_
  rw [there, there', Option.map_some, Option.map_some, same]

theorem createApp_before_last : ∀ place ≤ 12, ∀ layer, createApp[place]? = some layer →
    layer.handler ≠ .errorHandler ∧ (place = 12 → layer.handler = .notFound) := by
  have places : ∀ place ≤ 12, ((createApp[place]?.all fun layer => decide (layer.handler ≠ .errorHandler ∧
      (place = 12 → layer.handler = .notFound))) = true) := by decide
  intro place low layer there
  have own := places place low
  rw [there] at own
  exact of_decide_eq_true own

theorem handed_eq (stands : Stands position place layer) :
    ((some position).filter Position.invoked).bind Position.handler =
    if position.invoked then some layer.handler else none := by
  cases invoked : position.invoked <;> simp [Option.filter, invoked, stands.handler]

theorem OnTheWay.passed (laws : ExpressLaws express) (same : express.pathname url = path) {failed : Bool}
    (on : OnTheWay express path position way) (passes : position.mayPass express failed = true) :
    OnTheWay express path (express.next url failed position.layers)
      (way ++ (((some position).filter Position.invoked).bind Position.handler).toList.map (·, failed)) := by
  subst same
  cases on with
  | clean place layer low stands fits error =>
    obtain ⟨apart, last⟩ := createApp_before_last place low layer stands.there
    have invoked : position.invoked = true := by simp [Position.invoked, stands.handler, error, apart]
    rw [handed_eq stands, if_pos invoked, stands.layers]
    cases failed with
    | true =>
      obtain ⟨later, next, before, stands', _, _⟩ :=
        @next_stands express url true laws (place + 1) 13 ⟨[], .errorHandler⟩ (by omega) rfl rfl
      exact .failing place layer low stands.there fits (next_among laws url true _).2.1 later next before stands'
    | false =>
      have further : place ≠ 12 := by
        rintro rfl
        simp [Position.mayPass, invoked, stands.handler, last rfl, Middleware.passes] at passes
      obtain ⟨later, next, before, stands', fits', same⟩ :=
        @next_stands express url false laws (place + 1) 12 ⟨[], .notFound⟩ (by omega) rfl rfl
      rw [Option.toList_some, List.map_singleton, ← wayTo_succ stands.there fits, ← same]
      exact .clean later next before stands' fits' (next_among laws url false _).2.1
  | failing place layer low there fits error later next before stands =>
    rw [handed_eq stands, stands.layers]
    by_cases last : later = 13
    · subst last
      cases stands.there
      have invoked : position.invoked = true := by simp [Position.invoked, stands.handler, error]
      obtain rfl : failed = true := by
        simpa [Position.mayPass, stands.handler, invoked, Middleware.passes] using passes
      rw [laws.next_eq]
      exact .gone _ rfl rfl rfl
    · obtain ⟨apart, _⟩ := createApp_before_last later (by omega) next stands.there
      have passed_over : position.invoked = false := by simp [Position.invoked, stands.handler, error, apart]
      obtain rfl : failed = true := by simpa [Position.mayPass, stands.handler, passed_over, error] using passes
      rw [passed_over, if_neg (by decide), Option.toList_none, List.map_nil, List.append_nil]
      obtain ⟨further, other, before', stands', _, _⟩ :=
        @next_stands express url true laws (later + 1) 13 ⟨[], .errorHandler⟩ (by omega) rfl rfl
      exact .failing place layer low there fits (next_among laws url true _).2.1 further other before' stands'
  | gone way handler layers error =>
    simp [Position.mayPass, handler] at passes

end Ways

section Runs

variable {express : Express} {env : ProxyEnv} {routes : List RouteConfig} {state after : AppState} {req : Nat}
  {exchange later : Exchange} {event : AppEvent} {way : List (Middleware × Bool)}

theorem Travels.reachable (travels : Travels express env routes req way state) :
    (appMachine express env routes).Reachable state := by
  induction travels with
  | fresh => exact ⟨.fresh, [], rfl, .refl⟩
  | step _ moved ih =>
    obtain ⟨first, labels, start, runs⟩ := ih
    exact ⟨first, labels ++ [_], start, runs.snoc moved⟩

inductive Becomes (express : Express) (state : AppState) (req : Nat) (event : AppEvent)
    (later : Exchange) : Prop where
  | kept (exchange : Exchange) (found : state.exchanges[req]? = some exchange) (sameReq : later.req = exchange.req)
      (samePosition : later.position = exchange.position) (stays : crossing state req event = [])
  | arrived (absent : state.exchanges[req]? = none) (stays : crossing state req event = [])
      (position : later.position = express.next later.req.originalUrl false createApp)
  | passed (exchange : Exchange) (url : String) (failed : Bool) (found : state.exchanges[req]? = some exchange)
      (known : state.process.urls[req]? = some url) (idle : awaitsUpstream state.process req = false)
      (passes : exchange.position.mayPass express failed = true) (crosses : crossing state req event =
        (((some exchange.position).filter Position.invoked).bind Position.handler).toList.map (·, failed))
      (become : later = exchange.passOn express url failed)

theorem set_becomes {other : Nat} {changed : Exchange} (found : state.exchanges[other]? = some exchange)
    (there : (state.exchanges.set other changed)[req]? = some later) (sameReq : changed.req = exchange.req)
    (samePosition : changed.position = exchange.position) (stays : crossing state req event = []) :
    Becomes express state req event later := by
  by_cases same : other = req
  · subst same
    rw [List.getElem?_set_self (List.getElem?_eq_some_iff.mp found).1] at there
    cases there
    exact .kept exchange found sameReq samePosition stays
  · rw [List.getElem?_set_ne same] at there
    exact .kept later there rfl rfl stays

theorem step_becomes (moved : AppState.step express env routes state event = some after)
    (there : after.exchanges[req]? = some later) : Becomes express state req event later := by
  cases event with
  | request request method =>
    cases moved
    rcases Lists.concat_eq_some.mp there with before | ⟨here, rfl⟩
    · exact .kept later before rfl rfl rfl
    · exact .arrived (List.getElem?_eq_none (Nat.le_of_eq here.symm)) rfl rfl
  | next other failed =>
    simp only [AppState.step, AppState.next] at moved
    split at moved
    · rename_i exchange url found known
      split at moved
      · rename_i allowed
        cases moved
        simp only [Bool.and_eq_true, Bool.not_eq_true'] at allowed
        by_cases same : other = req
        · subst same
          rw [List.getElem?_set_self (List.getElem?_eq_some_iff.mp found).1] at there
          cases there
          exact .passed exchange url failed found known allowed.2 allowed.1
            (by rw [crossing, if_pos rfl, found, Option.map_some]) rfl
        · rw [List.getElem?_set_ne same] at there
          exact .kept later there rfl rfl (if_neg same)
      · cases moved
    · cases moved
  | answer other status | respond other status =>
    obtain ⟨exchange, found, rfl⟩ := respondWith_cases moved
    exact set_becomes found there rfl rfl rfl
  | dispatch other =>
    simp only [AppState.step, AppState.dispatch] at moved
    repeat' split at moved
    all_goals first | cases moved | skip
    obtain ⟨process, called, rfl⟩ := Option.map_eq_some_iff.mp moved
    exact .kept later there rfl rfl rfl
  | error | failed | resume =>
    obtain ⟨process, reacted, rfl⟩ := Option.map_eq_some_iff.mp moved
    exact .kept later there rfl rfl rfl
  | finish other =>
    obtain ⟨exchange, url, found, _, _, rfl⟩ := finish_cases moved
    refine set_becomes found there ?_ ?_ rfl <;> (unfold onFinish; split <;> rfl)
  | close other =>
    simp only [AppState.step, AppState.close] at moved
    split at moved
    · rename_i exchange found
      split at moved
      · cases moved
      · cases moved
        exact set_becomes found there rfl rfl rfl
    · cases moved

theorem step_keeps (moved : AppState.step express env routes state event = some after)
    (absent : after.exchanges[req]? = none) : state.exchanges[req]? = none := by
  have longer : state.exchanges.length ≤ after.exchanges.length := by
    cases step_moves moved <;> simp [AppState.request]
  exact List.getElem?_eq_none (Nat.le_trans longer (List.getElem?_eq_none_iff.mp absent))

theorem travels_onTheWay (laws : ExpressLaws express) (travels : Travels express env routes req way state) :
    (state.exchanges[req]? = none → way = []) ∧ ∀ exchange, state.exchanges[req]? = some exchange →
      OnTheWay express (express.pathname exchange.req.originalUrl) exchange.position way := by
  induction travels with
  | fresh => exact ⟨fun _ => rfl, fun exchange found => by simp [AppState.fresh] at found⟩
  | @step way state after event earlier moved ih =>
    obtain ⟨unseen, seen⟩ := ih
    refine ⟨fun absent => ?_, fun later there => ?_⟩
    · have before := step_keeps moved absent
      have stays : crossing state req event = [] := by
        cases event with
        | next other failed => simp [crossing, before]
        | _ => rfl
      rw [stays, unseen before]
      rfl
    · cases step_becomes moved there with
      | kept exchange found sameReq samePosition stays =>
        rw [stays, List.append_nil, sameReq, samePosition]
        exact seen exchange found
      | arrived absent stays position =>
        obtain ⟨place, layer, before, stands, fits, same⟩ :=
          @next_stands express later.req.originalUrl false laws 0 12 ⟨[], .notFound⟩ (by decide) rfl rfl
        rw [stays, unseen absent, position]
        have start : wayTo express (express.pathname later.req.originalUrl) 0 = [] := rfl
        rw [start] at same
        rw [List.append_nil, ← same]
        exact .clean place layer before stands fits (next_among laws _ false _).2.1
      | passed exchange url failed found known idle passes crosses become =>
        have serving := (appMachine_serving laws earlier.reachable).1
        have routed := serving.routed req exchange found
        have here := routed.idle (awaitsUpstream_eq_false.mp idle)
        rw [known, Option.some_inj] at here
        obtain ⟨sameReq, position⟩ := passOn_position express url failed exchange
        rw [become, sameReq, position, crosses]
        refine (seen exchange found).passed laws ?_ passes
        rw [here]
        exact routed.restored laws

theorem middleware_places (laws : ExpressLaws express) (travels : Travels express env routes req way state)
    (found : state.exchanges[req]? = some exchange) (invoked : exchange.position.invoked = true) :
    ∃ place layer, place ≤ 12 ∧ createApp[place]? = some layer ∧
      isFor express (express.pathname exchange.req.originalUrl) layer = true ∧
      (exchange.position.handler = some layer.handler ∧
          way = wayTo express (express.pathname exchange.req.originalUrl) place ∨
        exchange.position.handler = some .errorHandler ∧
          way = wayTo express (express.pathname exchange.req.originalUrl) place ++ [(layer.handler, true)]) := by
  cases (travels_onTheWay laws travels).2 exchange found with
  | clean place layer low stands fits error => exact ⟨place, layer, low, stands.there, fits, .inl ⟨stands.handler, rfl⟩⟩
  | failing place layer low there fits error later next before stands =>
    refine ⟨place, layer, low, there, fits, .inr ⟨?_, rfl⟩⟩
    simpa [Position.invoked, error] using invoked
  | gone way handler layers error => simp [Position.invoked, handler, error] at invoked

theorem Travels.of_follow {events : List AppEvent} {first last : AppState}
    (ran : Refinement.follow (AppState.step express env routes) events first = some last)
    (travels : Travels express env routes req way first) : ∃ further,
      Travels express env routes req further last := by
  induction events generalizing first way with
  | nil =>
    cases ran
    exact ⟨way, travels⟩
  | cons event events ih =>
    obtain ⟨middle, moved, rest⟩ := Option.bind_eq_some_iff.mp ran
    exact ih rest (travels.step moved)

end Runs

/-! The order of `createApp`, and what the routers find done -/

/-- What is documented of the paths of layers: a path for a mount begins with it, whatever the case of its letters. -/
structure BeginsWithMount (express : Express) : Prop where
  begins : ∀ mount path, express.matchLayer mount path = true →
    (path.toList.take mount.length).map Char.toLower = mount.toList.map Char.toLower

/-- What `createApp` tells apart in the path of a request. -/
inductive PathKind where
  | auth
  | oauth
  | proxied
  | other
deriving DecidableEq, Repr

def pathKind (express : Express) (path : String) : PathKind :=
  if express.matchLayer "/v1/auth" path then .auth
  else if express.matchLayer "/v1/oauth" path then .oauth
  else if express.matchLayer "/api" path then .proxied
  else .other

/-- The handlers that a request is given to, in this order, for as long as each of them passes it on. -/
def pipeline : PathKind → List Middleware
  | .auth => [.helmet, .cors, .requestId, .httpLogger, .json, .urlencoded, .cookieParser, .systemRouter, .rateLimiter,
      .authRouter, .notFound]
  | .oauth => [.helmet, .cors, .requestId, .httpLogger, .json, .urlencoded, .cookieParser, .systemRouter, .rateLimiter,
      .oauthRouter, .notFound]
  | .proxied => [.helmet, .cors, .requestId, .httpLogger, .cookieParser, .systemRouter, .proxyRouter, .notFound]
  | .other => [.helmet, .cors, .requestId, .httpLogger, .cookieParser, .systemRouter, .notFound]

def behind : Middleware → List Middleware
  | .authRouter | .oauthRouter =>
    [.helmet, .cors, .requestId, .httpLogger, .json, .urlencoded, .cookieParser, .systemRouter, .rateLimiter]
  | .proxyRouter => [.helmet, .cors, .requestId, .httpLogger, .cookieParser, .systemRouter]
  | _ => []

section Routers

variable {express : Express} {path mount other : String}

theorem isFor_iff {layer : Layer} :
    isFor express path layer = true ↔
      layer.mounts = [] ∨ ∃ mount ∈ layer.mounts, express.matchLayer mount path = true := by
  unfold isFor Layer.matched
  split
  · simp [*]
  · rw [Option.isSome_map, List.find?_isSome]
    simp [*]

theorem mounts_agree (begins : BeginsWithMount express) (first : express.matchLayer mount path = true)
    (second : express.matchLayer other path = true) (shorter : mount.length ≤ other.length) :
    (other.toList.map Char.toLower).take mount.length = mount.toList.map Char.toLower := by
  rw [← begins.begins other path second, ← begins.begins mount path first, ← List.map_take, List.take_take,
    Nat.min_eq_left shorter]

theorem proxied_alone (begins : BeginsWithMount express) (proxied : express.matchLayer "/api" path = true) :
    express.matchLayer "/v1/auth" path = false ∧ express.matchLayer "/v1/oauth" path = false := by
  constructor <;> rw [Bool.eq_false_iff] <;> intro also <;>
    exact absurd (mounts_agree begins proxied also (by decide)) (by decide)

theorem oauth_alone (begins : BeginsWithMount express) (oauth : express.matchLayer "/v1/oauth" path = true) :
    express.matchLayer "/v1/auth" path = false := by
  rw [Bool.eq_false_iff]
  intro also
  exact absurd (mounts_agree begins also oauth (by decide)) (by decide)

theorem createApp_pipeline (begins : BeginsWithMount express) (path : String) :
    (createApp.filter (isFor express path)).map (·.handler) =
      pipeline (pathKind express path) ++ [.errorHandler] := by
  by_cases auth : express.matchLayer "/v1/auth" path = true
  · have apart : express.matchLayer "/v1/oauth" path = false ∧ express.matchLayer "/api" path = false := by
      constructor <;> rw [Bool.eq_false_iff] <;> intro also
      · rw [oauth_alone begins also] at auth
        cases auth
      · rw [(proxied_alone begins also).1] at auth
        cases auth
    simp [createApp, isFor, Layer.matched, pathKind, pipeline, auth, apart]
  rw [Bool.not_eq_true] at auth
  by_cases oauth : express.matchLayer "/v1/oauth" path = true
  · have apart : express.matchLayer "/api" path = false := by
      rw [Bool.eq_false_iff]
      intro also
      rw [(proxied_alone begins also).2] at oauth
      cases oauth
    simp [createApp, isFor, Layer.matched, pathKind, pipeline, auth, oauth, apart]
  rw [Bool.not_eq_true] at oauth
  cases proxied : express.matchLayer "/api" path <;>
    simp [createApp, isFor, Layer.matched, pathKind, pipeline, auth, oauth, proxied]

theorem wayTo_pipeline (begins : BeginsWithMount express) {place : Nat} {layer : Layer} (low : place ≤ 12)
    (there : createApp[place]? = some layer) (fits : isFor express path layer = true) :
    ∃ stage, (pipeline (pathKind express path))[stage]? = some layer.handler ∧
      wayTo express path place = ((pipeline (pathKind express path)).take stage).map (·, false) := by
  obtain ⟨inside, rfl⟩ := List.getElem?_eq_some_iff.mp there
  have split : pipeline (pathKind express path) ++ [.errorHandler] =
      ((createApp.take place).filter (isFor express path)).map (·.handler) ++ createApp[place].handler ::
        ((createApp.drop (place + 1)).filter (isFor express path)).map (·.handler) := by
    rw [← createApp_pipeline begins path]
    conv_lhs => rw [← List.take_append_drop place createApp, List.drop_eq_getElem_cons inside]
    rw [List.filter_append, List.filter_cons_of_pos fits, List.map_append, List.map_cons]
  obtain ⟨next, passed⟩ := Lists.concat_split split (createApp_before_last place low _ there).1
  refine ⟨_, next, ?_⟩
  rw [passed, List.map_map]
  rfl

/-- Whatever requests are in flight: when a handler is given a request, it is the next one of the pipeline for the
    request's path, and the request has been passed on by those before it, by each once and without an error; or it is
    the error handler, and the one of the pipeline that was next has passed the request on with an error. -/
theorem middleware_order {env : ProxyEnv} {routes : List RouteConfig} {state : AppState} {req : Nat}
    {exchange : Exchange} {way : List (Middleware × Bool)} (laws : ExpressLaws express)
    (begins : BeginsWithMount express)
    (travels : Travels express env routes req way state) (found : state.exchanges[req]? = some exchange)
    (invoked : exchange.position.invoked = true) :
    ∃ stage handler,
      (pipeline (pathKind express (express.pathname exchange.req.originalUrl)))[stage]? = some handler ∧
      (exchange.position.handler = some handler ∧
          way = ((pipeline (pathKind express (express.pathname exchange.req.originalUrl))).take stage).map
            (·, false) ∨
        exchange.position.handler = some .errorHandler ∧
          way = ((pipeline (pathKind express (express.pathname exchange.req.originalUrl))).take stage).map
            (·, false) ++ [(handler, true)]) := by
  obtain ⟨place, layer, low, there, fits, reached⟩ := middleware_places laws travels found invoked
  obtain ⟨stage, next, passed⟩ := wayTo_pipeline begins low there fits
  rw [passed] at reached
  exact ⟨stage, layer.handler, next, reached⟩

theorem wayTo_router (begins : BeginsWithMount express) {place : Nat} {layer : Layer}
    (there : createApp[place]? = some layer) (fits : isFor express path layer = true)
    (router : layer.handler = .authRouter ∨ layer.handler = .oauthRouter ∨ layer.handler = .proxyRouter) :
    wayTo express path place = (behind layer.handler).map (·, false) := by
  have auth : createApp[9]? = some ⟨["/v1/auth"], .authRouter⟩ := rfl
  have oauth : createApp[10]? = some ⟨["/v1/oauth"], .oauthRouter⟩ := rfl
  have proxy : createApp[11]? = some ⟨["/api"], .proxyRouter⟩ := rfl
  rcases router with own | own | own
  · obtain rfl := createApp_once there auth own
    cases there.symm.trans auth
    have matched : express.matchLayer "/v1/auth" path = true := by simpa [isFor_iff] using fits
    simp [wayTo, createApp, isFor, Layer.matched, matched, behind]
  · obtain rfl := createApp_once there oauth own
    cases there.symm.trans oauth
    have matched : express.matchLayer "/v1/oauth" path = true := by simpa [isFor_iff] using fits
    simp [wayTo, createApp, isFor, Layer.matched, matched, oauth_alone begins matched, behind]
  · obtain rfl := createApp_once there proxy own
    cases there.symm.trans proxy
    have matched : express.matchLayer "/api" path = true := by simpa [isFor_iff] using fits
    obtain ⟨notAuth, notOauth⟩ := proxied_alone begins matched
    simp [wayTo, createApp, isFor, Layer.matched, notAuth, notOauth, behind]

/-- The auth and OAuth routers are given parsed requests that the rate limiter has let through, and the proxy is given
    requests that no body parser and no rate limiter of the app has touched. -/
theorem routers_reached {env : ProxyEnv} {routes : List RouteConfig} {state : AppState} {req : Nat}
    {exchange : Exchange} {way : List (Middleware × Bool)} {handler : Middleware} (laws : ExpressLaws express)
    (begins : BeginsWithMount express) (travels : Travels express env routes req way state)
    (found : state.exchanges[req]? = some exchange) (invoked : exchange.position.invoked = true)
    (reached : exchange.position.handler = some handler)
    (router : handler = .authRouter ∨ handler = .oauthRouter ∨ handler = .proxyRouter) :
    way = (behind handler).map (·, false) := by
  obtain ⟨place, layer, _, there, fits, ⟨own, exact_way⟩ | ⟨other, _⟩⟩ := middleware_places laws travels found invoked
  · rw [reached, Option.some_inj] at own
    subst own
    rw [exact_way]
    exact wayTo_router begins there fits router
  · rw [reached, Option.some_inj] at other
    subst other
    simp at router

theorem sampleExpress_begins : BeginsWithMount sampleExpress where
  begins := by
    intro mount path fits
    simp only [sampleExpress, sampleMounting, Bool.and_eq_true] at fits
    obtain ⟨rest, split⟩ := List.isPrefixOf_iff_prefix.mp fits.1
    rw [← split, ← String.length_toList, List.take_left]

theorem middleware_order_unknown : ∃ way state exchange,
    Travels sampleExpress sampleProxy [usersRoute] 0 way state ∧ state.exchanges[0]? = some exchange ∧
      exchange.position.handler = some .notFound ∧
      way = [(.helmet, false), (.cors, false), (.requestId, false), (.httpLogger, false), (.cookieParser, false),
        (.systemRouter, false)] := by
  have computed : (Refinement.follow sampleStep (passing "GET" "/nowhere" 6) .fresh).map (fun state =>
      (state.exchanges[0]?).map fun exchange => (exchange.position.handler, exchange.position.invoked,
        exchange.req.originalUrl)) = some (some (some .notFound, true, "/nowhere")) := by decide +kernel
  obtain ⟨state, ran, facts⟩ := Option.map_eq_some_iff.mp computed
  obtain ⟨exchange, found, facts⟩ := Option.map_eq_some_iff.mp facts
  obtain ⟨reached, facts⟩ := Prod.mk.inj facts
  obtain ⟨invoked, url⟩ := Prod.mk.inj facts
  obtain ⟨way, travels⟩ := Travels.of_follow ran .fresh
  have kind : pathKind sampleExpress (sampleExpress.pathname exchange.req.originalUrl) = .other := by
    rw [url]
    decide +kernel
  obtain ⟨stage, handler, next, own⟩ :=
    middleware_order sampleExpress_laws sampleExpress_begins travels found invoked
  rw [kind] at next own
  rw [reached] at own
  obtain ⟨same, rfl⟩ | ⟨other, _⟩ := own
  · cases same
    have last : ∀ stage < 7, (pipeline .other)[stage]? = some .notFound → stage = 6 := by decide
    obtain rfl := last stage (List.getElem?_eq_some_iff.mp next).1 next
    exact ⟨_, state, exchange, travels, found, reached, rfl⟩
  · cases other

theorem routers_reached_proxied : ∃ way state exchange,
    Travels sampleExpress sampleProxy [usersRoute] 0 way state ∧ state.exchanges[0]? = some exchange ∧
      exchange.position.handler = some .proxyRouter ∧
      way = [(.helmet, false), (.cors, false), (.requestId, false), (.httpLogger, false), (.cookieParser, false),
        (.systemRouter, false)] := by
  have computed : (Refinement.follow sampleStep (passing "POST" "/api/users/1?x=1" 6) .fresh).map (fun state =>
      (state.exchanges[0]?).map fun exchange => (exchange.position.handler, exchange.position.invoked)) =
      some (some (some .proxyRouter, true)) := by decide +kernel
  obtain ⟨state, ran, facts⟩ := Option.map_eq_some_iff.mp computed
  obtain ⟨exchange, found, facts⟩ := Option.map_eq_some_iff.mp facts
  obtain ⟨handler, invoked⟩ := Prod.mk.inj facts
  obtain ⟨way, travels⟩ := Travels.of_follow ran .fresh
  exact ⟨way, state, exchange, travels, found, handler,
    routers_reached sampleExpress_laws sampleExpress_begins travels found invoked handler (.inr (.inr rfl))⟩

end Routers

end GatewayProof
