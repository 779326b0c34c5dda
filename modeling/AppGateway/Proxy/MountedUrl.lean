import AppGateway.Model.HttpLogger
import AppGateway.Proxy.Settlement

namespace GatewayProof

open GatewayModel
open GatewayModel.DispatchState (step resume)

/-- What is documented of Express 5 and of the packages: inside a layer the path is without the mount point, perhaps
    with a slash put in front; behind the layer it is what it was; `next` goes on to the first layer that matches; and
    these packages pass no error on. -/
structure ExpressLaws (express : Express) : Prop where
  trimmed : ∀ mount url, express.matchLayer mount (express.pathname url) = true → ∃ removed rest : String,
    express.pathname url = removed ++ rest ∧ removed.length = mount.length ∧
      (express.pathname (express.trimPrefix mount url) = rest ∨
        express.pathname (express.trimPrefix mount url) = "/" ++ rest)
  restored : ∀ mount url, express.matchLayer mount (express.pathname url) = true →
    express.pathname (express.restore mount url (express.trimPrefix mount url)) = express.pathname url
  last : ∀ url error, express.next url error [] =
    { layers := [], handler := none, mount := none, entered := url, error }
  matched : ∀ url error layer layers mount, layer.matched express.toMounting (express.pathname url) = some mount →
    express.next url error (layer :: layers) =
      { layers, handler := some layer.handler, mount, entered := url, error }
  skipped : ∀ url error layer layers, layer.matched express.toMounting (express.pathname url) = none →
    express.next url error (layer :: layers) = express.next url error layers
  packages : ∀ handler ∈ [Middleware.helmet, .cors, .cookieParser], express.passes handler true = false

section Walk

variable {mounting : Mounting} {url : String} {error : Bool} {layer : Layer} {layers : List Layer}
  {mount : Option String}

theorem enter_found (found : layer.matched mounting (mounting.pathname url) = some mount) :
    enter mounting url error (layer :: layers) =
      { layers, handler := some layer.handler, mount, entered := url, error } := by
  simp only [enter, found]

theorem enter_passed (missed : layer.matched mounting (mounting.pathname url) = none) :
    enter mounting url error (layer :: layers) = enter mounting url error layers := by
  simp only [enter, missed]

end Walk

theorem ExpressLaws.next_eq {express : Express} (laws : ExpressLaws express) (url : String) (error : Bool)
    (layers : List Layer) : express.next url error layers = enter express.toMounting url error layers := by
  induction layers with
  | nil => exact laws.last url error
  | cons layer layers ih =>
    cases found : layer.matched express.toMounting (express.pathname url) with
    | none => rw [laws.skipped url error layer layers found, ih, enter_passed found]
    | some mount => rw [laws.matched url error layer layers mount found, enter_found found]

def Saved (process : DispatchState) (req : Nat) (url : String) : Prop :=
  ∃ (id : Nat) (call : DispatchCall), process.calls[id]? = some call ∧ call.res = req ∧ call.returned = none ∧
    call.originalUrl = url

theorem awaitsUpstream_iff {process : DispatchState} {req : Nat} :
    awaitsUpstream process req = true ↔ ∃ url, Saved process req url := by
  unfold awaitsUpstream
  rw [List.any_eq_true]
  constructor
  · rintro ⟨call, member, running⟩
    obtain ⟨id, found⟩ := List.mem_iff_getElem?.mp member
    simp only [Bool.and_eq_true, decide_eq_true_eq, Option.isNone_iff_eq_none] at running
    exact ⟨call.originalUrl, id, call, found, running.1, running.2, rfl⟩
  · rintro ⟨url, id, call, found, own, running, _⟩
    refine ⟨call, List.mem_of_getElem? found, ?_⟩
    simp [own, running]

theorem awaitsUpstream_eq_false {process : DispatchState} {req : Nat} :
    awaitsUpstream process req = false ↔ ∀ url, ¬ Saved process req url := by
  rw [← Bool.not_eq_true, awaitsUpstream_iff, not_exists]

/-! Steps of the process -/

section Steps

variable {process later : DispatchState} {event : DispatchEvent}

structure LeftAlone (process later : DispatchState) (req : Nat) : Prop where
  url : later.urls[req]? = process.urls[req]?
  saved : ∀ url, Saved later req url ↔ Saved process req url

theorem LeftAlone.refl (process : DispatchState) (req : Nat) : LeftAlone process process req :=
  ⟨rfl, fun _ => Iff.rfl⟩

theorem settle_length (id : Nat) (outcome : RouteConfig → Except Thrown Unit) (process : DispatchState) :
    (DispatchState.settle id outcome process).calls.length = process.calls.length := by
  rcases settle_cases id outcome process with ⟨same, _⟩ | ⟨call, _, _, same⟩
  · rw [same]
  · rw [same]
    exact List.length_set

theorem notified_length (due : List OnceListener) (process : DispatchState) :
    (due.foldl (fun state listener => DispatchState.settle listener.call (fun _ => .ok ()) state) process).calls.length
    =
      process.calls.length := by
  induction due generalizing process with
  | nil => rfl
  | cons listener due ih =>
    rw [List.foldl_cons, ih]
    exact settle_length _ _ _

theorem quiet_length (moved : step process event = some later) (quiet : isQuiet event = true) :
    later.calls.length = process.calls.length := by
  cases event with
  | request url => cases quiet
  | dispatch req route forwardPath => cases quiet
  | error middleware res code message =>
    simp only [step] at moved
    split at moved
    · cases moved
      unfold DispatchState.onError
      repeat' split
      · rfl
      · rfl
      · exact settle_length _ _ _
    · cases moved
  | emit res event =>
    cases moved
    exact notified_length _ _
  | next other err =>
    simp only [step] at moved
    split at moved
    · cases moved
      cases err with
      | none => rfl
      | some message => exact settle_length other _ process
    · cases moved
  | resume other => cases quiet

theorem react_quiet (quiet : isQuiet event = true) (id : Nat) (call : DispatchCall) :
    (DispatchCall.react id event call).res = call.res ∧ (DispatchCall.react id event call).returned = call.returned ∧
      (DispatchCall.react id event call).originalUrl = call.originalUrl := by
  have runs_on : event ≠ .resume id := by
    rintro rfl
    cases quiet
  unfold DispatchCall.react
  split
  · unfold DispatchCall.callback
    split <;> exact ⟨rfl, rfl, rfl⟩
  · rw [if_neg runs_on]
    exact ⟨rfl, rfl, rfl⟩

theorem quiet_leftAlone (wired : Wired process) (listening : Listening process)
    (moved : step process event = some later) (quiet : isQuiet event = true) (req : Nat) :
    LeftAlone process later req := by
  have forth : ∀ {id : Nat} {call}, process.calls[id]? = some call →
      later.calls[id]? = some (DispatchCall.react id event call) := fun found => step_call wired listening moved found
  refine ⟨by rw [quiet_urls moved quiet], fun url => ⟨?_, ?_⟩⟩
  · rintro ⟨id, reacted, there, own, running, saved⟩
    have inside : id < process.calls.length := by
      rw [← quiet_length moved quiet]
      exact (List.getElem?_eq_some_iff.mp there).1
    have found := List.getElem?_eq_getElem inside
    rw [forth found] at there
    cases there
    obtain ⟨same_res, same_end, same_url⟩ := react_quiet quiet id process.calls[id]
    exact ⟨id, _, found, same_res.symm.trans own, same_end.symm.trans running, same_url.symm.trans saved⟩
  · rintro ⟨id, call, found, own, running, saved⟩
    obtain ⟨same_res, same_end, same_url⟩ := react_quiet quiet id call
    exact ⟨id, _, forth found, same_res.trans own, same_end.trans running, same_url.trans saved⟩

theorem resume_saved {id : Nat} (wired : Wired process) (moved : resume id process = some later) : ∃ req url,
    Saved process req url ∧ (∀ url, ¬ Saved later req url) ∧ later.urls = process.urls.set req url ∧
      ∀ other, other ≠ req → LeftAlone process later other := by
  obtain ⟨call, outcome, found, _, running, rfl⟩ := resume_cases moved
  have inside : id < process.calls.length := (List.getElem?_eq_some_iff.mp found).1
  refine ⟨call.res, call.originalUrl, ⟨id, call, found, rfl, running, rfl⟩, ?_, rfl, ?_⟩
  · rintro url ⟨other, ended, there, own, runs_on, _⟩
    by_cases same : id = other
    · subst same
      rw [List.getElem?_set_self inside] at there
      cases there
      cases runs_on
    · rw [List.getElem?_set_ne same] at there
      exact same (wired.single _ _ _ _ found there own.symm)
  · intro other apart
    refine ⟨List.getElem?_set_ne (Ne.symm apart), fun url => ?_⟩
    constructor
    · rintro ⟨place, ended, there, own, runs_on, saved⟩
      by_cases same : id = place
      · subst same
        rw [List.getElem?_set_self inside] at there
        cases there
        cases runs_on
      · rw [List.getElem?_set_ne same] at there
        exact ⟨place, ended, there, own, runs_on, saved⟩
    · rintro ⟨place, earlier, there, own, runs_on, saved⟩
      have elsewhere : id ≠ place := by
        rintro rfl
        rw [found] at there
        cases there
        exact apart own.symm
      exact ⟨place, earlier, by rw [List.getElem?_set_ne elsewhere]; exact there, own, runs_on, saved⟩

theorem dispatch_saved {req : Nat} {route : RouteConfig} {forwardPath : String}
    (moved : DispatchState.dispatchToUpstream route forwardPath req process = some later) : ∃ url,
    process.urls[req]? = some url ∧ (∀ saved, ¬ Saved process req saved) ∧
      (∀ saved, Saved later req saved → saved = url) ∧ Saved later req url ∧
      later.urls = process.urls.set req forwardPath ∧ ∀ other, other ≠ req → LeftAlone process later other := by
  obtain ⟨url, known, unused, urls, _, _, calls⟩ := dispatch_cases moved
  refine ⟨url, known, ?_, ?_, ?_, urls, ?_⟩
  · rintro saved ⟨id, call, found, own, _⟩
    exact unused call (List.mem_of_getElem? found) own
  · rintro saved ⟨id, call, found, own, _, same⟩
    rw [calls, Lists.concat_eq_some] at found
    rcases found with before | ⟨_, rfl⟩
    · exact absurd own (unused call (List.mem_of_getElem? before))
    · exact same.symm
  · exact ⟨process.calls.length, newCall route req url, by rw [calls, List.getElem?_concat_length], rfl, rfl, rfl⟩
  · intro other apart
    refine ⟨by rw [urls, List.getElem?_set_ne (Ne.symm apart)], fun saved => ⟨?_, ?_⟩⟩
    · rintro ⟨id, call, found, own, running, same⟩
      rw [calls, Lists.concat_eq_some] at found
      rcases found with before | ⟨_, rfl⟩
      · exact ⟨id, call, before, own, running, same⟩
      · exact absurd own.symm apart
    · rintro ⟨id, call, found, rest⟩
      exact ⟨id, call, by rw [calls, Lists.concat_eq_some]; exact .inl found, rest⟩

end Steps

/-! A request in the app -/

theorem createApp_mounts : ∀ layer ∈ createApp, ∀ mount ∈ layer.mounts, 1 < mount.length := by decide

/-- Behind its last layer a request has the path that the client requested. In a layer its URL is that without the mount
    point, and while the proxy waits for the upstream it is the path that was forwarded. -/
structure Routed (express : Express) (env : ProxyEnv) (routes : List RouteConfig)
    (process : DispatchState) (req : Nat)
    (request : ProxyRequest) (position : Position) : Prop where
  path : express.pathname position.entered = express.pathname request.originalUrl
  layers : ∀ layer ∈ position.layers, layer ∈ createApp
  mount : ∀ mount, position.mount = some mount →
    1 < mount.length ∧ express.matchLayer mount (express.pathname position.entered) = true
  idle : (∀ url, ¬ Saved process req url) → process.urls[req]? = some (position.url express)
  awaiting : ∀ url, Saved process req url → url = position.url express ∧ ∃ resolved,
    resolveRoute env (resourcePath request) routes = .ok (some resolved) ∧
      process.urls[req]? = some resolved.forwardPath

section Positions

variable {express : Express} {env : ProxyEnv} {routes : List RouteConfig} {process later : DispatchState} {req : Nat}
  {request : ProxyRequest} {position : Position}

theorem matched_mount {path mount : String} {layer : Layer}
    (matched : layer.matched express.toMounting path = some (some mount)) :
    mount ∈ layer.mounts ∧ express.matchLayer mount path = true := by
  unfold Layer.matched at matched
  split at matched
  · cases matched
  · obtain ⟨first, found, same⟩ := Option.map_eq_some_iff.mp matched
    cases same
    have fits := List.find?_some found
    exact ⟨List.mem_of_find?_eq_some found, fits⟩

theorem next_among (laws : ExpressLaws express) (url : String) (error : Bool) (layers : List Layer) :
    let position := express.next url error layers
    position.entered = url ∧ position.error = error ∧ (∀ layer ∈ position.layers, layer ∈ layers) ∧
      ∀ mount, position.mount = some mount → ∃ layer ∈ layers, mount ∈ layer.mounts ∧
        express.matchLayer mount (express.pathname url) = true := by
  rw [laws.next_eq]
  induction layers with
  | nil =>
    refine ⟨rfl, rfl, fun layer member => member, fun mount absent => ?_⟩
    cases absent
  | cons layer layers ih =>
    cases matched : layer.matched express.toMounting (express.pathname url) with
    | none =>
      rw [enter_passed matched]
      obtain ⟨entered, error, among, mount⟩ := ih
      refine ⟨entered, error, fun other member => List.mem_cons_of_mem _ (among other member),
        fun found some_mount => ?_⟩
      obtain ⟨other, member, fits⟩ := mount found some_mount
      exact ⟨other, List.mem_cons_of_mem _ member, fits⟩
    | some mount =>
      rw [enter_found matched]
      refine ⟨rfl, rfl, fun other member => List.mem_cons_of_mem _ member, fun found some_mount => ?_⟩
      subst some_mount
      exact ⟨layer, List.mem_cons_self, matched_mount matched⟩

theorem Routed.leftAlone (routed : Routed express env routes process req request position)
    (alone : LeftAlone process later req) : Routed express env routes later req request position := by
  refine ⟨routed.path, routed.layers, routed.mount, fun none_saved => ?_, fun url saved => ?_⟩
  · rw [alone.url]
    exact routed.idle fun url saved => none_saved url ((alone.saved url).mpr saved)
  · rw [alone.url]
    exact routed.awaiting url ((alone.saved url).mp saved)

theorem Routed.entered (laws : ExpressLaws express) {url : String} {error : Bool} {layers : List Layer}
    (path : express.pathname url = express.pathname request.originalUrl) (known : ∀ layer ∈ layers, layer ∈ createApp)
    (idle : ∀ url, ¬ Saved process req url)
    (written : process.urls[req]? = some ((express.next url error layers).url express)) :
    Routed express env routes process req request (express.next url error layers) := by
  obtain ⟨same, _, among, mount⟩ := next_among laws url error layers
  refine ⟨by rw [same]; exact path, fun layer member => known layer (among layer member), ?_, fun _ => written, ?_⟩
  · intro found some_mount
    obtain ⟨layer, member, mounted, fits⟩ := mount found some_mount
    rw [same]
    exact ⟨createApp_mounts layer (known layer member) found mounted, fits⟩
  · intro url saved
    exact absurd saved (idle url)

theorem Routed.restored (laws : ExpressLaws express) (routed : Routed express env routes process req request position) :
    express.pathname (position.restored express (position.url express)) =
      express.pathname request.originalUrl := by
  rw [← routed.path]
  unfold Position.restored Position.url
  cases mounted : position.mount with
  | none => rfl
  | some mount => exact laws.restored mount position.entered (routed.mount mount mounted).2

theorem Routed.mounted (laws : ExpressLaws express) (routed : Routed express env routes process req request position)
    {mount : String} (mounted : position.mount = some mount) :
    express.pathname (position.url express) ≠ express.pathname request.originalUrl := by
  obtain ⟨long, fits⟩ := routed.mount mount mounted
  obtain ⟨removed, rest, split, same_length, inside⟩ := laws.trimmed mount position.entered fits
  intro same
  rw [← routed.path, Position.url, mounted] at same
  have lengths := congrArg String.length (same.trans split)
  rw [String.length_append] at lengths
  rcases inside with bare | slashed
  · rw [bare] at lengths
    omega
  · rw [slashed, String.length_append] at lengths
    have slash : "/".length = 1 := rfl
    omega

theorem Routed.dispatched {resolved : ResolvedRoute} (routed : Routed express env routes process req request position)
    (found : resolveRoute env (resourcePath request) routes = .ok (some resolved))
    (moved : DispatchState.dispatchToUpstream resolved.route resolved.forwardPath req process = some later) :
    Routed express env routes later req request position := by
  obtain ⟨url, known, idle, saved_only, saved, urls, _⟩ := dispatch_saved moved
  refine ⟨routed.path, routed.layers, routed.mount, fun none_saved => absurd saved (none_saved url), ?_⟩
  intro other other_saved
  have before := routed.idle idle
  rw [known, Option.some_inj] at before
  refine ⟨(saved_only other other_saved).trans before, resolved, found, ?_⟩
  rw [urls, List.getElem?_set_self (List.getElem?_eq_some_iff.mp known).1]

theorem Routed.resumed {url : String} (routed : Routed express env routes process req request position)
    (saved : Saved process req url) (none_left : ∀ url, ¬ Saved later req url)
    (urls : later.urls = process.urls.set req url) : Routed express env routes later req request position := by
  obtain ⟨same, resolved, _, known⟩ := routed.awaiting url saved
  refine ⟨routed.path, routed.layers, routed.mount, fun _ => ?_, fun other left => absurd left (none_left other)⟩
  rw [urls, List.getElem?_set_self (List.getElem?_eq_some_iff.mp known).1, same]

end Positions
end GatewayProof
