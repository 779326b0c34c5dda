import AppGateway.Model.ProxyService

namespace GatewayModel

inductive ResponseEvent where
  | finish
  | close
deriving DecidableEq, Repr

/-- One call of `dispatchToUpstream`: its arguments, `originalUrl`, the flag that its callbacks share, what they have
    called `resolve` and `reject` with, oldest first, and how the call has ended. A request and its response have
    one name. -/
structure DispatchCall where
  route : RouteConfig
  res : Nat
  originalUrl : String
  settled : Bool
  settlements : List (Except Thrown Unit)
  returned : Option (Except Thrown Unit)
deriving DecidableEq, Repr

structure OnceListener where
  res : Nat
  event : ResponseEvent
  call : Nat
deriving DecidableEq, Repr

/-- The calls of `dispatchToUpstream` in one process and what they share: `req.url` of each request, the two maps of
    the module, and the listeners of the responses. -/
structure DispatchState where
  urls : List String
  proxyMiddlewareCache : List RouteConfig
  pendingUpstreamErrors : List (Nat × Nat)
  listeners : List OnceListener
  calls : List DispatchCall
deriving DecidableEq, Repr

/-- What happens to the process. An error without a response is one of an upgraded socket; `next` is called with
    nothing, or with an error of this message; `resume` goes on behind the `await` once its promise is settled. -/
inductive DispatchEvent where
  | request (url : String)
  | dispatch (req : Nat) (route : RouteConfig) (forwardPath : String)
  | error (middleware : RouteConfig) (res : Option Nat) (code message : String)
  | emit (res : Nat) (event : ResponseEvent)
  | next (call : Nat) (err : Option String)
  | resume (call : Nat)
deriving DecidableEq, Repr

def DispatchCall.settle (call : DispatchCall) (outcome : Except Thrown Unit) : DispatchCall :=
  { call with settled := true, settlements := call.settlements ++ [outcome] }

namespace DispatchState

/-- The body of every callback: `if (settled) return; settled = true; pendingUpstreamErrors.delete(res)`, and
    then `resolve` or `reject`. -/
def settle (id : Nat) (outcome : RouteConfig → Except Thrown Unit) (state : DispatchState) : DispatchState :=
  match state.calls[id]? with
  | none => state
  | some call =>
    if call.settled then state
    else
      { state with
        pendingUpstreamErrors := state.pendingUpstreamErrors.filter fun entry => entry.1 ≠ call.res
        calls := state.calls.set id (call.settle (outcome call.route)) }

def getProxyMiddleware (route : RouteConfig) (state : DispatchState) : DispatchState :=
  if route ∈ state.proxyMiddlewareCache then state
  else { state with proxyMiddlewareCache := route :: state.proxyMiddlewareCache }

/-- `dispatchToUpstream` up to its `await`. The router calls it once for a request. -/
def dispatchToUpstream (route : RouteConfig) (forwardPath : String) (req : Nat) (state : DispatchState) :
    Option DispatchState :=
  if state.calls.any (·.res = req) then none
  else
    (state.urls[req]?).map fun originalUrl =>
      let call := state.calls.length
      let state := getProxyMiddleware route { state with urls := state.urls.set req forwardPath }
      { state with
        pendingUpstreamErrors := (req, call) :: state.pendingUpstreamErrors.filter fun entry => entry.1 ≠ req
        listeners := state.listeners ++ [⟨req, .finish, call⟩, ⟨req, .close, call⟩]
        calls := state.calls ++
          [{ route, res := req, originalUrl, settled := false, settlements := [], returned := none }] }

def onError (res : Option Nat) (code message : String) (state : DispatchState) : DispatchState :=
  match res with
  | none => state
  | some res =>
    match state.pendingUpstreamErrors.find? fun entry => entry.1 = res with
    | none => state
    | some entry => settle entry.2 (fun route => .error (.app (mapUpstreamError route code message))) state

def emit (res : Nat) (event : ResponseEvent) (state : DispatchState) : DispatchState :=
  let due := state.listeners.filter fun listener => listener.res = res ∧ listener.event = event
  let kept := state.listeners.filter fun listener => ¬ (listener.res = res ∧ listener.event = event)
  due.foldl (fun state listener => settle listener.call (fun _ => .ok ()) state) { state with listeners := kept }

def onNext (call : Nat) (err : Option String) (state : DispatchState) : DispatchState :=
  match err with
  | none => state
  | some message => settle call (fun _ => .error (.error message)) state

/-- Behind the `await`: `finally`, and the end of the call. -/
def resume (id : Nat) (state : DispatchState) : Option DispatchState :=
  match state.calls[id]? with
  | none => none
  | some call =>
    match call.settlements.head?, call.returned with
    | some outcome, none =>
      some { state with
        urls := state.urls.set call.res call.originalUrl
        calls := state.calls.set id { call with returned := some outcome } }
    | _, _ => none

def step (state : DispatchState) : DispatchEvent → Option DispatchState
  | .request url => some { state with urls := state.urls ++ [url] }
  | .dispatch req route forwardPath => dispatchToUpstream route forwardPath req state
  | .error middleware res code message =>
    if middleware ∈ state.proxyMiddlewareCache then some (onError res code message state) else none
  | .emit res event => some (emit res event state)
  | .next call err => if call < state.calls.length then some (onNext call err state) else none
  | .resume call => resume call state

def fresh : DispatchState :=
  { urls := [], proxyMiddlewareCache := [], pendingUpstreamErrors := [], listeners := [], calls := [] }

end DispatchState
end GatewayModel
