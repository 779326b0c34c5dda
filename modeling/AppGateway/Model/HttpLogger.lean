import AppGateway.Model.ProxyDispatch

namespace GatewayModel

/-- Express's functions of a URL: `req.path` for a `req.url`; whether a layer mounted at a path matches a path;
    `req.url` inside such a layer; and `req.url` behind it, from the URL it was entered with and the one its handler has
    left. -/
structure Mounting where
  pathname : String → String
  matchLayer : String → String → Bool
  trimPrefix : String → String → String
  restore : String → String → String → String

inductive Middleware where
  | helmet
  | cors
  | requestId
  | httpLogger
  | json
  | urlencoded
  | cookieParser
  | systemRouter
  | rateLimiter
  | authRouter
  | oauthRouter
  | proxyRouter
  | notFound
  | errorHandler
deriving DecidableEq, Repr

/-- One `app.use`. Without a path it has no mounts and matches every path. -/
structure Layer where
  mounts : List String
  handler : Middleware
deriving DecidableEq, Repr

def createApp : List Layer :=
  [⟨[], .helmet⟩,
   ⟨[], .cors⟩,
   ⟨[], .requestId⟩,
   ⟨[], .httpLogger⟩,
   ⟨["/v1/auth", "/v1/oauth"], .json⟩,
   ⟨["/v1/auth", "/v1/oauth"], .urlencoded⟩,
   ⟨[], .cookieParser⟩,
   ⟨[], .systemRouter⟩,
   ⟨["/v1/auth", "/v1/oauth"], .rateLimiter⟩,
   ⟨["/v1/auth"], .authRouter⟩,
   ⟨["/v1/oauth"], .oauthRouter⟩,
   ⟨["/api"], .proxyRouter⟩,
   ⟨[], .notFound⟩,
   ⟨[], .errorHandler⟩]

/-- Where a request is in the app: the layers behind the current one, its handler (none behind the last layer, where
    Express answers itself), the mount it has matched at, `req.url` outside of it, and whether there is an error. -/
structure Position where
  layers : List Layer
  handler : Option Middleware
  mount : Option String
  entered : String
  error : Bool
deriving DecidableEq, Repr

def Layer.matched (mounting : Mounting) (path : String) (layer : Layer) : Option (Option String) :=
  if layer.mounts = [] then some none else (layer.mounts.find? fun mount => mounting.matchLayer mount path).map some

/-- On to the first layer that matches. -/
def enter (mounting : Mounting) (url : String) (error : Bool) : List Layer → Position
  | [] => { layers := [], handler := none, mount := none, entered := url, error }
  | layer :: layers =>
    match layer.matched mounting (mounting.pathname url) with
    | some mount => { layers, handler := some layer.handler, mount, entered := url, error }
    | none => enter mounting url error layers

/-- Express, and the middleware of packages: where a request comes with `next`, from its URL, an error or none, and the
    layers that are left; whether a package's middleware may call `next`, with an error or without one; and whether it
    may end the response. -/
structure Express extends Mounting where
  next : String → Bool → List Layer → Position
  passes : Middleware → Bool → Bool
  answers : Middleware → Bool

variable (express : Express)

/-- Whether it may call `next`, with an error or without one. What a handler throws is such an error. -/
def Middleware.passes (handler : Middleware) (failed : Bool) : Bool :=
  match handler with
  | .helmet | .cors | .json | .urlencoded | .cookieParser => express.passes handler failed
  | .requestId | .httpLogger => !failed
  | .systemRouter | .rateLimiter | .authRouter | .oauthRouter => true
  | .proxyRouter | .notFound | .errorHandler => failed

def Middleware.answers (handler : Middleware) : Bool :=
  match handler with
  | .helmet | .cors | .json | .urlencoded | .cookieParser => express.answers handler
  | .systemRouter | .authRouter | .oauthRouter | .notFound | .errorHandler => true
  | .requestId | .httpLogger | .rateLimiter | .proxyRouter => false

namespace Position

def url (position : Position) : String :=
  match position.mount with
  | none => position.entered
  | some mount => express.trimPrefix mount position.entered

def restored (url : String) (position : Position) : String :=
  match position.mount with
  | none => url
  | some mount => express.restore mount position.entered url

def invoked (position : Position) : Bool := decide (position.handler = some .errorHandler) == position.error

def mayPass (failed : Bool) (position : Position) : Bool :=
  match position.handler with
  | none => false
  | some handler => if position.invoked then handler.passes express failed else failed = position.error

def mayAnswer (position : Position) : Bool :=
  match position.handler with
  | none => true
  | some handler => position.invoked && handler.answers express

end Position

structure AccessLogLine where
  requestId : String
  method : String
  path : String
  status : Nat
deriving DecidableEq, Repr

/-- A request as it has arrived, the way it has gone, its response, whether `httpLogger` listens to that, and what it
    has logged. `req.url` is with those of the other requests. -/
structure Exchange where
  req : ProxyRequest
  method : String
  position : Position
  logging : Bool
  statusCode : Nat
  ended : Bool
  finished : Bool
  closed : Bool
  logged : List AccessLogLine
deriving DecidableEq, Repr

def EXCLUDED_PATHS : List String := ["/health", "/ready"]

/-- `httpLogger` before it calls `next`. -/
def httpLogger (path : String) (exchange : Exchange) : Exchange :=
  if path ∈ EXCLUDED_PATHS then exchange else { exchange with logging := true }

def onFinish (path : String) (exchange : Exchange) : Exchange :=
  if exchange.logging then
    { exchange with
      logged := exchange.logged ++
        [{ requestId := exchange.req.requestId, method := exchange.method, path, status := exchange.statusCode }] }
  else exchange

def Exchange.passOn (url : String) (failed : Bool) (exchange : Exchange) : Exchange :=
  let position := express.next (exchange.position.restored express url) failed exchange.position.layers
  if exchange.position.handler = some .httpLogger && exchange.position.invoked then
    { httpLogger (express.pathname url) exchange with position }
  else { exchange with position }

/-- The app in one process: the calls of `dispatchToUpstream` with `req.url` of each request, and the requests. -/
structure AppState where
  process : DispatchState
  exchanges : List Exchange
deriving DecidableEq, Repr

/-- What happens to the app. `answer` is by the handler in control and `respond` by the upstream; `error`, `failed` and
    `resume` are the events of the proxy middleware and of the `await` in `dispatchToUpstream`. -/
inductive AppEvent where
  | request (req : ProxyRequest) (method : String)
  | next (req : Nat) (failed : Bool)
  | answer (req status : Nat)
  | dispatch (req : Nat)
  | respond (req status : Nat)
  | error (middleware : RouteConfig) (res : Option Nat) (code message : String)
  | failed (call : Nat) (err : Option String)
  | resume (call : Nat)
  | finish (req : Nat)
  | close (req : Nat)
deriving DecidableEq, Repr

/-- Whether the router's handler is at its `await` of `dispatchToUpstream`. -/
def awaitsUpstream (process : DispatchState) (req : Nat) : Bool :=
  process.calls.any fun call => call.res = req && call.returned.isNone

namespace AppState

variable (env : ProxyEnv) (routes : List RouteConfig)

def request (req : ProxyRequest) (method : String) (state : AppState) : AppState :=
  let position := express.next req.originalUrl false createApp
  { process := { state.process with urls := state.process.urls ++ [position.url express] }
    exchanges := state.exchanges ++
      [{ req, method, position, logging := false, statusCode := 200, ended := false, finished := false, closed := false
         logged := [] }] }

def next (req : Nat) (failed : Bool) (state : AppState) : Option AppState :=
  match state.exchanges[req]?, state.process.urls[req]? with
  | some exchange, some url =>
    if exchange.position.mayPass express failed && !awaitsUpstream state.process req then
      let exchange := exchange.passOn express url failed
      some
        { process := { state.process with urls := state.process.urls.set req (exchange.position.url express) }
          exchanges := state.exchanges.set req exchange }
    else none
  | _, _ => none

def respondWith (status req : Nat) (allowed : Exchange → Bool) (state : AppState) : Option AppState :=
  match state.exchanges[req]? with
  | some exchange =>
    if allowed exchange && !exchange.ended then
      some { state with exchanges := state.exchanges.set req { exchange with statusCode := status, ended := true } }
    else none
  | none => none

def dispatch (req : Nat) (state : AppState) : Option AppState :=
  match state.exchanges[req]? with
  | some exchange =>
    if exchange.position.handler = some .proxyRouter && exchange.position.invoked then
      match resolveRoute env (resourcePath exchange.req) routes with
      | .ok (some resolved) =>
        (state.process.step (.dispatch req resolved.route resolved.forwardPath)).map fun process =>
        { state with process }
      | _ => none
    else none
  | none => none

/-- The response is out: the listeners of its `finish` run, that of `httpLogger` first. -/
def finish (req : Nat) (state : AppState) : Option AppState :=
  match state.exchanges[req]?, state.process.urls[req]? with
  | some exchange, some url =>
    if exchange.ended && !exchange.finished && !exchange.closed then
      some
        { process := state.process.emit req .finish
          exchanges := state.exchanges.set req { onFinish (express.pathname url) exchange with finished := true } }
    else none
  | _, _ => none

def close (req : Nat) (state : AppState) : Option AppState :=
  match state.exchanges[req]? with
  | some exchange =>
    if exchange.closed then none
    else
      some
        { process := state.process.emit req .close
          exchanges := state.exchanges.set req { exchange with closed := true } }
  | none => none

def step (state : AppState) : AppEvent → Option AppState
  | .request req method => some (request express req method state)
  | .next req failed => next express req failed state
  | .answer req status => respondWith status req (·.position.mayAnswer express) state
  | .dispatch req => dispatch env routes req state
  | .respond req status => respondWith status req (fun _ => awaitsUpstream state.process req) state
  | .error middleware res code message =>
    (state.process.step (.error middleware res code message)).map fun process => { state with process }
  | .failed call err => (state.process.step (.next call err)).map fun process => { state with process }
  | .resume call => (state.process.step (.resume call)).map fun process => { state with process }
  | .finish req => finish express req state
  | .close req => close req state

def fresh : AppState := { process := .fresh, exchanges := [] }

end AppState
end GatewayModel
