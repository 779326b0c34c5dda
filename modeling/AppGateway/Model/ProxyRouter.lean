import AppGateway.Model.ProxyService

namespace GatewayModel

open Async Proxy

variable (env : ProxyEnv)

/-- The characters `String.prototype.trim` removes. -/
def isTrimmed (c : Char) : Bool :=
  c.toNat ∈ [9, 10, 11, 12, 13, 32, 160, 5760, 8232, 8233, 8239, 8287, 12288, 65279] ||
    (8192 ≤ c.toNat && c.toNat ≤ 8202)

def trim (text : String) : String :=
  String.ofList (((text.toList.dropWhile isTrimmed).reverse.dropWhile isTrimmed).reverse)

def bearerOf (headers : Headers) : Option String :=
  match headers.get "authorization" with
  | some header =>
    if "Bearer ".toList.isPrefixOf header.toList then some (trim (String.ofList (header.toList.drop 7))) else none
  | none => none

/-- `validateAccessToken({ optional })`: what it hands to its callback, an error or nothing, and what it
    then leaves in `req.auth`. -/
def validateAccessToken (optional : Bool) (req : ProxyRequest) :
    Proxy (Except AppError (Option JwtAccessTokenClaims)) := do
  match bearerOf req.headers with
  | none =>
    if optional then return .ok none
    else return .error (unauthorizedError "Missing or malformed Authorization header")
  | some token =>
    let result ← service (verifyAccessToken env.toEnv (env.decodeJwt token))
    match result with
    | .error error => return .error error
    | .ok claims => return .ok (some claims)

def forward (route : RouteConfig) (forwardPath : String) (req : ProxyRequest) : Proxy Unit := do
  let req := { req with headers := stripSpoofedHeaders req.headers }
  let validated ← validateAccessToken env (!route.auth_required) req
  match validated with
  | .error authError =>
    auditDenial req none authError
    next (.app authError)
  | .ok auth =>
    let denial ← enforceAuthorization env route auth req
    match denial with
    | some denial => next (.app denial)
    | none =>
      let req := match auth with
        | some claims => { req with headers := req.headers.assign (buildIdentityHeaders claims req.requestId) }
        | none => req
      tryCatch
        (do
          dispatchToUpstream route forwardPath req
          auditAllowedIfFlagged route req auth)
        next

def handle (routes : List RouteConfig) (req : ProxyRequest) : Proxy Unit :=
  match resolveRoute env (resourcePath req) routes with
  | .error thrown => throw thrown
  | .ok none => next (.app (routeNotFoundError (resourcePath req)))
  | .ok (some resolved) => forward env resolved.route resolved.forwardPath req

/-- `proxyRouter` in Express 5, which hands the error of a rejected handler to `next`. -/
def proxyRouter (routes : List RouteConfig) (req : ProxyRequest) : Proxy Unit :=
  tryCatch (handle env routes req) next

end GatewayModel
