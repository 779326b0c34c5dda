import AppGateway.Async.Replay
import AppGateway.Model.Platform
import AppGateway.Model.TokenService
import Mathlib.Algebra.GroupWithZero.Nat

namespace GatewayModel

open Async

structure RouteConfig where
  path : String
  upstream : String
  auth_required : Bool
  required_scope : Option String
  allowed_roles : Option (List String)
  rate_limit_override : Option Nat
  strip_prefix : Bool
  timeout_ms : Nat
  audit_allowed_requests : Bool
deriving DecidableEq, Repr

abbrev Headers := List (String × String)

def Headers.get (headers : Headers) (name : String) : Option String :=
  (headers.find? fun header => header.1 = name).map (·.2)

def Headers.assign (headers extra : Headers) : Headers :=
  (headers.filter fun header => header.1 ∉ extra.map (·.1)) ++ extra

structure ProxyRequest where
  originalUrl : String
  url : String
  headers : Headers
  ip : Option String
  requestId : String
deriving DecidableEq, Repr

/-- The settings of the proxy besides `Env`, and the functions of packages: `decodeJwt` reads the text of
    a token; `matchPath pattern path` is path-to-regexp's `match(pattern)(path) !== false`. -/
structure ProxyEnv extends Env where
  decodeJwt : String → PresentedToken
  matchPath : String → String → Except Thrown Bool
  rateLimitWindowMs : Nat
  rateLimitMaxRequests : Nat

/-- How an invocation of the proxy middleware ends. -/
inductive UpstreamEvent where
  | finish
  | close
  | error (code message : String)
  | failed (message : String)
deriving DecidableEq, Repr

/-- The steps of the proxy: those of the gateway's services, the counter of the rate limiter, what it
    writes to the response, the proxy middleware, and the router's `next`. -/
inductive ProxyEffect where
  | gateway (effect : Effect)
  | redisIncr (key : String)
  | redisPexpire (key : String) (ms : Nat)
  | setHeader (name value : String)
  | proxy (route : RouteConfig) (req : ProxyRequest)
  | next (error : Thrown)

@[reducible] def ProxyEffect.Reply : ProxyEffect → Type
  | .gateway effect => effect.Reply
  | .redisIncr _ => Nat
  | .redisPexpire .. => Unit
  | .setHeader .. => Unit
  | .proxy .. => UpstreamEvent
  | .next _ => Unit

abbrev Proxy := Program ProxyEffect.Reply Thrown

namespace Proxy

def service {α : Type} (program : Gateway α) : Proxy α := program.embed .gateway fun _ reply => reply

def perform (effect : ProxyEffect) : Proxy effect.Reply := Program.perform effect

def redisIncr (key : String) : Proxy Nat := perform (.redisIncr key)

def redisPexpire (key : String) (ms : Nat) : Proxy Unit := perform (.redisPexpire key ms)

def proxy (route : RouteConfig) (req : ProxyRequest) : Proxy UpstreamEvent := perform (.proxy route req)

def setHeader (name value : String) : Proxy Unit := .await (.setHeader name value) fun _ => .done (.ok ())

def next (error : Thrown) : Proxy Unit := .await (.next error) fun _ => .done (.ok ())

end Proxy

open Proxy

variable (env : ProxyEnv)

def split (separator : Char) (text : String) : List String := (text.toList.splitOn separator).map String.ofList

def utf16Length (text : String) : Nat := (text.toList.map fun c => if c.toNat < 65536 then 1 else 2).sum

/-! Route resolution -/

structure ResolvedRoute where
  route : RouteConfig
  forwardPath : String
deriving DecidableEq, Repr

/-- The pattern up to its first `:`, `*` or brace, without a slash at the end. -/
def staticPrefixOf (pattern : String) : String :=
  let idx := pattern.toList.takeWhile fun c => c ∉ [':', '*', '\x7b']
  if idx.getLast? = some '/' ∧ 1 < idx.length then String.ofList idx.dropLast else String.ofList idx

/-- `path.slice(staticPrefixOf(pattern).length) || '/'`. Node decodes a request target as Latin-1, so each
    of its characters is one code unit. -/
def stripPrefix (pattern path : String) : String :=
  match path.toList.drop (utf16Length (staticPrefixOf pattern)) with
  | [] => "/"
  | rest => String.ofList rest

def resolveRoute (path : String) : List RouteConfig → Except Thrown (Option ResolvedRoute)
  | [] => .ok none
  | route :: routes =>
    match env.matchPath route.path path with
    | .error thrown => .error thrown
    | .ok true =>
      .ok (some { route, forwardPath := if route.strip_prefix then stripPrefix route.path path else path })
    | .ok false => resolveRoute path routes

/-! Header stripping and injection -/

def spoofableIdentityHeaders : List String :=
  ["x-user-id", "x-user-email", "x-user-roles", "x-auth-method", "x-tenant-id"]

def stripSpoofedHeaders (headers : Headers) : Headers :=
  headers.filter fun header => header.1 ∉ spoofableIdentityHeaders

def buildIdentityHeaders (claims : JwtAccessTokenClaims) (requestId : String) : Headers :=
  [("x-user-id", claims.sub), ("x-user-email", claims.email), ("x-user-roles", ",".intercalate claims.roles),
    ("x-auth-method", claims.auth_method.text), ("x-request-id", requestId)] ++
  match claims.tenant_id.filter (· ≠ "") with
  | some tenantId => [("x-tenant-id", tenantId)]
  | none => []

/-! Authorization and its audit -/

def resourcePath (req : ProxyRequest) : String := (split '?' req.originalUrl).headD req.originalUrl

def auditDenial (req : ProxyRequest) (claims : Option JwtAccessTokenClaims) (error : AppError) : Proxy Unit :=
  service <| writeAuditEvent
    { event_type := "proxy.request_denied"
      outcome := .denied
      failure_reason := error.code
      resource := resourcePath req
      user_id := claims.map (·.sub)
      ip_address := req.ip.filter (· ≠ "")
      user_agent := req.headers.get "user-agent" }

structure RateLimiterOptions where
  windowMs : Option Nat := none
  maxRequests : Option Nat := none
  keyPrefix : Option String := none

/-- The two commands on the counter; when one fails the limiter fails open. -/
def countRequest (key : String) (windowMs : Nat) : Proxy (Option Nat) :=
  tryCatch
    (do
      let count ← redisIncr key
      if count = 1 then
        redisPexpire key windowMs
      return some count)
    fun _ => return none

def limitRequest (maxRequests count windowResetAtMs : Nat) : Proxy (Option AppError) := do
  setHeader "X-RateLimit-Limit" (toString maxRequests)
  setHeader "X-RateLimit-Remaining" (toString (maxRequests - count))
  setHeader "X-RateLimit-Reset" (toString (windowResetAtMs / 1000))
  if maxRequests < count then
    let now ← service Gateway.dateNow
    let retryAfterSeconds := max 1 ((windowResetAtMs - now + 999) / 1000)
    setHeader "Retry-After" (toString retryAfterSeconds)
    return some tooManyRequestsError
  return none

/-- The rate limiter's middleware: the error it hands to its callback, if any. -/
def rateLimiter (options : RateLimiterOptions) (req : ProxyRequest) : Proxy (Option AppError) := do
  let windowMs := options.windowMs.getD env.rateLimitWindowMs
  let maxRequests := options.maxRequests.getD env.rateLimitMaxRequests
  let keyPrefix := options.keyPrefix.getD "ratelimit"
  let identifier := req.ip.getD "unknown"
  let now ← service Gateway.dateNow
  let windowStart := now / windowMs
  let counted ← countRequest (keyPrefix ++ ":" ++ identifier ++ ":" ++ toString windowStart) windowMs
  match counted with
  | none => return none
  | some count => limitRequest maxRequests count ((windowStart + 1) * windowMs)

def runRateLimiter (route : RouteConfig) (req : ProxyRequest) : Proxy (Option AppError) :=
  rateLimiter env { maxRequests := route.rate_limit_override, keyPrefix := "ratelimit:proxy:" ++ route.path } req

def lacksRole (route : RouteConfig) (claims : Option JwtAccessTokenClaims) : Bool :=
  route.allowed_roles.any fun allowedRoles => allowedRoles ≠ [] &&
    !claims.any fun claims => claims.roles.any fun role => allowedRoles.contains role

def grantedScopes (claims : Option JwtAccessTokenClaims) : List String :=
  match claims with
  | some claims => split ' ' claims.scope
  | none => []

def missingScope (route : RouteConfig) (claims : Option JwtAccessTokenClaims) : Option String :=
  route.required_scope.filter fun requiredScope => requiredScope ≠ "" &&
    !(grantedScopes claims).contains requiredScope

/-- Each refusal of `enforceAuthorization`: the audit entry, then the error. -/
def deny (req : ProxyRequest) (claims : Option JwtAccessTokenClaims) (error : AppError) :
    Proxy (Option AppError) := do
  auditDenial req claims error
  return some error

def enforceAuthorization (route : RouteConfig) (claims : Option JwtAccessTokenClaims) (req : ProxyRequest) :
    Proxy (Option AppError) :=
  if lacksRole route claims then deny req claims (forbiddenError "Insufficient role")
  else
    match missingScope route claims with
    | some requiredScope => deny req claims (insufficientScopeError requiredScope)
    | none => do
      let rateLimitError ← runRateLimiter env route req
      match rateLimitError with
      | some rateLimitError => deny req claims rateLimitError
      | none => return none

/-! Dispatch -/

def auditAllowedIfFlagged (route : RouteConfig) (req : ProxyRequest) (claims : Option JwtAccessTokenClaims) :
    Proxy Unit :=
  if ¬ route.audit_allowed_requests then pure ()
  else service <| writeAuditEvent
    { event_type := "proxy.request_allowed"
      outcome := .success
      resource := resourcePath req
      user_id := claims.map (·.sub)
      ip_address := req.ip.filter (· ≠ "")
      user_agent := req.headers.get "user-agent" }

def mapUpstreamError (route : RouteConfig) (code message : String) : AppError :=
  if code = "ETIMEDOUT" ∨ code = "ECONNRESET" then gatewayTimeoutError route.path
  else upstreamError route.path (some message)

def dispatchToUpstream (route : RouteConfig) (forwardPath : String) (req : ProxyRequest) : Proxy Unit := do
  let event ← proxy route { req with url := forwardPath }
  match event with
  | .finish | .close => return
  | .error code message => throw (.app (mapUpstreamError route code message))
  | .failed message => throw (.error message)

end GatewayModel
