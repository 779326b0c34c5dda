import Mathlib.Data.List.Basic

namespace GatewayModel

structure AppError where
  code : String
  message : String
  statusCode : Nat
deriving DecidableEq, Repr

def unauthorizedError (message : String := "Authentication required") : AppError :=
  ⟨"unauthorized", message, 401⟩

def invalidCredentialsError (message : String := "Email or password is incorrect") : AppError :=
  ⟨"invalid_credentials", message, 401⟩

def tokenExpiredError (message : String := "Token has expired") : AppError :=
  ⟨"token_expired", message, 401⟩

def tokenRevokedError (message : String := "Token has been revoked") : AppError :=
  ⟨"token_revoked", message, 401⟩

def tokenReuseDetectedError
    (message : String := "Refresh token reuse detected; session revoked") : AppError :=
  ⟨"token_reuse_detected", message, 401⟩

def forbiddenError
    (message : String := "You do not have permission to perform this action") : AppError :=
  ⟨"forbidden", message, 403⟩

def insufficientScopeError (requiredScope : String) : AppError :=
  ⟨"insufficient_scope", "Requires scope \"" ++ requiredScope ++ "\"", 403⟩

def routeNotFoundError (path : String) : AppError :=
  ⟨"route_not_found", "No upstream route is configured for '" ++ path ++ "'.", 404⟩

def tooManyRequestsError (message : String := "Rate limit exceeded. Please slow down.") : AppError :=
  ⟨"rate_limit_exceeded", message, 429⟩

def upstreamError (service : String) (cause : Option String) : AppError :=
  ⟨"bad_gateway", "Upstream service \"" ++ service ++ "\" returned an error" ++
    (match cause.filter (· ≠ "") with
      | some cause => ": " ++ cause
      | none => "."), 502⟩

def gatewayTimeoutError (service : String) : AppError :=
  ⟨"gateway_timeout", "Upstream service \"" ++ service ++ "\" did not respond within the configured timeout.", 504⟩

inductive AuthMethod where
  | password | saml | oauth
deriving DecidableEq, Repr

structure JwtAccessTokenClaims where
  sub : String
  email : String
  roles : List String
  auth_method : AuthMethod
  tenant_id : Option String
  scope : String
  iat : Nat
  exp : Nat
  nbf : Nat
  iss : String
  aud : String
  jti : String
deriving DecidableEq, Repr

structure SignedJwt where
  kid : String
  claims : JwtAccessTokenClaims
deriving DecidableEq, Repr

/-- A bearer token as a client sends it; only the gateway's own key makes a `signed` one. -/
inductive PresentedToken where
  | signed (token : SignedJwt)
  | forged (text : String)
deriving DecidableEq, Repr

structure TokenResponse where
  access_token : SignedJwt
  refresh_token : String
  token_type : String
  expires_in : Nat
  scope : String
deriving DecidableEq, Repr

def AuthMethod.text : AuthMethod → String
  | .password => "password"
  | .saml => "saml"
  | .oauth => "oauth"

inductive AuditOutcome where
  | success | failure | denied
deriving DecidableEq, Repr

structure AuditLogEntry where
  event_type : String
  user_id : Option String := none
  ip_address : Option String := none
  user_agent : Option String := none
  resource : Option String := none
  outcome : AuditOutcome
  failure_reason : Option String := none
  metadata : List (String × String) := []
deriving DecidableEq, Repr

structure RefreshTokenMetadata where
  ipAddress : Option String := none
  userAgent : Option String := none
  clientId : Option String := none
deriving DecidableEq, Repr

end GatewayModel
