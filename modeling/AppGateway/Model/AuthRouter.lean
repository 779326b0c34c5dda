import AppGateway.Model.RefreshTokenService
import AppGateway.Model.UserService

namespace GatewayModel

open Gateway

variable (env : Env)

/-- The parts of an Express request the session handlers read besides the body. -/
structure Client where
  ip : Option String
  userAgent : Option String
deriving DecidableEq, Repr

/-- How a handler ends: a response it sends, or the error it hands to `next`. -/
inductive Answer where
  | tokens (body : TokenResponse)
  | noContent
  | failed (error : AppError)
deriving DecidableEq, Repr

def idempotencyClaimWaitAttempts : Nat := 5
def idempotencyClaimWaitMs : Nat := 50

def delay (ms : Nat) : Gateway Unit := do
  let now ← dateNow
  sleepUntil (now + ms)

def pollIdempotentResult (idempotencyKey presentedTokenHash : String) :
    Nat → Gateway (Option CachedRefreshResult)
  | 0 => return none
  | attempts + 1 => do
    let entry ← getIdempotencyCacheEntry idempotencyKey
    match entry with
    | some (.done result) =>
      return if result.presentedTokenHash = presentedTokenHash then some result else none
    | none => return none
    | some .pending =>
      delay idempotencyClaimWaitMs
      pollIdempotentResult idempotencyKey presentedTokenHash attempts

def waitForIdempotentResult (idempotencyKey presentedTokenHash : String) :
    Gateway (Option CachedRefreshResult) :=
  pollIdempotentResult idempotencyKey presentedTokenHash idempotencyClaimWaitAttempts

/-- A string counts when it is set and not empty. -/
def truthy (value : Option String) : Option String := value.filter fun text => text ≠ ""

def requestMeta (client : Client) : RefreshTokenMetadata :=
  { ipAddress := truthy client.ip, userAgent := client.userAgent }

def tokenResponse (accessToken : SignedJwt) (refreshToken : String) : TokenResponse :=
  { access_token := accessToken
    refresh_token := refreshToken
    token_type := "Bearer"
    expires_in := env.accessTokenTtlSeconds
    scope := env.defaultUserScope }

def accessTokenSubject (user : AuthenticatedUser) : AccessTokenSubject :=
  { sub := user.id
    email := user.email
    roles := user.roles
    authMethod := .password
    tenantId := user.tenantId
    scope := env.defaultUserScope }

def loginAudit (metadata : RefreshTokenMetadata) (eventType : String) (userId : Option String)
    (outcome : AuditOutcome) (failureReason : Option String) : AuditLogEntry :=
  { event_type := eventType
    user_id := userId
    resource := "/v1/auth/login"
    outcome
    failure_reason := failureReason
    ip_address := truthy metadata.ipAddress
    user_agent := truthy metadata.userAgent }

def login (client : Client) (email password : String) : Gateway Answer := do
  let metadata := requestMeta client
  let found ← findUserByEmail env email
  match found with
  | none =>
    writeAuditEvent (loginAudit metadata "auth.login_failed" none .failure "invalid_credentials")
    return .failed invalidCredentialsError
  | some (user, passwordHash) =>
    match truthy passwordHash, user.isActive with
    | some hash, true =>
      if ¬ verifyPassword env password hash then
        writeAuditEvent
          (loginAudit metadata "auth.login_failed" user.id .failure "invalid_credentials")
        return .failed invalidCredentialsError
      let signed ← signAccessToken env (accessTokenSubject env user)
      let refresh ← issueRefreshToken env user.id metadata none
      markLastLogin user.id
      writeAuditEvent (loginAudit metadata "auth.login" user.id .success none)
      return .tokens (tokenResponse env signed.token refresh.plaintext)
    | _, _ =>
      writeAuditEvent (loginAudit metadata "auth.login_failed" none .failure "invalid_credentials")
      return .failed invalidCredentialsError

def releaseClaim : Option String → Gateway Unit
  | some idempotencyKey => releaseIdempotencyKey idempotencyKey
  | none => pure ()

def completeClaim (claimed : Option String) (result : CachedRefreshResult) : Gateway Unit :=
  match claimed with
  | some idempotencyKey => completeIdempotentRefresh idempotencyKey result
  | none => pure ()

/-- Reuse detection audits itself; the handler records every other refused rotation. -/
def auditRefusal (error : AppError) : Gateway Unit :=
  if error.code ≠ "token_reuse_detected" then
    writeAuditEvent
      { event_type := "auth.token_refresh_failed"
        resource := "/v1/auth/refresh"
        outcome := .denied
        failure_reason := error.code }
  else pure ()

/-- `POST /refresh` behind `rotateRefreshToken`; `claimed` is the idempotency key when this request owns its slot. -/
def answerRotation (presentedTokenHash : String) (claimed : Option String)
    (rotation : Except AppError RotationResult) : Gateway Answer := do
  match rotation with
  | .error error =>
    releaseClaim claimed
    auditRefusal error
    return .failed error
  | .ok rotated =>
    let user ← findUserById rotated.userId
    match user with
    | none => return .failed (unauthorizedError "User no longer exists")
    | some user =>
      let signed ← signAccessToken env (accessTokenSubject env user)
      writeAuditEvent
        { event_type := "auth.token_refresh"
          user_id := user.id
          resource := "/v1/auth/refresh"
          outcome := .success }
      completeClaim claimed
        { userId := user.id
          accessToken := signed.token
          refreshToken := rotated.issued.plaintext
          presentedTokenHash }
      return .tokens (tokenResponse env signed.token rotated.issued.plaintext)

def rotateAndAnswer (refreshToken : String) (metadata : RefreshTokenMetadata)
    (presentedTokenHash : String) (claimed : Option String) : Gateway Answer := do
  let rotation ← rotateRefreshToken env refreshToken metadata
  answerRotation env presentedTokenHash claimed rotation

def refresh (client : Client) (refreshToken : String) (idempotencyKey : Option String) :
    Gateway Answer := do
  let metadata := requestMeta client
  let presentedTokenHash := hashRefreshToken env refreshToken
  match truthy idempotencyKey with
  | none => rotateAndAnswer env refreshToken metadata presentedTokenHash none
  | some idempotencyKey =>
    let ownsIdempotencyClaim ← claimIdempotencyKey idempotencyKey
    if ownsIdempotencyClaim then
      rotateAndAnswer env refreshToken metadata presentedTokenHash (some idempotencyKey)
    else
      let waited ← waitForIdempotentResult idempotencyKey presentedTokenHash
      match waited with
      | some result => return .tokens (tokenResponse env result.accessToken result.refreshToken)
      | none => rotateAndAnswer env refreshToken metadata presentedTokenHash none

/-- `validateAccessToken` on a route where it is not optional. `none`: the Authorization header is
    absent or does not start with `Bearer `. -/
def requireAccessToken (bearer : Option PresentedToken) :
    Gateway (Except AppError JwtAccessTokenClaims) := do
  match bearer with
  | none => return .error (unauthorizedError "Missing or malformed Authorization header")
  | some token => verifyAccessToken env token

def revokeForLogout (sub : String) (refreshToken : Option String) : Gateway Unit :=
  match truthy refreshToken with
  | some refreshToken => revokeRefreshTokenByHash (hashRefreshToken env refreshToken) "logout"
  | none => revokeMostRecentRefreshTokenForUser sub "logout"

def logoutHandler (auth : JwtAccessTokenClaims) (refreshToken : Option String) : Gateway Answer := do
  revokeToken auth.jti (auth.exp * 1000)
  revokeForLogout env auth.sub refreshToken
  writeAuditEvent
    { event_type := "auth.logout"
      user_id := auth.sub
      resource := "/v1/auth/logout"
      outcome := .success }
  return .noContent

def logout (bearer : Option PresentedToken) (refreshToken : Option String) : Gateway Answer := do
  let verified ← requireAccessToken env bearer
  match verified with
  | .error error => return .failed error
  | .ok auth => logoutHandler env auth refreshToken

end GatewayModel
