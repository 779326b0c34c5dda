import AppGateway.Model.Platform

namespace GatewayModel

open Gateway

variable (env : Env)

def secondsFromNow (seconds : Nat) : Gateway Nat := do
  let now ← dateNow
  return now + seconds * 1000

/-- `Math.max(0, Math.ceil((date - now) / 1000))` on milliseconds. -/
def ttlSeconds (date now : Nat) : Nat := (date - now + 999) / 1000

def ttlSecondsUntil (date : Nat) : Gateway Nat := do
  let now ← dateNow
  return ttlSeconds date now

/-! Revocation helpers -/

def revokeToken (jti : String) (expiresAt : Nat) : Gateway Unit := do
  let ttl ← ttlSecondsUntil expiresAt
  if ttl = 0 then
    return
  redisSet (.revokedJti jti) .flag ttl

def isTokenRevoked (jti : String) : Gateway Bool := do
  let value ← redisGet (.revokedJti jti)
  return value.isSome

def cacheRefreshTokenRevocation (tokenHash : String) (expiresAt : Nat) : Gateway Unit := do
  let ttl ← ttlSecondsUntil expiresAt
  if ttl = 0 then
    return
  redisSet (.revokedRefresh tokenHash) .flag ttl

/-! Idempotency slots -/

def idempotencyRefreshTtlSeconds : Nat := 30

def claimIdempotencyKey (idempotencyKey : String) : Gateway Bool :=
  redisSetNx (.idempotencyRefresh idempotencyKey) (.slot .pending) idempotencyRefreshTtlSeconds

def completeIdempotentRefresh (idempotencyKey : String) (result : CachedRefreshResult) : Gateway Unit :=
  redisSet (.idempotencyRefresh idempotencyKey) (.slot (.done result)) idempotencyRefreshTtlSeconds

def releaseIdempotencyKey (idempotencyKey : String) : Gateway Unit :=
  redisDel (.idempotencyRefresh idempotencyKey)

def getIdempotencyCacheEntry (idempotencyKey : String) : Gateway (Option IdempotencyCacheEntry) := do
  let raw ← redisGet (.idempotencyRefresh idempotencyKey)
  match raw with
  | none => return none
  | some (.slot entry) => return some entry
  | some .flag => throw .decryptionFailed

/-! Access tokens -/

structure AccessTokenSubject where
  sub : String
  email : String
  roles : List String
  authMethod : AuthMethod
  tenantId : Option String
  scope : String
  audience : Option String := none

structure SignedAccessToken where
  token : SignedJwt
  jti : String
  expiresAt : Nat

def signAccessToken (subject : AccessTokenSubject) : Gateway SignedAccessToken := do
  loadSigningKeys
  let jti ← randomString
  let now ← dateNow
  let nowSeconds := now / 1000
  let expSeconds := nowSeconds + env.accessTokenTtlSeconds
  let claims : JwtAccessTokenClaims :=
    { sub := subject.sub
      email := subject.email
      roles := subject.roles
      auth_method := subject.authMethod
      tenant_id := subject.tenantId
      scope := subject.scope
      iat := nowSeconds
      nbf := nowSeconds
      exp := expSeconds
      iss := env.gatewayBaseUrl
      aud := subject.audience.getD "platform"
      jti }
  return { token := ⟨env.jwtKid, claims⟩, jti, expiresAt := expSeconds * 1000 }

inductive JoseError where
  | expired
  | other
deriving DecidableEq, Repr

def clockTolerance : Nat := 30

/-- `jwtVerify` of jose with the options of `verifyAccessToken`, at a clock reading in milliseconds. -/
def jwtVerify (token : PresentedToken) (now : Nat) : Except JoseError JwtAccessTokenClaims :=
  match token with
  | .forged _ => .error .other
  | .signed jwt =>
    if jwt.kid ∉ env.verifyKids then .error .other
    else if jwt.claims.iss ≠ env.gatewayBaseUrl then .error .other
    else if jwt.claims.aud ≠ "platform" then .error .other
    else if now / 1000 + clockTolerance < jwt.claims.nbf then .error .other
    else if jwt.claims.exp + clockTolerance ≤ now / 1000 then .error .expired
    else .ok jwt.claims

def verifyAccessToken (token : PresentedToken) : Gateway (Except AppError JwtAccessTokenClaims) := do
  loadSigningKeys
  let now ← dateNow
  match jwtVerify env token now with
  | .error .expired => return .error tokenExpiredError
  | .error .other => return .error (unauthorizedError "Token is invalid")
  | .ok payload =>
    let revoked ← isTokenRevoked payload.jti
    if revoked then
      return .error tokenRevokedError
    return .ok payload

end GatewayModel
