import AppGateway.Model.Platform
import AppGateway.Model.TokenService

namespace GatewayModel

open Gateway

variable (env : Env)

structure IssuedRefreshToken where
  plaintext : String
  tokenHash : String
  sessionFamily : String
  expiresAt : Nat
deriving DecidableEq, Repr

def generatePlaintext : Gateway String := randomString

def hashRefreshToken (plaintext : String) : String := env.sha256Hex plaintext

/-- Without a `sessionFamily` the default `randomUUID()` starts a new family. -/
def issueRefreshToken (userId : String) (metadata : RefreshTokenMetadata)
    (sessionFamily : Option String) : Gateway IssuedRefreshToken := do
  let sessionFamily ← match sessionFamily with
    | some family => pure family
    | none => randomString
  let plaintext ← generatePlaintext
  let tokenHash := hashRefreshToken env plaintext
  let expiresAt ← secondsFromNow env.refreshTokenTtlSeconds
  insertRefreshToken
    { userId, tokenHash, sessionFamily
      clientId := metadata.clientId
      ipAddress := metadata.ipAddress
      userAgent := metadata.userAgent
      expiresAt }
  return { plaintext, tokenHash, sessionFamily, expiresAt }

def revokeSessionFamily (sessionFamily reason : String) : Gateway Unit := do
  let activeRows ← selectActiveByFamily sessionFamily
  if activeRows.isEmpty then
    return
  let revokedAt ← dateNow
  updateRevokedByFamily sessionFamily revokedAt reason
  .all (activeRows.map fun row => cacheRefreshTokenRevocation row.tokenHash row.expiresAt)

structure RotationResult where
  userId : String
  issued : IssuedRefreshToken
deriving DecidableEq, Repr

/-- The rest of `rotateRefreshToken`, for a row that has passed its checks. -/
def replaceToken (tokenHash : String) (row : RefreshTokenRow) (metadata : RefreshTokenMetadata) :
    Gateway (Except AppError RotationResult) := do
  let revokedAt ← dateNow
  updateRevokedById row.id revokedAt "rotation"
  cacheRefreshTokenRevocation tokenHash row.expiresAt
  let issued ← issueRefreshToken env row.userId metadata (some row.sessionFamily)
  return .ok { userId := row.userId, issued }

def rotateRefreshToken (plaintextToken : String) (metadata : RefreshTokenMetadata) :
    Gateway (Except AppError RotationResult) := do
  let tokenHash := hashRefreshToken env plaintextToken
  let row ← selectRefreshTokenByHash tokenHash
  match row with
  | none => return .error (unauthorizedError "Refresh token is invalid")
  | some row =>
    if row.revokedAt.isSome then
      revokeSessionFamily row.sessionFamily "reuse_detected"
      writeAuditEvent
        { event_type := "auth.token_refresh_failed"
          user_id := row.userId
          outcome := .denied
          failure_reason := "token_reuse_detected"
          metadata := [("session_family", row.sessionFamily)] }
      return .error tokenReuseDetectedError
    let now ← dateNow
    if row.expiresAt ≤ now then
      return .error (unauthorizedError "Refresh token has expired")
    replaceToken env tokenHash row metadata

def revokeRefreshTokenByHash (tokenHash reason : String) : Gateway Unit := do
  let row ← selectRefreshTokenByHash tokenHash
  match row with
  | none => return
  | some row =>
    if row.revokedAt.isSome then
      return
    let revokedAt ← dateNow
    updateRevokedById row.id revokedAt reason
    cacheRefreshTokenRevocation tokenHash row.expiresAt

def revokeMostRecentRefreshTokenForUser (userId reason : String) : Gateway Unit := do
  let row ← selectLatestActiveByUser userId
  match row with
  | none => return
  | some row =>
    let revokedAt ← dateNow
    updateRevokedById row.id revokedAt reason
    cacheRefreshTokenRevocation row.tokenHash row.expiresAt

end GatewayModel
