import AppGateway.Async.System
import AppGateway.Model.Types
import AppGateway.Store.Expiring

namespace GatewayModel

open Async

/-- Settings of `config/env.ts`, and the functions of `node:crypto`, `bcrypt` and the email cipher. -/
structure Env where
  gatewayBaseUrl : String
  jwtKid : String
  verifyKids : List String
  accessTokenTtlSeconds : Nat
  refreshTokenTtlSeconds : Nat
  defaultUserScope : String
  sha256Hex : String → String
  hashEmail : String → String
  bcryptCompare : String → String → Bool
  decryptEmail : String → Option String → Option String

structure UserRow where
  id : String
  email : String
  emailHash : String
  passwordHash : Option String
  roles : List String
  tenantId : Option String
  isActive : Bool
  updatedAt : Nat
  lastLoginAt : Option Nat
deriving DecidableEq, Repr

structure RefreshTokenRow where
  id : String
  userId : String
  tokenHash : String
  sessionFamily : String
  clientId : Option String
  ipAddress : Option String
  userAgent : Option String
  issuedAt : Nat
  expiresAt : Nat
  revokedAt : Option Nat
  revocationReason : Option String
deriving DecidableEq, Repr

structure NewRefreshToken where
  userId : String
  tokenHash : String
  sessionFamily : String
  clientId : Option String
  ipAddress : Option String
  userAgent : Option String
  expiresAt : Nat
deriving DecidableEq, Repr

structure CachedRefreshResult where
  userId : String
  accessToken : SignedJwt
  refreshToken : String
  presentedTokenHash : String
deriving DecidableEq, Repr

inductive IdempotencyCacheEntry where
  | pending
  | done (result : CachedRefreshResult)
deriving DecidableEq, Repr

inductive RedisKey where
  | revokedJti (jti : String)
  | revokedRefresh (tokenHash : String)
  | idempotencyRefresh (idempotencyKey : String)
deriving DecidableEq, Repr

def RedisKey.text : RedisKey → String
  | .revokedJti jti => "revoked:jti:" ++ jti
  | .revokedRefresh tokenHash => "revoked:refresh:" ++ tokenHash
  | .idempotencyRefresh idempotencyKey => "idempotency:refresh:" ++ idempotencyKey

inductive RedisValue where
  | flag
  | slot (entry : IdempotencyCacheEntry)
deriving DecidableEq, Repr

structure GatewayState where
  clock : Nat
  users : List UserRow
  refreshTokens : List RefreshTokenRow
  redis : Store.Expiring RedisKey RedisValue
  auditLog : List AuditLogEntry
  /-- What `randomBytes`, `randomUUID` and `gen_random_uuid` have returned; they never repeat. -/
  drawn : List String
deriving DecidableEq, Repr

inductive Thrown where
  | stepFailed
  | uniqueViolation (constraint : String)
  | foreignKeyViolation (constraint : String)
  | decryptionFailed
  | error (message : String)
  | app (error : AppError)
deriving DecidableEq, Repr

inductive Effect where
  | selectRefreshTokenByHash (tokenHash : String)
  | selectActiveByFamily (sessionFamily : String)
  | selectLatestActiveByUser (userId : String)
  | updateRevokedById (id : String) (revokedAt : Nat) (reason : String)
  | updateRevokedByFamily (sessionFamily : String) (revokedAt : Nat) (reason : String)
  | insertRefreshToken (values : NewRefreshToken)
  | selectUserByEmailHash (emailHash : String)
  | selectUserById (id : String)
  | updateLastLogin (id : String) (lastLoginAt updatedAt : Nat)
  | insertAuditLog (entry : AuditLogEntry)
  | decryptEmail (encoded : String) (tenantId : Option String)
  | redisGet (key : RedisKey)
  | redisSet (key : RedisKey) (value : RedisValue) (ttlSeconds : Nat)
  | redisSetNx (key : RedisKey) (value : RedisValue) (ttlSeconds : Nat)
  | redisDel (key : RedisKey)
  | loadSigningKeys
  | dateNow
  | sleepUntil (wakeAt : Nat)
  | randomString

@[reducible] def Effect.Reply : Effect → Type
  | .selectRefreshTokenByHash _ => Option RefreshTokenRow
  | .selectActiveByFamily _ => List RefreshTokenRow
  | .selectLatestActiveByUser _ => Option RefreshTokenRow
  | .updateRevokedById .. => Unit
  | .updateRevokedByFamily .. => Unit
  | .insertRefreshToken _ => Unit
  | .selectUserByEmailHash _ => Option UserRow
  | .selectUserById _ => Option UserRow
  | .updateLastLogin .. => Unit
  | .insertAuditLog _ => Unit
  | .decryptEmail .. => String
  | .redisGet _ => Option RedisValue
  | .redisSet .. => Unit
  | .redisSetNx .. => Bool
  | .redisDel _ => Unit
  | .loadSigningKeys => Unit
  | .dateNow => Nat
  | .sleepUntil _ => Unit
  | .randomString => String

/-- Clock and random source cannot fail; everything else is a remote step or reads a file. -/
def Effect.isLocal : Effect → Bool
  | .dateNow | .sleepUntil _ | .randomString => true
  | _ => false

/-- `lost`: the step throws without effect. `unacknowledged`: it takes effect and throws. -/
inductive Fault where
  | none | lost | unacknowledged
deriving DecidableEq, Repr

structure Choice where
  fault : Fault := .none
  random : String := ""
  pick : Nat := 0
deriving DecidableEq, Repr

def setRevoked (rows : List RefreshTokenRow) (selects : RefreshTokenRow → Bool) (revokedAt : Nat)
    (reason : String) : List RefreshTokenRow :=
  rows.map fun row =>
    if selects row then { row with revokedAt := some revokedAt, revocationReason := some reason } else row

def activeInFamily (rows : List RefreshTokenRow) (sessionFamily : String) : List RefreshTokenRow :=
  rows.filter fun row => row.sessionFamily = sessionFamily ∧ row.revokedAt = none

def activeOfUser (rows : List RefreshTokenRow) (userId : String) : List RefreshTokenRow :=
  rows.filter fun row => row.userId = userId ∧ row.revokedAt = none

/-- The rows `ORDER BY issued_at DESC LIMIT 1` may return: the order says nothing among equals. -/
def latestOfUser (rows : List RefreshTokenRow) (userId : String) : List RefreshTokenRow :=
  (activeOfUser rows userId).filter fun row =>
    (activeOfUser rows userId).all fun other => other.issuedAt ≤ row.issuedAt

def NewRefreshToken.row (values : NewRefreshToken) (id : String) (issuedAt : Nat) : RefreshTokenRow :=
  { id, issuedAt
    userId := values.userId
    tokenHash := values.tokenHash
    sessionFamily := values.sessionFamily
    clientId := values.clientId
    ipAddress := values.ipAddress
    userAgent := values.userAgent
    expiresAt := values.expiresAt
    revokedAt := none
    revocationReason := none }

namespace GatewayState

def expiry (state : GatewayState) (ttlSeconds : Nat) : Nat := state.clock + ttlSeconds * 1000

/-- INSERT with the constraints of the table: `user_id` references a user, `token_hash` is unique. -/
def insert (state : GatewayState) (values : NewRefreshToken) (id : String) :
    Except Thrown Unit × GatewayState :=
  if state.users.any (·.id = values.userId) then
    if state.refreshTokens.any (·.tokenHash = values.tokenHash) then
      (.error (.uniqueViolation "refresh_tokens_token_hash_unique"), state)
    else
      (.ok (), { state with refreshTokens := state.refreshTokens ++ [values.row id state.clock]
                            drawn := id :: state.drawn })
  else (.error (.foreignKeyViolation "user_id"), state)

def updateRevoked (state : GatewayState) (selects : RefreshTokenRow → Bool) (revokedAt : Nat)
    (reason : String) : GatewayState :=
  { state with refreshTokens := setRevoked state.refreshTokens selects revokedAt reason }

end GatewayState

/-- One effect that does not fail in transit. `none`: it cannot happen with this choice. -/
def respond (env : Env) (choice : Choice) (state : GatewayState) :
    (effect : Effect) → Option (Except Thrown effect.Reply × GatewayState)
  | .selectRefreshTokenByHash tokenHash =>
    some (.ok (state.refreshTokens.find? (·.tokenHash = tokenHash)), state)
  | .selectActiveByFamily sessionFamily =>
    some (.ok (activeInFamily state.refreshTokens sessionFamily), state)
  | .selectLatestActiveByUser userId =>
    match latestOfUser state.refreshTokens userId with
    | [] => some (.ok none, state)
    | row :: rows => (row :: rows)[choice.pick]?.map fun picked => (.ok (some picked), state)
  | .updateRevokedById id revokedAt reason =>
    some (.ok (), state.updateRevoked (·.id = id) revokedAt reason)
  | .updateRevokedByFamily sessionFamily revokedAt reason =>
    some (.ok (), state.updateRevoked
      (fun row => row.sessionFamily = sessionFamily ∧ row.revokedAt = none) revokedAt reason)
  | .insertRefreshToken values =>
    if choice.random ∈ state.drawn then none else some (state.insert values choice.random)
  | .selectUserByEmailHash emailHash => some (.ok (state.users.find? (·.emailHash = emailHash)), state)
  | .selectUserById id => some (.ok (state.users.find? (·.id = id)), state)
  | .updateLastLogin id lastLoginAt updatedAt =>
    some (.ok (), { state with users := state.users.map fun user =>
      if user.id = id then { user with lastLoginAt := some lastLoginAt, updatedAt } else user })
  | .insertAuditLog entry => some (.ok (), { state with auditLog := state.auditLog ++ [entry] })
  | .decryptEmail encoded tenantId =>
    match env.decryptEmail encoded tenantId with
    | some email => some (.ok email, state)
    | none => some (.error .decryptionFailed, state)
  | .redisGet key => some (.ok (state.redis.get state.clock key), state)
  | .redisSet key value ttlSeconds =>
    some (.ok (), { state with redis := state.redis.set key value (state.expiry ttlSeconds) })
  | .redisSetNx key value ttlSeconds =>
    let (claimed, redis) := state.redis.setNx state.clock key value (state.expiry ttlSeconds)
    some (.ok claimed, { state with redis })
  | .redisDel key => some (.ok (), { state with redis := state.redis.del key })
  | .loadSigningKeys => some (.ok (), state)
  | .dateNow => some (.ok state.clock, state)
  | .sleepUntil wakeAt => if state.clock < wakeAt then none else some (.ok (), state)
  | .randomString =>
    if choice.random ∈ state.drawn then none
    else some (.ok choice.random, { state with drawn := choice.random :: state.drawn })

def exec (env : Env) (effect : Effect) (choice : Choice) (state : GatewayState) :
    Option (Except Thrown effect.Reply × GatewayState) :=
  match choice.fault with
  | .none => respond env choice state effect
  | .lost => if effect.isLocal then none else some (.error .stepFailed, state)
  | .unacknowledged =>
    if effect.isLocal then none
    else (respond env choice state effect).map fun (_, after) => (.error .stepFailed, after)

inductive External where
  | elapse (ms : Nat)
  | setActive (userId : String) (isActive : Bool)
deriving DecidableEq, Repr

def external (event : External) (state : GatewayState) : GatewayState :=
  match event with
  | .elapse ms => { state with clock := state.clock + ms }
  | .setActive userId isActive =>
    { state with users := state.users.map fun user =>
        if user.id = userId then { user with isActive } else user }

abbrev Gateway := Program Effect.Reply Thrown

def processes (env : Env) {Call Out : Type} (code : Call → Gateway Out) :
    System Effect.Reply Thrown GatewayState Choice External Call Out where
  exec := exec env
  external := external
  code := code

abbrev GatewayThread (Call Out : Type) := Thread Effect.Reply Thrown Call Out
abbrev GatewayConfig (Call Out : Type) := Config Effect.Reply Thrown GatewayState Call Out
abbrev GatewayLabel (Call : Type) := Label Choice External Call

def freshGateway {Call Out : Type} (clock : Nat) (users : List UserRow) : GatewayConfig Call Out where
  state := { clock, users, refreshTokens := [], redis := [], auditLog := [], drawn := [] }
  threads := []

namespace Gateway

def perform (effect : Effect) : Gateway effect.Reply := Program.perform effect

def selectRefreshTokenByHash (tokenHash : String) : Gateway (Option RefreshTokenRow) :=
  perform (.selectRefreshTokenByHash tokenHash)

def selectActiveByFamily (sessionFamily : String) : Gateway (List RefreshTokenRow) :=
  perform (.selectActiveByFamily sessionFamily)

def selectLatestActiveByUser (userId : String) : Gateway (Option RefreshTokenRow) :=
  perform (.selectLatestActiveByUser userId)

def updateRevokedById (id : String) (revokedAt : Nat) (reason : String) : Gateway Unit :=
  perform (.updateRevokedById id revokedAt reason)

def updateRevokedByFamily (sessionFamily : String) (revokedAt : Nat) (reason : String) : Gateway Unit :=
  perform (.updateRevokedByFamily sessionFamily revokedAt reason)

def insertRefreshToken (values : NewRefreshToken) : Gateway Unit :=
  perform (.insertRefreshToken values)

def selectUserByEmailHash (emailHash : String) : Gateway (Option UserRow) :=
  perform (.selectUserByEmailHash emailHash)

def selectUserById (id : String) : Gateway (Option UserRow) := perform (.selectUserById id)

def updateLastLogin (id : String) (lastLoginAt updatedAt : Nat) : Gateway Unit :=
  perform (.updateLastLogin id lastLoginAt updatedAt)

def insertAuditLog (entry : AuditLogEntry) : Gateway Unit := perform (.insertAuditLog entry)

def decryptEmail (encoded : String) (tenantId : Option String) : Gateway String :=
  perform (.decryptEmail encoded tenantId)

def redisGet (key : RedisKey) : Gateway (Option RedisValue) := perform (.redisGet key)

def redisSet (key : RedisKey) (value : RedisValue) (ttlSeconds : Nat) : Gateway Unit :=
  perform (.redisSet key value ttlSeconds)

def redisSetNx (key : RedisKey) (value : RedisValue) (ttlSeconds : Nat) : Gateway Bool :=
  perform (.redisSetNx key value ttlSeconds)

def redisDel (key : RedisKey) : Gateway Unit := perform (.redisDel key)

def loadSigningKeys : Gateway Unit := perform .loadSigningKeys

def dateNow : Gateway Nat := perform .dateNow

def sleepUntil (wakeAt : Nat) : Gateway Unit := perform (.sleepUntil wakeAt)

def randomString : Gateway String := perform .randomString

end Gateway

/-! `services/audit.service.ts` and `middleware/errorHandler.ts` -/

/-- `writeAuditEvent`: a failed write is logged and does not reach the caller. -/
def writeAuditEvent (entry : AuditLogEntry) : Gateway Unit :=
  tryCatch (Gateway.insertAuditLog entry) fun _ => pure ()

structure ErrorResponse where
  error : String
  error_description : String
  request_id : String
deriving DecidableEq, Repr

def errorHandler (err : Thrown) (requestId : String) : Nat × ErrorResponse :=
  match err with
  | .app error =>
    (error.statusCode, { error := error.code, error_description := error.message, request_id := requestId })
  | _ =>
    (500,
      { error := "internal_server_error"
        error_description := "An unexpected error occurred. Please try again later."
        request_id := requestId })

end GatewayModel
