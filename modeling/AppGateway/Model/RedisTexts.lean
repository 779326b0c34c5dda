import AppGateway.Model.CompactJwt
import AppGateway.Model.CryptoEncoding
import AppGateway.Store.Texts

/-! The Redis commands of `token.service.ts` over the texts that the server keeps. -/

namespace GatewayModel.Encoded

open Async Codec

/-- What encrypts the idempotency slots, and what makes an access token a text. -/
structure CacheEnv where
  crypto : CryptoEnv
  jws : JwsEnv
  idempotencyCacheKey : Buffer

variable (cache : CacheEnv)

def encryptIdempotencyCacheValue (iv : Buffer) (plaintext : String) : String :=
  toBase64 (sealed cache.crypto cache.idempotencyCacheKey iv (utf8 plaintext))

def decryptIdempotencyCacheValue (encoded : String) : Except Thrown String :=
  (decryptWithKey cache.crypto cache.idempotencyCacheKey encoded).map utf8Text

def entryJson : IdempotencyCacheEntry → Json
  | .pending => .object [("status", .string "pending")]
  | .done result =>
    .object
      [("status", .string "done"),
       ("result", .object
         [("userId", .string result.userId),
          ("accessToken", .string (cache.jws.compact result.accessToken)),
          ("refreshToken", .string result.refreshToken),
          ("presentedTokenHash", .string result.presentedTokenHash)])]

/-- The entry a value of `JSON.parse` is taken for. -/
def entryOf? (json : Json) : Option IdempotencyCacheEntry := do
  let status ← (json.member? "status").bind Json.text?
  if status = "pending" then
    return .pending
  let result ← json.member? "result"
  let userId ← (result.member? "userId").bind Json.text?
  let accessToken ← (result.member? "accessToken").bind Json.text?
  let accessToken ← readCompact accessToken
  let refreshToken ← (result.member? "refreshToken").bind Json.text?
  let presentedTokenHash ← (result.member? "presentedTokenHash").bind Json.text?
  return .done { userId, accessToken, refreshToken, presentedTokenHash }

def valueText (iv : Buffer) : RedisValue → String
  | .flag => "1"
  | .slot entry => encryptIdempotencyCacheValue cache iv (String.ofList (entryJson cache entry).stringify)

/-- `getIdempotencyCacheEntry` behind its GET. An object that is no entry, which the code would not notice, is
    refused. -/
def readSlot (raw : Option String) : Except Thrown (Option RedisValue) :=
  match raw.filter fun text => text ≠ "" with
  | none => .ok none
  | some encoded =>
    match decryptIdempotencyCacheValue cache encoded with
    | .error thrown => .error thrown
    | .ok plaintext =>
      match Json.parse plaintext.toList with
      | none => .error (.error "SyntaxError")
      | some json =>
        match entryOf? json with
        | none => .error (.error "TypeError")
        | some entry => .ok (some (.slot entry))

def readValue (key : RedisKey) (raw : Option String) : Except Thrown (Option RedisValue) :=
  match key with
  | .idempotencyRefresh _ => readSlot cache raw
  | .revokedJti _ | .revokedRefresh _ => .ok (raw.map fun _ => .flag)

structure TextState where
  gateway : GatewayState
  texts : Store.Texts

structure TextChoice where
  chosen : Choice
  iv : Buffer

/-- One effect as `respond` has it, those on Redis by the texts. -/
def respond (env : Env) (choice : TextChoice) (state : TextState) :
    (effect : Effect) → Option (Except Thrown effect.Reply × TextState)
  | .redisGet key => some (readValue cache key (state.texts.get state.gateway.clock key.text), state)
  | .redisSet key value ttlSeconds =>
    if choice.iv.length = gcmIvLength then
      some (.ok (), { state with
        texts := state.texts.set key.text (valueText cache choice.iv value) (state.gateway.expiry ttlSeconds) })
    else none
  | .redisSetNx key value ttlSeconds =>
    if choice.iv.length = gcmIvLength then
      let (claimed, texts) := state.texts.setNx state.gateway.clock key.text (valueText cache choice.iv value)
        (state.gateway.expiry ttlSeconds)
      some (.ok claimed, { state with texts })
    else none
  | .redisDel key => some (.ok (), { state with texts := state.texts.del key.text })
  | effect =>
    (GatewayModel.respond env choice.chosen state.gateway effect).map fun (reply, gateway) =>
      (reply, { state with gateway })

def exec (env : Env) (effect : Effect) (choice : TextChoice) (state : TextState) :
    Option (Except Thrown effect.Reply × TextState) :=
  match choice.chosen.fault with
  | .none => respond cache env choice state effect
  | .lost => if effect.isLocal then none else some (.error .stepFailed, state)
  | .unacknowledged =>
    if effect.isLocal then none
    else (respond cache env choice state effect).map fun (_, after) => (.error .stepFailed, after)

inductive TextEvent where
  | gateway (event : External)
  | counter (name : String) (command : Option Store.Text → Option Store.Text)

def external (event : TextEvent) (state : TextState) : TextState :=
  match event with
  | .gateway event => { state with gateway := GatewayModel.external event state.gateway }
  | .counter name command =>
    let key := "ratelimit:" ++ name
    { state with texts := Function.update state.texts key (command (state.texts key)) }

def processes (env : Env) {Call Out : Type} (code : Call → Gateway Out) :
    System Effect.Reply Thrown TextState TextChoice TextEvent Call Out where
  exec := exec cache env
  external := external
  code := code

abbrev TextConfig (Call Out : Type) := Config Effect.Reply Thrown TextState Call Out

def freshTexts {Call Out : Type} (clock : Nat) (users : List UserRow)
    (counters : Store.Texts) : TextConfig Call Out where
  state :=
    { gateway := { clock, users, refreshTokens := [], redis := [], auditLog := [], drawn := [] }
      texts := fun key => if "ratelimit:".toList.isPrefixOf key.toList then counters key else none }
  threads := []

end GatewayModel.Encoded
