import AppGateway.Codec.Base64
import AppGateway.Codec.Json
import AppGateway.Model.Crypto

/-! The access tokens of `signAccessToken` as texts, in the compact serialization of jose. -/

namespace GatewayModel

open Codec

def AuthMethod.ofText? (text : String) : Option AuthMethod :=
  if text = "password" then some .password
  else if text = "saml" then some .saml
  else if text = "oauth" then some .oauth
  else none

def nullable : Option String → Json
  | some text => .string text
  | none => .null

def nullable? : Json → Option (Option String)
  | .string text => some (some text)
  | .null => some none
  | _ => none

/-- The payload, its members in the order in which `SignJWT` and its setters are called. -/
def JwtAccessTokenClaims.toJson (claims : JwtAccessTokenClaims) : Json :=
  .object
    [("email", .string claims.email),
     ("roles", .array (claims.roles.map .string)),
     ("auth_method", .string claims.auth_method.text),
     ("tenant_id", nullable claims.tenant_id),
     ("scope", .string claims.scope),
     ("sub", .string claims.sub),
     ("iat", .nat claims.iat),
     ("nbf", .nat claims.nbf),
     ("exp", .nat claims.exp),
     ("iss", .string claims.iss),
     ("aud", .string claims.aud),
     ("jti", .string claims.jti)]

def JwtAccessTokenClaims.ofJson? (json : Json) : Option JwtAccessTokenClaims := do
  let email ← (json.member? "email").bind Json.text?
  let roles ← (json.member? "roles").bind Json.items?
  let roles ← roles.mapM Json.text?
  let authMethod ← (json.member? "auth_method").bind Json.text?
  let auth_method ← AuthMethod.ofText? authMethod
  let tenant_id ← (json.member? "tenant_id").bind nullable?
  let scope ← (json.member? "scope").bind Json.text?
  let sub ← (json.member? "sub").bind Json.text?
  let iat ← (json.member? "iat").bind Json.nat?
  let nbf ← (json.member? "nbf").bind Json.nat?
  let exp ← (json.member? "exp").bind Json.nat?
  let iss ← (json.member? "iss").bind Json.text?
  let aud ← (json.member? "aud").bind Json.text?
  let jti ← (json.member? "jti").bind Json.text?
  return { sub, email, roles, auth_method, tenant_id, scope, iat, exp, nbf, iss, aud, jti }

def jsonBytes (json : Json) : Buffer := utf8 (String.ofList json.stringify)

def jsonOfBytes? (bytes : Buffer) : Option Json := Json.parse (utf8Text bytes).toList

/-- `JWT_ALGORITHM`, and the signature over header and payload with the private key. -/
structure JwsEnv where
  jwtAlgorithm : String
  signature : List Char → List Char

def JwsEnv.compact (jws : JwsEnv) (jwt : SignedJwt) : String :=
  let header : Json := .object [("alg", .string jws.jwtAlgorithm), ("kid", .string jwt.kid)]
  let signed := Base64.encodeUrl (jsonBytes header) ++ '.' :: Base64.encodeUrl (jsonBytes jwt.claims.toJson)
  String.ofList (signed ++ '.' :: jws.signature signed)

/-- The token that a text made by `compact` stands for. -/
def readCompact (text : String) : Option SignedJwt := do
  let isPart : Char → Bool := fun c => c ≠ '.'
  let header := text.toList.takeWhile isPart
  let payload := ((text.toList.dropWhile isPart).drop 1).takeWhile isPart
  let header ← jsonOfBytes? (Base64.decode header)
  let kid ← (header.member? "kid").bind Json.text?
  let payload ← jsonOfBytes? (Base64.decode payload)
  let claims ← JwtAccessTokenClaims.ofJson? payload
  return { kid, claims }

end GatewayModel
