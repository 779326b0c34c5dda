import AppGateway.Model.AuthRouter

namespace GatewayModel

/-- The key settings of `config/env.ts`, with the contents of the files their paths name. The two halves
    of a key pair have the same contents. -/
structure KeySettings where
  jwtAlgorithm : String
  jwtKid : String
  jwtPrivateKey : String
  jwtPublicKey : String
  jwtPreviousKid : Option String
  jwtPreviousPublicKey : Option String
  kid_set : jwtKid ≠ ""
  previous_together : (truthy jwtPreviousKid).isSome = jwtPreviousPublicKey.isSome

structure SigningKeys where
  kid : String
  privateKey : String
  publicKey : String
  previousKid : Option String
  previousPublicKey : Option String
deriving DecidableEq, Repr

structure JwkWithKid where
  key : String
  kid : String
  use : String
  alg : String
deriving DecidableEq, Repr

/-- A token as it is sent: what it says, and the private key that has signed it. -/
structure Jws where
  jwt : SignedJwt
  privateKey : String
deriving DecidableEq, Repr

namespace KeySettings

variable (settings : KeySettings)

def loadSigningKeys : SigningKeys where
  kid := settings.jwtKid
  privateKey := settings.jwtPrivateKey
  publicKey := settings.jwtPublicKey
  previousKid := settings.jwtPreviousKid
  previousPublicKey := if (truthy settings.jwtPreviousKid).isSome then settings.jwtPreviousPublicKey else none

def buildJwksDocument : List JwkWithKid :=
  let keys := settings.loadSigningKeys
  let activeJwk : JwkWithKid := { key := keys.publicKey, kid := keys.kid, use := "sig", alg := settings.jwtAlgorithm }
  match truthy keys.previousKid, keys.previousPublicKey with
  | some previousKid, some previousPublicKey =>
    [activeJwk, { key := previousPublicKey, kid := previousKid, use := "sig", alg := settings.jwtAlgorithm }]
  | _, _ => [activeJwk]

end KeySettings

/-- jose's local key set where every key is of the token's algorithm: the one key with its kid. -/
def createLocalJWKSet (jwks : List JwkWithKid) (kid : String) : Option JwkWithKid :=
  match jwks.filter fun jwk => jwk.kid = kid with
  | [jwk] => some jwk
  | _ => none

def Jws.checkedWith (token : Jws) (found : Option JwkWithKid) : PresentedToken :=
  match found with
  | some jwk => if jwk.key = token.privateKey then .signed token.jwt else .forged "invalid signature"
  | none => .forged "no matching key"

namespace KeySettings

variable (settings : KeySettings)

def processEnv (env : Env) : Env :=
  { env with jwtKid := settings.loadSigningKeys.kid, verifyKids := settings.buildJwksDocument.map (·.kid) }

def presented (token : Jws) : PresentedToken :=
  token.checkedWith (createLocalJWKSet settings.buildJwksDocument token.jwt.kid)

def signAccessToken (env : Env) (subject : AccessTokenSubject) : Gateway Jws := do
  let signed ← GatewayModel.signAccessToken (settings.processEnv env) subject
  return { jwt := signed.token, privateKey := settings.loadSigningKeys.privateKey }

def verifyAccessToken (env : Env) (token : Jws) : Gateway (Except AppError JwtAccessTokenClaims) :=
  GatewayModel.verifyAccessToken (settings.processEnv env) (settings.presented token)

end KeySettings
end GatewayModel
