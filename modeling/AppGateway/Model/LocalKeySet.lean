import AppGateway.Model.SigningKeys

namespace GatewayModel

def jwtAlgorithms : List String := ["RS256", "RS384", "ES256", "ES384"]

/-- jose's key type of an algorithm; none where it throws. -/
def getKtyFromAlg (alg : String) : Option String :=
  match alg.toList.take 2 with
  | ['R', 'S'] | ['P', 'S'] => some "RSA"
  | ['E', 'S'] => some "EC"
  | ['E', 'd'] => some "OKP"
  | _ => none

/-- What jose finds out about a key from its contents: the type that `exportJWK` writes, whether the local key set has
    anything against a key of that type (jose 5 compares the curve of an EC key with that of the algorithm), and whether
    `sign` takes the key for an algorithm, which it does only for a key that both allow. -/
structure Jose where
  kty : String → String
  fits : (alg key : String) → Bool
  takes : (alg key : String) → Bool
  takes_kty : ∀ alg ∈ jwtAlgorithms, ∀ key, takes alg key = true → getKtyFromAlg alg = some (kty key)
  takes_fits : ∀ alg ∈ jwtAlgorithms, ∀ key, takes alg key = true → fits alg key = true

/-- A token with the algorithm in its protected header. -/
structure JoseToken extends Jws where
  alg : String
deriving DecidableEq, Repr

namespace Jose

variable (jose : Jose) (settings : KeySettings)

def candidate (alg kid : String) (jwk : JwkWithKid) : Bool :=
  getKtyFromAlg alg = some (jose.kty jwk.key) ∧ jwk.kid = kid ∧ jwk.alg = alg ∧ jwk.use = "sig" ∧
    jose.fits alg jwk.key = true

/-- jose's local key set: the only candidate. -/
def createLocalJWKSet (jwks : List JwkWithKid) (alg kid : String) : Option JwkWithKid :=
  match jwks.filter (jose.candidate alg kid) with
  | [jwk] => some jwk
  | _ => none

def presented (token : JoseToken) : PresentedToken :=
  token.checkedWith (jose.createLocalJWKSet settings.buildJwksDocument token.alg token.jwt.kid)

def signAccessToken (env : Env) (subject : AccessTokenSubject) : Gateway JoseToken := do
  let keys := settings.loadSigningKeys
  let signed ← GatewayModel.signAccessToken (settings.processEnv env) subject
  if jose.takes settings.jwtAlgorithm keys.privateKey then
    return { jwt := signed.token, privateKey := keys.privateKey, alg := settings.jwtAlgorithm }
  throw (.error "Invalid key for this operation")

def verifyAccessToken (env : Env) (token : JoseToken) : Gateway (Except AppError JwtAccessTokenClaims) :=
  GatewayModel.verifyAccessToken (settings.processEnv env) (jose.presented settings token)

end Jose
end GatewayModel
