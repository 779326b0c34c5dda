import AppGateway.Model.LocalKeySet
import AppGateway.Rotation.Acceptance

namespace GatewayProof

open Async GatewayModel
open Async.Program (Completes completes_done completes_perform)

structure Describes (env : Env) (subject : AccessTokenSubject) (claims : JwtAccessTokenClaims) : Prop where
  sub : claims.sub = subject.sub
  email : claims.email = subject.email
  roles : claims.roles = subject.roles
  auth_method : claims.auth_method = subject.authMethod
  tenant_id : claims.tenant_id = subject.tenantId
  scope : claims.scope = subject.scope
  exp : claims.exp = claims.iat + env.accessTokenTtlSeconds

def Verifies (jose : Jose) (settings : KeySettings) (env : Env) (subject : AccessTokenSubject) (state : GatewayState)
    (token : JoseToken) : Prop :=
  ∃ claims, Describes env subject claims ∧
    Alone (settings.processEnv env) (jose.verifyAccessToken settings env token) state (.ok (.ok claims)) state ∧
    ∀ outcome after, Alone (settings.processEnv env) (jose.verifyAccessToken settings env token) state outcome after →
      outcome = .ok (.ok claims)

/-- A key of the type of the configured algorithm that the local key set has nothing against. -/
def ForAlgorithm (jose : Jose) (settings : KeySettings) (key : String) : Prop :=
  getKtyFromAlg settings.jwtAlgorithm = some (jose.kty key) ∧ jose.fits settings.jwtAlgorithm key = true

/-- The previous key has the kid of the active one, and is a key for its algorithm. -/
def Ambiguous (jose : Jose) (settings : KeySettings) : Prop :=
  truthy settings.jwtPreviousKid = some settings.jwtKid ∧
    ∃ key, settings.jwtPreviousPublicKey = some key ∧ ForAlgorithm jose settings key

structure ActiveToken (jose : Jose) (settings : KeySettings) (env : Env) (subject : AccessTokenSubject) (time : Nat)
    (token : JoseToken) : Prop where
  kid : token.jwt.kid = settings.jwtKid
  alg : token.alg = settings.jwtAlgorithm
  key : token.privateKey = settings.jwtPrivateKey
  takes : jose.takes settings.jwtAlgorithm settings.jwtPrivateKey = true
  describes : Describes env subject token.jwt.claims
  iss : token.jwt.claims.iss = env.gatewayBaseUrl
  aud : token.jwt.claims.aud = subject.audience.getD "platform"
  iat : token.jwt.claims.iat = time / 1000
  nbf : token.jwt.claims.nbf = time / 1000

section Selection

variable {jose : Jose} {settings : KeySettings} {env : Env} {subject : AccessTokenSubject}
  {before after later : GatewayState} {token : JoseToken} {time : Nat}

def activeJwk (settings : KeySettings) : JwkWithKid :=
  { key := settings.jwtPublicKey, kid := settings.jwtKid, use := "sig", alg := settings.jwtAlgorithm }

theorem buildJwksDocument_cases :
    (truthy settings.jwtPreviousKid = none ∧ settings.buildJwksDocument = [activeJwk settings]) ∨
    ∃ kid key, truthy settings.jwtPreviousKid = some kid ∧ settings.jwtPreviousPublicKey = some key ∧
      settings.buildJwksDocument =
        [activeJwk settings, { key, kid, use := "sig", alg := settings.jwtAlgorithm }] := by
  have together := settings.previous_together
  cases previous : truthy settings.jwtPreviousKid with
  | none =>
    refine .inl ⟨rfl, ?_⟩
    simp [KeySettings.buildJwksDocument, KeySettings.loadSigningKeys, previous, activeJwk]
  | some kid =>
    rw [previous] at together
    obtain ⟨key, present⟩ := Option.isSome_iff_exists.mp together.symm
    refine .inr ⟨kid, key, rfl, present, ?_⟩
    simp [KeySettings.buildJwksDocument, KeySettings.loadSigningKeys, previous, present, activeJwk]

theorem candidate_iff {kid key published : String} : jose.candidate settings.jwtAlgorithm kid
    { key, kid := published, use := "sig", alg := settings.jwtAlgorithm } = true ↔
      ForAlgorithm jose settings key ∧ published = kid := by
  unfold Jose.candidate ForAlgorithm
  rw [decide_eq_true_iff]
  constructor
  · rintro ⟨typed, same, _, _, fits⟩
    exact ⟨⟨typed, fits⟩, same⟩
  · rintro ⟨⟨typed, fits⟩, same⟩
    exact ⟨typed, same, rfl, rfl, fits⟩

theorem createLocalJWKSet_active (fit : ForAlgorithm jose settings settings.jwtPublicKey) :
    (¬ Ambiguous jose settings → jose.createLocalJWKSet settings.buildJwksDocument settings.jwtAlgorithm
      settings.jwtKid = some (activeJwk settings)) ∧
    (Ambiguous jose settings → jose.createLocalJWKSet settings.buildJwksDocument settings.jwtAlgorithm
      settings.jwtKid = none) := by
  have active : jose.candidate settings.jwtAlgorithm settings.jwtKid (activeJwk settings) = true :=
    candidate_iff.mpr ⟨fit, rfl⟩
  unfold Jose.createLocalJWKSet
  rcases @buildJwksDocument_cases settings with ⟨absent, document⟩ | ⟨kid, key, previous, present, document⟩
  · rw [document]
    refine ⟨fun _ => ?_, fun ambiguous => ?_⟩
    · rw [List.filter_cons_of_pos active, List.filter_nil]
    · rw [Ambiguous, absent] at ambiguous
      cases ambiguous.1
  · rw [document, List.filter_cons_of_pos active]
    by_cases candidate : jose.candidate settings.jwtAlgorithm settings.jwtKid
        { key, kid, use := "sig", alg := settings.jwtAlgorithm } = true
    · obtain ⟨fits, same⟩ := candidate_iff.mp candidate
      have doubled : Ambiguous jose settings := ⟨previous.trans (congrArg some same), key, present, fits⟩
      refine ⟨fun single => absurd doubled single, fun _ => ?_⟩
      rw [List.filter_cons_of_pos candidate]
    · refine ⟨fun _ => ?_, fun ambiguous => ?_⟩
      · rw [List.filter_cons_of_neg candidate]
        rfl
      · obtain ⟨same, other, there, fits⟩ := ambiguous
        rw [previous, Option.some.injEq] at same
        obtain rfl := Option.some.inj (present.symm.trans there)
        exact absurd (candidate_iff.mpr ⟨fits, same⟩) candidate

theorem signAccessToken_active
    (signed : Alone (settings.processEnv env) (jose.signAccessToken settings env subject) before (.ok token) after) :
    ActiveToken jose settings env subject before.clock token ∧ after.clock = before.clock := by
  obtain ⟨issued, middle, signing, rest⟩ := Completes.bind_ok signed
  by_cases takes : jose.takes settings.jwtAlgorithm settings.jwtPrivateKey = true
  · have taken : jose.takes settings.jwtAlgorithm settings.loadSigningKeys.privateKey = true := takes
    simp only [taken, if_true] at rest
    obtain ⟨same, rfl⟩ := completes_done.mp rest
    cases same
    obtain ⟨_, loaded, load, rest⟩ := Completes.bind_ok signing
    obtain ⟨choice, responded⟩ := perform_responds load
    cases responded
    obtain ⟨jti, drawn, draw, rest⟩ := Completes.bind_ok rest
    obtain ⟨_, rfl⟩ := randomString_alone draw
    obtain ⟨now, read, reading, rest⟩ := Completes.bind_ok rest
    obtain ⟨rfl, rfl⟩ := dateNow_alone reading
    obtain ⟨same, rfl⟩ := completes_done.mp rest
    cases same
    exact ⟨⟨rfl, rfl, rfl, takes, ⟨rfl, rfl, rfl, rfl, rfl, rfl, rfl⟩, rfl, rfl, rfl, rfl⟩, rfl⟩
  · have refused : ¬ jose.takes settings.jwtAlgorithm settings.loadSigningKeys.privateKey = true := takes
    simp only [refused] at rest
    cases (completes_done.mp rest).1

theorem ActiveToken.fit (signed : ActiveToken jose settings env subject time token)
    (accepted : settings.jwtAlgorithm ∈ jwtAlgorithms) (paired : settings.jwtPrivateKey = settings.jwtPublicKey) :
    ForAlgorithm jose settings settings.jwtPublicKey := by
  rw [← paired]
  exact ⟨jose.takes_kty settings.jwtAlgorithm accepted settings.jwtPrivateKey signed.takes,
    jose.takes_fits settings.jwtAlgorithm accepted settings.jwtPrivateKey signed.takes⟩

theorem ActiveToken.verified {now : Nat} (signed : ActiveToken jose settings env subject time token)
    (plain : subject.audience = none) (since : time ≤ now) (early : now < acceptedUntil token.jwt.claims) :
    jwtVerify (settings.processEnv env) (.signed token.jwt) now = .ok token.jwt.claims := by
  have listed : token.jwt.kid ∈ (settings.processEnv env).verifyKids := by
    rw [signed.kid]
    show settings.jwtKid ∈ settings.buildJwksDocument.map (·.kid)
    rcases @buildJwksDocument_cases settings with ⟨_, document⟩ | ⟨_, _, _, _, document⟩ <;>
      rw [document] <;> exact List.mem_cons_self ..
  have iss : token.jwt.claims.iss = (settings.processEnv env).gatewayBaseUrl := signed.iss
  have aud : token.jwt.claims.aud = "platform" := by
    rw [signed.aud, plain]
    rfl
  have mature : ¬ now / 1000 + clockTolerance < token.jwt.claims.nbf := by
    rw [signed.nbf]
    have order : time / 1000 ≤ now / 1000 := Nat.div_le_div_right since
    omega
  have inside : ¬ token.jwt.claims.exp + clockTolerance ≤ now / 1000 := by
    unfold acceptedUntil at early
    omega
  unfold jwtVerify
  simp [listed, iss, aud, mature, inside]

theorem ActiveToken.presented_eq (signed : ActiveToken jose settings env subject time token)
    (accepted : settings.jwtAlgorithm ∈ jwtAlgorithms) (paired : settings.jwtPrivateKey = settings.jwtPublicKey)
    (single : ¬ Ambiguous jose settings) : jose.presented settings token = .signed token.jwt := by
  have found := (createLocalJWKSet_active (signed.fit accepted paired)).1 single
  unfold Jose.presented
  rw [signed.alg, signed.kid, found]
  simp [Jws.checkedWith, activeJwk, signed.key, paired]

theorem ActiveToken.refused (signed : ActiveToken jose settings env subject time token)
    (accepted : settings.jwtAlgorithm ∈ jwtAlgorithms) (paired : settings.jwtPrivateKey = settings.jwtPublicKey)
    (ambiguous : Ambiguous jose settings) {claims : JwtAccessTokenClaims} :
    ¬ Alone (settings.processEnv env) (jose.verifyAccessToken settings env token) later (.ok (.ok claims)) after := by
  have missing := (createLocalJWKSet_active (signed.fit accepted paired)).2 ambiguous
  have forged : jose.presented settings token = .forged "no matching key" := by
    unfold Jose.presented
    rw [signed.alg, signed.kid, missing]
    rfl
  intro verified
  rw [Jose.verifyAccessToken, forged] at verified
  obtain ⟨_, loaded, load, rest⟩ := Completes.bind_ok verified
  obtain ⟨now, read, reading, rest⟩ := Completes.bind_ok rest
  cases (completes_done.mp rest).1

/-- A token that was just signed verifies with the claims of its subject exactly when the previous key, if there is
    one, cannot be taken for the active one. -/
theorem sign_verify_agree_iff (accepted : settings.jwtAlgorithm ∈ jwtAlgorithms)
    (paired : settings.jwtPrivateKey = settings.jwtPublicKey) (plain : subject.audience = none)
    (signed : Alone (settings.processEnv env) (jose.signAccessToken settings env subject) before (.ok token) after)
    (since : after.clock ≤ later.clock) (early : later.clock < acceptedUntil token.jwt.claims)
    (unrevoked : later.redis.get later.clock (.revokedJti token.jwt.claims.jti) = none) :
    Verifies jose settings env subject later token ↔ ¬ Ambiguous jose settings := by
  obtain ⟨active, clock⟩ := signAccessToken_active signed
  rw [clock] at since
  constructor
  · rintro ⟨claims, _, verified, _⟩ ambiguous
    exact active.refused accepted paired ambiguous verified
  · intro single
    have presented := active.presented_eq accepted paired single
    have verified := active.verified plain since early
    have returns : Alone (settings.processEnv env) (jose.verifyAccessToken settings env token) later
        (.ok (.ok token.jwt.claims)) later := by
      rw [Jose.verifyAccessToken, presented]
      exact verifyAccessToken_returns rfl verified unrevoked
    refine ⟨token.jwt.claims, active.describes, returns, fun outcome final completes => ?_⟩
    exact (returns.unique completes (verifyAccessToken_reading _ _)
      fun effect choice choice' state => reading_settled _ effect choice choice' state).1

theorem verifyAccessToken_by_kid (fit : ∀ jwk ∈ settings.buildJwksDocument, ForAlgorithm jose settings jwk.key)
    (alg : token.alg = settings.jwtAlgorithm) :
    jose.verifyAccessToken settings env token = settings.verifyAccessToken env token.toJws := by
  have same : jose.createLocalJWKSet settings.buildJwksDocument token.alg token.jwt.kid =
      createLocalJWKSet settings.buildJwksDocument token.jwt.kid := by
    have published : ∀ jwk ∈ settings.buildJwksDocument, jwk.use = "sig" ∧ jwk.alg = settings.jwtAlgorithm := by
      rcases @buildJwksDocument_cases settings with ⟨_, document⟩ | ⟨_, _, _, _, document⟩ <;>
        simp [document, activeJwk]
    unfold Jose.createLocalJWKSet createLocalJWKSet
    congr 1
    refine List.filter_congr fun jwk member => ?_
    obtain ⟨use, algorithm⟩ := published jwk member
    obtain ⟨typed, fits⟩ := fit jwk member
    simp [Jose.candidate, alg, use, algorithm, typed, fits]
  rw [Jose.verifyAccessToken, KeySettings.verifyAccessToken, Jose.presented, same, KeySettings.presented]

end Selection

/-! A previous key under a kid of its own, and one left under the kid of the active key -/

def rsaKeys : Jose where
  kty _ := "RSA"
  fits _ _ := true
  takes alg _ := getKtyFromAlg alg = some "RSA"
  takes_kty := fun _ _ _ taken => of_decide_eq_true taken
  takes_fits := fun _ _ _ _ => rfl

theorem kid_two_set : "kid-2" ≠ "" := by decide

theorem previous_set {kid : String} (set : kid ≠ "") (publicKey : String) :
    (truthy (some kid)).isSome = (some publicKey).isSome := by
  rw [truthy_some set]
  rfl

def withPrevious (kid : String) (set : kid ≠ "") : KeySettings where
  jwtAlgorithm := "RS256"
  jwtKid := "kid-2"
  jwtPrivateKey := "new key pair"
  jwtPublicKey := "new key pair"
  jwtPreviousKid := some kid
  jwtPreviousPublicKey := some "old key pair"
  kid_set := kid_two_set
  previous_together := previous_set set "old key pair"

def platformSubject : AccessTokenSubject := accessTokenSubject sampleEnv signedInUser

def issuedLive : Except Thrown JoseToken × GatewayState → Bool
  | (.ok token, after) => after.clock < acceptedUntil token.jwt.claims ∧
      after.redis.get after.clock (.revokedJti token.jwt.claims.jti) = none
  | _ => false

theorem signs_of_check {settings : KeySettings}
    (passed : (Program.evaluate (exec (settings.processEnv sampleEnv)) [{}, { random := "j" }, {}]
      (rsaKeys.signAccessToken settings sampleEnv platformSubject) newFleet.platform).any issuedLive = true) :
    ∃ token after,
      Alone (settings.processEnv sampleEnv) (rsaKeys.signAccessToken settings sampleEnv platformSubject)
        newFleet.platform (.ok token) after ∧
      after.clock < acceptedUntil token.jwt.claims ∧
      after.redis.get after.clock (.revokedJti token.jwt.claims.jti) = none := by
  have calm : ∀ choice ∈ [({} : Choice), { random := "j" }, {}], choice.fault = .none := by decide
  obtain ⟨outcome, after, signs, live⟩ := Completes.of_check calm passed
  cases outcome with
  | error thrown => cases live
  | ok token => exact ⟨token, after, signs, of_decide_eq_true live⟩

theorem distinct_kids_agree : ∃ token after,
    Alone ((withPrevious "kid-1" (by decide)).processEnv sampleEnv)
      (rsaKeys.signAccessToken (withPrevious "kid-1" (by decide)) sampleEnv platformSubject) newFleet.platform
      (.ok token) after ∧
    Verifies rsaKeys (withPrevious "kid-1" (by decide)) sampleEnv platformSubject after token := by
  obtain ⟨token, after, signs, early, unrevoked⟩ :=
    @signs_of_check (withPrevious "kid-1" (by decide)) (by decide +kernel)
  have single : ¬ Ambiguous rsaKeys (withPrevious "kid-1" (by decide)) := by
    rintro ⟨same, _⟩
    have kids := (truthy_some (by decide)).symm.trans same
    exact absurd kids (by decide)
  exact ⟨token, after, signs,
    (sign_verify_agree_iff (by decide) rfl rfl signs (Nat.le_refl after.clock) early unrevoked).mpr single⟩

/-- Both keys are under the kid of the active one, and the gateway refuses the tokens that it signs. -/
theorem same_kid_refused : ∃ token after,
    Alone ((withPrevious "kid-2" (by decide)).processEnv sampleEnv)
      (rsaKeys.signAccessToken (withPrevious "kid-2" (by decide)) sampleEnv platformSubject) newFleet.platform
      (.ok token) after ∧
    ¬ Verifies rsaKeys (withPrevious "kid-2" (by decide)) sampleEnv platformSubject after token := by
  obtain ⟨token, after, signs, _, _⟩ :=
    @signs_of_check (withPrevious "kid-2" (by decide)) (by decide +kernel)
  have ambiguous : Ambiguous rsaKeys (withPrevious "kid-2" (by decide)) :=
    ⟨truthy_some (by decide), "old key pair", rfl, by decide, rfl⟩
  refine ⟨token, after, signs, ?_⟩
  rintro ⟨claims, _, verified, _⟩
  exact (signAccessToken_active signs).1.refused (by decide) rfl ambiguous verified

end GatewayProof
