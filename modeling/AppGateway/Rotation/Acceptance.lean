import AppGateway.Handlers.TokenRevocation
import AppGateway.Rotation.Fleet
import AppGateway.Sessions.Serial

namespace GatewayProof

open Async GatewayModel
open Async.Program (Completes completes_done completes_perform)

/-- The replica accepts the token now: no execution of `verifyAccessToken` in which no step fails does
    anything else, and there is one. -/
structure Accepts (env : Env) (settings : KeySettings) (state : GatewayState) (token : Jws) : Prop where
  returns : Alone (settings.processEnv env) (settings.verifyAccessToken env token) state
    (.ok (.ok token.jwt.claims)) state
  only : ∀ outcome after, Alone (settings.processEnv env) (settings.verifyAccessToken env token) state outcome after →
    outcome = .ok (.ok token.jwt.claims)

structure SignedAt (env : Env) (rotation : KeyRotation) (deployment : Deployment) (time : Nat) (token : Jws) :
    Prop where
  kid : token.jwt.kid = (deployment.settings rotation).jwtKid
  key : token.privateKey = (deployment.settings rotation).jwtPrivateKey
  iss : token.jwt.claims.iss = env.gatewayBaseUrl
  aud : token.jwt.claims.aud = "platform"
  nbf : token.jwt.claims.nbf = time / 1000
  exp : token.jwt.claims.exp = time / 1000 + env.accessTokenTtlSeconds

section Keys

variable {env : Env} {rotation : KeyRotation} {deployment signer : Deployment} {time : Nat} {token : Jws}

def KeyRotation.oldJwk (rotation : KeyRotation) : JwkWithKid :=
  { key := rotation.oldKey, kid := rotation.oldKid, use := "sig", alg := rotation.algorithm }

def KeyRotation.newJwk (rotation : KeyRotation) : JwkWithKid :=
  { key := rotation.newKey, kid := rotation.newKid, use := "sig", alg := rotation.algorithm }

def Deployment.signingJwk (rotation : KeyRotation) (deployment : Deployment) : JwkWithKid :=
  if deployment.activeOld then rotation.oldJwk else rotation.newJwk

def Deployment.knows (deployment signer : Deployment) : Prop :=
  (signer.activeOld = true → deployment ≠ .retired) ∧ (signer.activeOld = false → deployment ≠ .unrotated)

theorem buildJwksDocument_unrotated :
    (Deployment.unrotated.settings rotation).buildJwksDocument = [rotation.oldJwk] := rfl

theorem buildJwksDocument_prePublished :
    (Deployment.prePublished.settings rotation).buildJwksDocument = [rotation.oldJwk, rotation.newJwk] := by
  have previous : truthy (some rotation.newKid) = some rotation.newKid := truthy_some rotation.newKid_set
  simp [KeySettings.buildJwksDocument, KeySettings.loadSigningKeys, Deployment.settings, previous,
    KeyRotation.oldJwk, KeyRotation.newJwk]

theorem buildJwksDocument_cutOver :
    (Deployment.cutOver.settings rotation).buildJwksDocument = [rotation.newJwk, rotation.oldJwk] := by
  have previous : truthy (some rotation.oldKid) = some rotation.oldKid := truthy_some rotation.oldKid_set
  simp [KeySettings.buildJwksDocument, KeySettings.loadSigningKeys, Deployment.settings, previous,
    KeyRotation.oldJwk, KeyRotation.newJwk]

theorem buildJwksDocument_retired :
    (Deployment.retired.settings rotation).buildJwksDocument = [rotation.newJwk] := rfl

theorem createLocalJWKSet_pair :
    createLocalJWKSet [rotation.oldJwk, rotation.newJwk] rotation.oldKid = some rotation.oldJwk ∧
    createLocalJWKSet [rotation.oldJwk, rotation.newJwk] rotation.newKid = some rotation.newJwk ∧
    createLocalJWKSet [rotation.newJwk, rotation.oldJwk] rotation.oldKid = some rotation.oldJwk ∧
    createLocalJWKSet [rotation.newJwk, rotation.oldJwk] rotation.newKid = some rotation.newJwk := by
  have apart := rotation.distinct
  have apart' := rotation.distinct.symm
  simp [createLocalJWKSet, KeyRotation.oldJwk, KeyRotation.newJwk, apart, apart']

theorem knows_selects (known : deployment.knows signer) :
    createLocalJWKSet (deployment.settings rotation).buildJwksDocument (signer.signingJwk rotation).kid =
      some (signer.signingJwk rotation) := by
  obtain ⟨oldOld, oldNew, newOld, newNew⟩ := @createLocalJWKSet_pair rotation
  unfold Deployment.signingJwk
  cases deployment with
  | unrotated =>
    rw [buildJwksDocument_unrotated]
    cases old : signer.activeOld with
    | true => simp [createLocalJWKSet]
    | false => exact absurd rfl (known.2 old)
  | prePublished =>
    rw [buildJwksDocument_prePublished]
    cases signer.activeOld with
    | true => exact oldOld
    | false => exact oldNew
  | cutOver =>
    rw [buildJwksDocument_cutOver]
    cases signer.activeOld with
    | true => exact newOld
    | false => exact newNew
  | retired =>
    rw [buildJwksDocument_retired]
    cases old : signer.activeOld with
    | true => exact absurd rfl (known.1 old)
    | false => simp [createLocalJWKSet]

theorem signingJwk_of_settings (deployment : Deployment) :
    (deployment.settings rotation).jwtKid = (deployment.signingJwk rotation).kid ∧
      (deployment.settings rotation).jwtPrivateKey = (deployment.signingJwk rotation).key := by
  cases deployment <;> exact ⟨rfl, rfl⟩

theorem presented_signed (signed : SignedAt env rotation signer time token) (known : deployment.knows signer) :
    (deployment.settings rotation).presented token = .signed token.jwt ∧
      token.jwt.kid ∈ (deployment.settings rotation).buildJwksDocument.map (·.kid) := by
  obtain ⟨kid, key⟩ := @signingJwk_of_settings rotation signer
  have selected := @knows_selects rotation deployment signer known
  rw [← kid, ← signed.kid] at selected
  constructor
  · unfold KeySettings.presented
    rw [selected]
    simp [Jws.checkedWith, signed.key, key]
  · unfold createLocalJWKSet at selected
    split at selected
    · rename_i jwk only
      have member : jwk ∈ (deployment.settings rotation).buildJwksDocument.filter fun jwk =>
        jwk.kid = token.jwt.kid := by
        rw [only]
        exact List.mem_singleton.mpr rfl
      obtain ⟨listed, named⟩ := List.mem_filter.mp member
      exact List.mem_map.mpr ⟨jwk, listed, of_decide_eq_true named⟩
    · cases selected

theorem jwtVerify_known {now : Nat} (signed : SignedAt env rotation signer time token) (since : time ≤ now)
    (early : now < acceptedUntil token.jwt.claims) (known : deployment.knows signer) :
    jwtVerify ((deployment.settings rotation).processEnv env) ((deployment.settings rotation).presented token) now =
      .ok token.jwt.claims := by
  obtain ⟨valid, listed⟩ := @presented_signed env rotation deployment signer time token signed known
  have mature : ¬ now / 1000 + clockTolerance < token.jwt.claims.nbf := by
    rw [signed.nbf]
    have order : time / 1000 ≤ now / 1000 := Nat.div_le_div_right since
    omega
  have inside : ¬ token.jwt.claims.exp + clockTolerance ≤ now / 1000 := by
    unfold acceptedUntil at early
    omega
  have iss : token.jwt.claims.iss = ((deployment.settings rotation).processEnv env).gatewayBaseUrl := signed.iss
  have kid : token.jwt.kid ∈ ((deployment.settings rotation).processEnv env).verifyKids := listed
  unfold jwtVerify
  rw [valid]
  simp [kid, iss, signed.aud, mature, inside]

theorem reading_settled (env : Env) (effect : Effect) (choice choice' : Choice) (state : GatewayState)
    (reading : Reading effect) (calm : choice.fault = .none) (calm' : choice'.fault = .none) :
    exec env effect choice state = exec env effect choice' state := by
  unfold exec
  rw [calm, calm']
  cases effect <;> first | rfl | exact reading.elim

theorem accepts_known {state : GatewayState} (signed : SignedAt env rotation signer time token)
    (since : time ≤ state.clock) (early : state.clock < acceptedUntil token.jwt.claims)
    (known : deployment.knows signer)
    (unrevoked : state.redis.get state.clock (.revokedJti token.jwt.claims.jti) = none) :
    Accepts env (deployment.settings rotation) state token := by
  have verified := @jwtVerify_known env rotation deployment signer time token state.clock signed since early known
  have returns : Alone ((deployment.settings rotation).processEnv env)
      ((deployment.settings rotation).verifyAccessToken env token) state (.ok (.ok token.jwt.claims)) state :=
    verifyAccessToken_returns rfl verified unrevoked
  refine ⟨returns, fun outcome after completes => ?_⟩
  exact (returns.unique completes (verifyAccessToken_reading _ _)
    fun effect choice choice' before => reading_settled _ effect choice choice' before).1

theorem signAccessToken_signed {before after : GatewayState} {user : AuthenticatedUser} {choices : List Choice}
    (calm : ∀ choice ∈ choices, choice.fault = .none)
    (evaluated : Program.evaluate (exec ((signer.settings rotation).processEnv env)) choices
      ((signer.settings rotation).signAccessToken env (accessTokenSubject env user)) before = some (.ok token, after)) :
    SignedAt env rotation signer before.clock token ∧ after.clock = before.clock := by
  obtain ⟨signed, middle, signing, rest⟩ := Completes.bind_ok (Completes.of_evaluate calm evaluated)
  obtain ⟨same, rfl⟩ := completes_done.mp rest
  cases same
  obtain ⟨_, loaded, load, rest⟩ := Completes.bind_ok signing
  obtain ⟨choice, responded⟩ := perform_responds load
  cases responded
  obtain ⟨jti, drawn, draw, rest⟩ := Completes.bind_ok rest
  obtain ⟨_, rfl⟩ := randomString_alone draw
  obtain ⟨now, read, reading, rest⟩ := Completes.bind_ok rest
  obtain ⟨rfl, rfl⟩ := dateNow_alone reading
  obtain ⟨same, rfl⟩ := completes_done.mp rest
  cases same
  exact ⟨⟨rfl, rfl, rfl, rfl, rfl, rfl⟩, rfl⟩

end Keys

/-! The invariant of a fleet that follows the runbook -/

def Deployment.Beside (rollout deployment : Deployment) : Prop :=
  match rollout with
  | .unrotated => deployment = .unrotated
  | .prePublished => deployment ≠ .retired
  | .cutOver => deployment = .prePublished ∨ deployment = .cutOver
  | .retired => deployment = .cutOver ∨ deployment = .retired

/-- Where a token comes from, and that its key is not gone too early. -/
structure TokenSound (env : Env) (rotation : KeyRotation) (fleet : Fleet) (token : Jws) (signer : Deployment)
    (time : Nat) : Prop where
  signed : SignedAt env rotation signer time token
  since : time ≤ fleet.platform.clock
  old : signer.activeOld = true → time ≤ fleet.leftOld ∨ ∃ deployment ∈ fleet.replicas, deployment.activeOld = true
  new : signer.activeOld = false → ∀ deployment ∈ fleet.replicas, deployment ≠ .unrotated

structure FleetSound (env : Env) (rotation : KeyRotation) (fleet : Fleet) : Prop where
  beside : ∀ deployment ∈ fleet.replicas, fleet.rollout.Beside deployment
  apart : ∀ deployment ∈ fleet.replicas, deployment.activeOld = false →
    ∀ other ∈ fleet.replicas, other ≠ .unrotated
  waited : fleet.rollout = .retired →
    fleet.leftOld + (env.accessTokenTtlSeconds + 30) * 1000 ≤ fleet.platform.clock
  tokens : ∀ token ∈ fleet.tokens, ∃ signer time, TokenSound env rotation fleet token signer time

section Fleets

variable {env : Env} {rotation : KeyRotation} {fleet after : Fleet}

theorem FleetSound.platform (sound : FleetSound env rotation fleet) {platform : GatewayState}
    (later : fleet.platform.clock ≤ platform.clock) : FleetSound env rotation { fleet with platform := platform } where
  beside := sound.beside
  apart := sound.apart
  waited := fun retired => Nat.le_trans (sound.waited retired) later
  tokens := by
    intro token member
    obtain ⟨signer, time, known⟩ := sound.tokens token member
    exact ⟨signer, time, known.signed, Nat.le_trans known.since later, known.old, known.new⟩

theorem FleetSound.sign (sound : FleetSound env rotation fleet) {token : Jws} {platform : GatewayState}
    {signer : Deployment} (member : signer ∈ fleet.replicas)
    (signed : SignedAt env rotation signer fleet.platform.clock token)
    (clock : platform.clock = fleet.platform.clock) :
    FleetSound env rotation { fleet with platform := platform, tokens := fleet.tokens ++ [token] } where
  beside := sound.beside
  apart := sound.apart
  waited := by
    show fleet.rollout = .retired → _ ≤ platform.clock
    rw [clock]
    exact sound.waited
  tokens := by
    intro other present
    rcases List.mem_append.mp present with earlier | now
    · obtain ⟨signer', time, known⟩ := sound.tokens other earlier
      exact ⟨signer', time, known.signed, Nat.le_trans known.since (Nat.le_of_eq clock.symm), known.old, known.new⟩
    · rw [List.mem_singleton.mp now]
      exact ⟨signer, fleet.platform.clock, signed, Nat.le_of_eq clock.symm, fun old => .inr ⟨signer, member, old⟩,
        fun new => sound.apart signer member new⟩

theorem FleetSound.rollout (sound : FleetSound env rotation fleet) {rollout : Deployment}
    (beside : ∀ deployment ∈ fleet.replicas, rollout.Beside deployment)
    (waited : rollout = .retired →
      fleet.leftOld + (env.accessTokenTtlSeconds + 30) * 1000 ≤ fleet.platform.clock) :
    FleetSound env rotation { fleet with rollout := rollout } where
  beside := beside
  apart := sound.apart
  waited := waited
  tokens := by
    intro token member
    obtain ⟨signer, time, known⟩ := sound.tokens token member
    exact ⟨signer, time, known.signed, known.since, known.old, known.new⟩

theorem Deployment.beside_refl (rollout : Deployment) : rollout.Beside rollout := by
  cases rollout with
  | unrotated => exact rfl
  | prePublished => exact fun same => nomatch same
  | cutOver => exact .inr rfl
  | retired => exact .inr rfl

theorem Deployment.beside_new {rollout deployment : Deployment} (beside : rollout.Beside deployment)
    (new : rollout.activeOld = false) : deployment ≠ .unrotated := by
  cases rollout with
  | unrotated => cases new
  | prePublished => cases new
  | cutOver => rcases beside with rfl | rfl <;> decide
  | retired => rcases beside with rfl | rfl <;> decide

theorem FleetSound.begun (sound : FleetSound env rotation fleet) {deployment : Deployment}
    (member : deployment ∈ fleet.replicas) (other : deployment ≠ .unrotated) : fleet.rollout ≠ .unrotated := by
  intro same
  have beside := sound.beside deployment member
  rw [same] at beside
  exact other beside

theorem mem_set_other {replicas : List Deployment} {replica : Nat} {deployment other rollout : Deployment}
    (found : replicas[replica]? = some deployment) (member : other ∈ replicas) (differs : other ≠ deployment) :
    other ∈ replicas.set replica rollout := by
  obtain ⟨index, there⟩ := List.getElem?_of_mem member
  have apart : replica ≠ index := by
    rintro rfl
    rw [found] at there
    exact differs (Option.some.inj there).symm
  apply List.mem_of_getElem?
  rw [List.getElem?_set_ne apart]
  exact there

theorem FleetSound.restart (sound : FleetSound env rotation fleet) {replica : Nat} {deployment : Deployment}
    (found : fleet.replicas[replica]? = some deployment) :
    FleetSound env rotation { fleet with
      replicas := fleet.replicas.set replica fleet.rollout
      leftOld :=
        if deployment.activeOld && !fleet.rollout.activeOld then fleet.platform.clock else fleet.leftOld } := by
  have member := List.mem_of_getElem? found
  have beside := sound.beside deployment member
  constructor
  · intro other present
    rcases List.mem_or_eq_of_mem_set present with kept | rfl
    · exact sound.beside other kept
    · exact Deployment.beside_refl fleet.rollout
  · intro signing present new other present'
    rcases List.mem_or_eq_of_mem_set present' with kept' | rfl
    · rcases List.mem_or_eq_of_mem_set present with kept | rfl
      · exact sound.apart signing kept new other kept'
      · exact Deployment.beside_new (sound.beside other kept') new
    · rcases List.mem_or_eq_of_mem_set present with kept | rfl
      · apply sound.begun kept
        rintro rfl
        cases new
      · intro same
        rw [same] at new
        cases new
  · intro retired
    have stays : deployment.activeOld = false := by
      simp only at retired
      rw [retired] at beside
      rcases beside with rfl | rfl <;> rfl
    simp only [stays, Bool.false_and, Bool.false_eq_true, if_false]
    exact sound.waited retired
  · intro token present
    obtain ⟨signer, time, known⟩ := sound.tokens token present
    refine ⟨signer, time, known.signed, known.since, fun old => ?_, fun new other present' => ?_⟩
    · by_cases leaves : (deployment.activeOld && !fleet.rollout.activeOld) = true
      · left
        simp only [leaves, if_true]
        exact known.since
      · simp only [leaves, Bool.false_eq_true, if_false]
        rcases known.old old with gone | ⟨other, there, active⟩
        · exact .inl gone
        right
        by_cases rolled : fleet.rollout.activeOld = true
        · exact ⟨fleet.rollout, List.mem_set (List.getElem?_eq_some_iff.mp found).1 _, rolled⟩
        · refine ⟨other, mem_set_other found there ?_, active⟩
          rintro rfl
          simp [active, rolled] at leaves
    · rcases List.mem_or_eq_of_mem_set present' with kept | rfl
      · exact known.new new other kept
      · exact sound.begun member (known.new new deployment member)

theorem FleetSound.next (sound : FleetSound env rotation fleet) {label : FleetLabel}
    (moved : fleet.next env rotation label = some after) : FleetSound env rotation after := by
  cases label with
  | elapse ms =>
    cases moved
    exact sound.platform (Nat.le_add_right _ _)
  | serve effect choice =>
    obtain ⟨⟨reply, platform⟩, executed, rfl⟩ := Option.map_eq_some_iff.mp moved
    have step : TableStep fleet.platform platform effect := exec_tableStep executed
    exact sound.platform step.grows.clock
  | sign replica user jti =>
    simp only [Fleet.next] at moved
    split at moved
    · cases moved
    rename_i deployment found
    split at moved
    · rename_i token platform evaluated
      cases moved
      have calm : ∀ choice ∈ [({} : Choice), { random := jti }, {}], choice.fault = .none := by simp
      obtain ⟨signed, clock⟩ := signAccessToken_signed calm evaluated
      exact sound.sign (List.mem_of_getElem? found) signed clock
    · cases moved
  | restart replica =>
    simp only [Fleet.next] at moved
    split at moved
    · cases moved
    rename_i deployment found
    cases moved
    exact sound.restart found
  | prePublish =>
    simp only [Fleet.next] at moved
    split at moved
    · rename_i complete
      cases moved
      refine sound.rollout (fun deployment member => ?_) nofun
      rw [complete.2 deployment member]
      exact fun same => nomatch same
    · cases moved
  | cutOver =>
    simp only [Fleet.next] at moved
    split at moved
    · rename_i complete
      cases moved
      exact sound.rollout (fun deployment member => .inl (complete.2 deployment member)) nofun
    · cases moved
  | rollBack =>
    simp only [Fleet.next] at moved
    split at moved
    · rename_i cutting
      cases moved
      refine sound.rollout (fun deployment member => ?_) nofun
      have beside := sound.beside deployment member
      rw [cutting] at beside
      rcases beside with rfl | rfl <;> exact fun same => nomatch same
    · cases moved
  | retire =>
    simp only [Fleet.next] at moved
    split at moved
    · rename_i complete
      cases moved
      exact sound.rollout (fun deployment member => .inl (complete.2.1 deployment member)) fun _ => complete.2.2
    · cases moved

theorem fleets_sound (reachable : (fleets env rotation).Reachable fleet) : FleetSound env rotation fleet := by
  refine reachable.invariant ?_ fun before label after sound moved => sound.next moved
  rintro start ⟨rollout, replicas, none⟩
  constructor
  · intro deployment member
    rw [rollout]
    exact replicas deployment member
  · intro deployment member new
    rw [replicas deployment member] at new
    cases new
  · intro retired
    rw [rollout] at retired
    cases retired
  · intro token member
    rw [none] at member
    cases member

theorem FleetSound.knows (sound : FleetSound env rotation fleet) {token : Jws} {signer deployment : Deployment}
    {time : Nat} (known : TokenSound env rotation fleet token signer time) (member : deployment ∈ fleet.replicas)
    (early : fleet.platform.clock < acceptedUntil token.jwt.claims) : deployment.knows signer := by
  constructor
  · rintro old rfl
    -- the old key is retired only after the last token that it has signed
    have retiring : fleet.rollout = .retired := by
      have beside := sound.beside _ member
      cases rollout : fleet.rollout with
      | unrotated => rw [rollout] at beside; cases beside
      | prePublished => rw [rollout] at beside; exact absurd rfl beside
      | cutOver => rw [rollout] at beside; rcases beside with same | same <;> cases same
      | retired => rfl
    have waited := sound.waited retiring
    have signedBy : time ≤ fleet.leftOld := by
      rcases known.old old with gone | ⟨other, there, active⟩
      · exact gone
      · have beside := sound.beside other there
        rw [retiring] at beside
        rcases beside with rfl | rfl <;> cases active
    unfold acceptedUntil clockTolerance at early
    rw [known.signed.exp] at early
    omega
  · intro new
    exact known.new new deployment member

/-- Zero-downtime rotation: in every fleet that follows the runbook, every replica accepts every token that
    any replica has signed until 30 seconds after its `exp`, unless it is revoked. -/
theorem rotation_zero_downtime (env : Env) (rotation : KeyRotation) (fleet : Fleet)
    (reachable : (fleets env rotation).Reachable fleet) (token : Jws) (signed : token ∈ fleet.tokens)
    (deployment : Deployment) (replica : deployment ∈ fleet.replicas)
    (early : fleet.platform.clock < acceptedUntil token.jwt.claims)
    (unrevoked : fleet.platform.redis.get fleet.platform.clock (.revokedJti token.jwt.claims.jti) = none) :
    Accepts env (deployment.settings rotation) fleet.platform token := by
  have sound := fleets_sound reachable
  obtain ⟨signer, time, known⟩ := sound.tokens token signed
  exact accepts_known known.signed known.since early (sound.knows known replica early) unrevoked

end Fleets

def sampleRotation : KeyRotation where
  algorithm := "RS256"
  oldKid := "kid-1"
  oldKey := "old key pair"
  newKid := "kid-2"
  newKey := "new key pair"
  distinct := by decide
  oldKid_set := by decide
  newKid_set := by decide

def signedInUser : AuthenticatedUser where
  id := "u"
  email := "u@example.com"
  roles := ["viewer"]
  tenantId := none
  isActive := true

def newFleet : Fleet where
  platform := { clock := 0, users := [], refreshTokens := [], redis := [], auditLog := [], drawn := [] }
  replicas := [.unrotated, .unrotated]
  rollout := .unrotated
  leftOld := 0
  tokens := []

/-- A token is signed before the rotation, and one by the first replica that signs with the new key. -/
def halfCutOver : List FleetLabel :=
  [.sign 0 signedInUser "j0", .prePublish, .restart 1, .restart 0, .elapse 60000, .cutOver, .restart 0,
    .sign 0 signedInUser "j1"]

theorem mixed_fleet_accepts : ∃ fleet, (fleets sampleEnv sampleRotation).Reachable fleet ∧
    fleet.replicas = [.cutOver, .prePublished] ∧ fleet.tokens.map (·.jwt.kid) = ["kid-1", "kid-2"] ∧
    ∀ token ∈ fleet.tokens, ∀ deployment ∈ fleet.replicas,
      Accepts sampleEnv (deployment.settings sampleRotation) fleet.platform token := by
  have passed : (Refinement.follow (Fleet.next sampleEnv sampleRotation) halfCutOver newFleet).any (fun fleet =>
      decide (fleet.replicas = [.cutOver, .prePublished]) &&
      decide (fleet.tokens.map (·.jwt.kid) = ["kid-1", "kid-2"]) &&
      decide (∀ token ∈ fleet.tokens, fleet.platform.clock < acceptedUntil token.jwt.claims ∧
        fleet.platform.redis.get fleet.platform.clock (.revokedJti token.jwt.claims.jti) = none)) = true := by
    decide +kernel
  obtain ⟨fleet, ran, checked⟩ := (Option.any_eq_true _ _).mp passed
  simp only [Bool.and_eq_true, decide_eq_true_eq] at checked
  obtain ⟨⟨replicas, kids⟩, live⟩ := checked
  have start : (fleets sampleEnv sampleRotation).start newFleet := ⟨rfl, by decide, rfl⟩
  have reachable : (fleets sampleEnv sampleRotation).Reachable fleet :=
    ⟨newFleet, halfCutOver, start, Refinement.Machine.Runs.of_follow (fun _ _ _ moved => moved) ran⟩
  exact ⟨fleet, reachable, replicas, kids, fun token signed deployment replica =>
    rotation_zero_downtime sampleEnv sampleRotation fleet reachable token signed deployment replica
      (live token signed).1 (live token signed).2⟩

end GatewayProof
