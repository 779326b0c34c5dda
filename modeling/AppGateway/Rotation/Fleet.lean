import AppGateway.Async.Execution
import AppGateway.Model.SigningKeys
import AppGateway.Refinement.Simulation

namespace GatewayProof

open Async GatewayModel

structure KeyRotation where
  algorithm : String
  oldKid : String
  oldKey : String
  newKid : String
  newKey : String
  distinct : oldKid ≠ newKid
  oldKid_set : oldKid ≠ ""
  newKid_set : newKid ≠ ""

/-- The configurations of the runbook, in the order in which they are deployed. -/
inductive Deployment where
  | unrotated | prePublished | cutOver | retired
deriving DecidableEq, Repr

theorem truthy_some {text : String} (set : text ≠ "") : truthy (some text) = some text := by
  simp [truthy, Option.filter_some, set]

def Deployment.settings (rotation : KeyRotation) : Deployment → KeySettings
  | .unrotated =>
    { jwtAlgorithm := rotation.algorithm
      jwtKid := rotation.oldKid, jwtPrivateKey := rotation.oldKey, jwtPublicKey := rotation.oldKey
      jwtPreviousKid := none, jwtPreviousPublicKey := none
      kid_set := rotation.oldKid_set, previous_together := rfl }
  | .prePublished =>
    { jwtAlgorithm := rotation.algorithm
      jwtKid := rotation.oldKid, jwtPrivateKey := rotation.oldKey, jwtPublicKey := rotation.oldKey
      jwtPreviousKid := some rotation.newKid, jwtPreviousPublicKey := some rotation.newKey
      kid_set := rotation.oldKid_set, previous_together := by rw [truthy_some rotation.newKid_set]; rfl }
  | .cutOver =>
    { jwtAlgorithm := rotation.algorithm
      jwtKid := rotation.newKid, jwtPrivateKey := rotation.newKey, jwtPublicKey := rotation.newKey
      jwtPreviousKid := some rotation.oldKid, jwtPreviousPublicKey := some rotation.oldKey
      kid_set := rotation.newKid_set, previous_together := by rw [truthy_some rotation.oldKid_set]; rfl }
  | .retired =>
    { jwtAlgorithm := rotation.algorithm
      jwtKid := rotation.newKid, jwtPrivateKey := rotation.newKey, jwtPublicKey := rotation.newKey
      jwtPreviousKid := none, jwtPreviousPublicKey := none
      kid_set := rotation.newKid_set, previous_together := rfl }

def Deployment.activeOld : Deployment → Bool
  | .unrotated | .prePublished => true
  | .cutOver | .retired => false

structure Fleet where
  platform : GatewayState
  replicas : List Deployment
  rollout : Deployment
  leftOld : Nat
  tokens : List Jws

inductive FleetLabel where
  | elapse (ms : Nat)
  | serve (effect : Effect) (choice : Choice)
  | sign (replica : Nat) (user : AuthenticatedUser) (jti : String)
  | restart (replica : Nat)
  | prePublish
  | cutOver
  | rollBack
  | retire

variable (env : Env) (rotation : KeyRotation)

/-- One step of the fleet. A restarted replica has the configuration that is being rolled out. -/
def Fleet.next (fleet : Fleet) : FleetLabel → Option Fleet
  | .elapse ms => some { fleet with platform := external (.elapse ms) fleet.platform }
  | .serve effect choice => (exec env effect choice fleet.platform).map fun (_, platform) => { fleet with platform }
  | .sign replica user jti =>
    match fleet.replicas[replica]? with
    | none => none
    | some deployment =>
      let settings := deployment.settings rotation
      match Program.evaluate (exec (settings.processEnv env)) [{}, { random := jti }, {}]
        (settings.signAccessToken env (accessTokenSubject env user)) fleet.platform with
      | some (.ok token, platform) => some { fleet with platform, tokens := fleet.tokens ++ [token] }
      | _ => none
  | .restart replica =>
    match fleet.replicas[replica]? with
    | none => none
    | some deployment =>
      some { fleet with
        replicas := fleet.replicas.set replica fleet.rollout
        leftOld := if deployment.activeOld && !fleet.rollout.activeOld then fleet.platform.clock else fleet.leftOld }
  | .prePublish =>
    if fleet.rollout = .unrotated ∧ ∀ deployment ∈ fleet.replicas, deployment = .unrotated then
      some { fleet with rollout := .prePublished }
    else none
  | .cutOver =>
    if fleet.rollout = .prePublished ∧ ∀ deployment ∈ fleet.replicas, deployment = .prePublished then
      some { fleet with rollout := .cutOver }
    else none
  | .rollBack => if fleet.rollout = .cutOver then some { fleet with rollout := .prePublished } else none
  | .retire =>
    if fleet.rollout = .cutOver ∧ (∀ deployment ∈ fleet.replicas, deployment = .cutOver) ∧
        fleet.leftOld + (env.accessTokenTtlSeconds + 30) * 1000 ≤ fleet.platform.clock then
      some { fleet with rollout := .retired }
    else none

def fleets : Refinement.Machine Fleet FleetLabel where
  start fleet := fleet.rollout = .unrotated ∧ (∀ deployment ∈ fleet.replicas, deployment = .unrotated) ∧
    fleet.tokens = []
  step before label after := before.next env rotation label = some after

end GatewayProof
