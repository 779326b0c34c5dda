import AppGateway.Sessions.Histories

namespace GatewayProof

open Async GatewayModel
open Async.System (Modular)

inductive SessionCall where
  | issue (userId : String) (metadata : RefreshTokenMetadata)
  | rotate (plaintextToken : String) (metadata : RefreshTokenMetadata)
  | revokeFamily (sessionFamily reason : String)
  | revokeByHash (tokenHash reason : String)
  | revokeMostRecent (userId reason : String)
deriving DecidableEq, Repr

inductive SessionResult where
  | issued (token : IssuedRefreshToken)
  | rotated (result : Except AppError RotationResult)
  | revoked

def SessionCall.code (env : Env) : SessionCall → Gateway SessionResult
  | .issue userId metadata => do
    let token ← issueRefreshToken env userId metadata none
    return .issued token
  | .rotate plaintextToken metadata => do
    let result ← rotateRefreshToken env plaintextToken metadata
    return .rotated result
  | .revokeFamily sessionFamily reason => do
    revokeSessionFamily sessionFamily reason
    return .revoked
  | .revokeByHash tokenHash reason => do
    revokeRefreshTokenByHash tokenHash reason
    return .revoked
  | .revokeMostRecent userId reason => do
    revokeMostRecentRefreshTokenForUser userId reason
    return .revoked

abbrev sessions (env : Env) := processes env (SessionCall.code env)

abbrev SessionThread := GatewayThread SessionCall SessionResult
abbrev SessionConfig := GatewayConfig SessionCall SessionResult
abbrev SessionLabel := GatewayLabel SessionCall

def Revoking : Effect → Prop
  | .insertRefreshToken _ => False
  | _ => True

theorem Incidental.revoking {effect : Effect} (incidental : Incidental effect) : Revoking effect := by
  cases effect <;> trivial

theorem Revokes.revoking {effect : Effect} (revokes : Revokes effect) : Revoking effect := by
  cases effect <;> trivial

/-- What `issueRefreshToken` without a family may do: insert one row, in a family it has drawn. -/
def IssuePermits (past : List SessionEvent) : Effect → Prop
  | .insertRefreshToken values =>
    (∀ other, ¬ Sent past other) ∧ FamilyFrom past none values.sessionFamily
  | effect => Incidental effect

def SessionCall.Permits (env : Env) : SessionCall → List SessionEvent → Effect → Prop
  | .issue _ _ => IssuePermits
  | .rotate plaintextToken _ => RotatePermits (env.sha256Hex plaintextToken)
  | .revokeFamily .. | .revokeByHash .. | .revokeMostRecent .. => fun _ effect => Revoking effect

def SessionCall.Ends (env : Env) : SessionCall → List SessionEvent → Except Thrown SessionResult → Prop
  | .rotate plaintextToken _, past, .ok (.rotated result) =>
    RotateEnds env (env.sha256Hex plaintextToken) past (.ok result)
  | .rotate _ _, _, .ok _ => False
  | _, _, _ => True

theorem IssuePermits.incidental {past : List SessionEvent} {effect : Effect}
    (incidental : Incidental effect) : IssuePermits past effect := by
  cases effect <;> first | exact incidental | exact incidental.elim

theorem issueRefreshToken_new_obeys (env : Env) (userId : String) (metadata : RefreshTokenMetadata) :
    (issueRefreshToken env userId metadata none).Obeys IssuePermits
      (IssueEnds env userId none) [] := by
  rw [issueRefreshToken_new]
  refine ⟨trivial, fun drawn => ?_⟩
  rcases drawn with thrown | family
  · trivial
  have seen : FamilyFrom ([] ++ [⟨.randomString, .ok family⟩]) none family := List.mem_singleton.mpr rfl
  have unsent : ∀ values, ¬ Sent ([] ++ [⟨.randomString, .ok family⟩]) values :=
    fun values sent => by simp [Sent] at sent
  refine (issueRefreshToken_family_obeys userId metadata family
    (fun _ _ _ incidental => IssuePermits.incidental incidental) ?_).weaken (fun _ _ permit => permit) ?_
  · intro events values only _ same
    subst same
    exact ⟨fun other sent => unsent other (sent_append (fun event member => (only event member).not_insert) sent),
      seen.grow (by simp)⟩
  · rintro whole outcome ⟨grown, ended⟩
    rcases outcome with thrown | issued
    · trivial
    · obtain ⟨values, inserted, hash, user, same, drew⟩ := ended
      refine ⟨values, inserted, hash, user, ?_, drew⟩
      obtain rfl : values.sessionFamily = family := same
      exact seen.grow grown

theorem SessionCall.code_obeys (env : Env) (call : SessionCall) :
    (call.code env).Obeys (call.Permits env) (call.Ends env) [] := by
  have revoking : ∀ {program : Gateway Unit}, program.Uses Revokes →
      (program >>= fun _ => pure SessionResult.revoked).Obeys (fun _ effect => Revoking effect)
        (fun _ _ => True) [] := by
    intro program uses
    have whole : (program >>= fun _ => pure SessionResult.revoked).Uses Revoking :=
      (uses.weaken fun _ revokes => revokes.revoking).bind fun _ => trivial
    exact (whole.obeys fun _ _ allowed => allowed).weaken (fun _ _ permit => permit) fun _ _ _ => trivial
  cases call with
  | issue userId metadata =>
    exact (issueRefreshToken_new_obeys env userId metadata).bind (fun _ _ _ => trivial)
      fun _ _ _ => trivial
  | rotate plaintextToken metadata =>
    exact (rotateRefreshToken_obeys env plaintextToken metadata).bind (fun _ _ _ => trivial)
      fun _ _ ended => ended
  | revokeFamily sessionFamily reason => exact revoking (revokeSessionFamily_uses _ _)
  | revokeByHash tokenHash reason => exact revoking (revokeRefreshTokenByHash_uses _ _)
  | revokeMostRecent userId reason => exact revoking (revokeMostRecentRefreshTokenForUser_uses _ _)

abbrev SessionHolds (env : Env) : GatewayState → SessionThread → Prop :=
  ProcessHolds (SessionCall.Permits env) (SessionCall.Ends env)

abbrev SessionsValid (env : Env) : SessionConfig → Prop := Modular.Holds TableValid (SessionHolds env)

abbrev SessionsReachable (env : Env) := Reachable env (SessionCall.code env)

theorem Reachable.valid {env : Env} {allowed : SessionConfig → SessionLabel → Prop}
    {config : SessionConfig} (reachable : SessionsReachable env allowed config) : SessionsValid env config :=
  reachable.holds (SessionCall.code_obeys env)

end GatewayProof
