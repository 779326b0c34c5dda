import AppGateway.Handlers.Protocol

namespace GatewayProof

open Async GatewayModel

/-- Effects that write no key of Redis but those of the refresh token mirror, and wait for no timer. -/
def Routine : Effect → Prop
  | .redisSet (.revokedRefresh _) .flag _ => True
  | .redisSet .. | .redisSetNx .. | .redisDel _ | .sleepUntil _ => False
  | _ => True

theorem Incidental.routine {effect : Effect} (incidental : Incidental effect) : Routine effect := by
  cases effect with
  | redisSet key value ttl => cases key <;> cases value <;> exact incidental
  | _ => trivial

theorem Revokes.routine {effect : Effect} (revokes : Revokes effect) : Routine effect := by
  cases effect with
  | redisSet key value ttl => exact (Mirrors.incidental revokes).routine
  | _ => trivial

theorem RotatePermits.routine {tokenHash : String} {past : List SessionEvent} {effect : Effect}
    (permit : RotatePermits tokenHash past effect) : Routine effect := by
  cases effect with
  | redisSet key value ttl => exact Incidental.routine permit
  | _ => trivial

theorem Passive.routine {effect : Effect} (passive : Passive effect) : Routine effect := by
  cases effect <;> trivial

theorem Issuing.routine {effect : Effect} (issuing : Issuing effect) : Routine effect := by
  cases effect <;> trivial

theorem Marks.routine {effect : Effect} (marks : Marks effect) : Routine effect := by
  cases effect <;> trivial

section Uses

variable (env : Env)

theorem writeAuditEvent_routine (entry : AuditLogEntry) : (writeAuditEvent entry).Uses Routine :=
  (writeAuditEvent_uses entry).weaken fun _ audits => audits.incidental.routine

theorem signAccessToken_routine (subject : AccessTokenSubject) : (signAccessToken env subject).Uses Routine :=
  (signAccessToken_passive env subject).weaken fun _ passive => passive.routine

theorem issueRefreshToken_routine (userId : String) (metadata : RefreshTokenMetadata)
    (sessionFamily : Option String) : (issueRefreshToken env userId metadata sessionFamily).Uses Routine :=
  (issueRefreshToken_uses userId metadata sessionFamily).weaken fun _ issuing => issuing.routine

theorem replaceToken_routine (tokenHash : String) (row : RefreshTokenRow) (metadata : RefreshTokenMetadata) :
    (replaceToken env tokenHash row metadata).Uses Routine := by
  have mirrors := (cacheRefreshTokenRevocation_uses tokenHash row.expiresAt).weaken fun _ mirrors =>
    mirrors.incidental.routine
  exact Program.Uses.bind (perform_uses trivial) fun _ => Program.Uses.bind (perform_uses trivial) fun _ =>
    mirrors.bind fun _ => (issueRefreshToken_routine env _ _ _).bind fun _ => trivial

theorem rotateRefreshToken_routine (plaintextToken : String) (metadata : RefreshTokenMetadata) :
    (rotateRefreshToken env plaintextToken metadata).Uses Routine :=
  (rotateRefreshToken_obeys env plaintextToken metadata).uses fun _ _ permit => permit.routine

theorem login_routine (client : Client) (email password : String) :
    (login env client email password).Uses Routine := by
  have refuse : ∀ entry error,
      (writeAuditEvent entry >>= fun _ => pure (.failed error) : Gateway Answer).Uses Routine :=
    fun entry _ => (writeAuditEvent_routine entry).bind fun _ => trivial
  refine ((findUserByEmail_passive env email).weaken fun _ passive => passive.routine).bind fun found => ?_
  rcases found with _ | ⟨user, passwordHash⟩
  · exact refuse _ _
  simp only
  split
  · split
    · exact refuse _ _
    · have marks := (markLastLogin_uses user.id).weaken fun _ marks => marks.routine
      exact (signAccessToken_routine env _).bind fun _ => (issueRefreshToken_routine env _ _ _).bind fun _ =>
        marks.bind fun _ => (writeAuditEvent_routine _).bind fun _ => trivial
  · exact refuse _ _

theorem revokeForLogout_routine (sub : String) (refreshToken : Option String) :
    (revokeForLogout env sub refreshToken).Uses Routine :=
  (revokeForLogout_uses env sub refreshToken).weaken fun _ revokes => revokes.routine

theorem auditRefusal_routine (error : AppError) : (auditRefusal error).Uses Routine :=
  (auditRefusal_uses error).weaken fun _ audits => audits.incidental.routine

end Uses

section Allowed

variable {allows : Effect → Prop} (routine : ∀ effect, Routine effect → allows effect)
include routine

theorem rotateAndAnswer_uses (env : Env) (refreshToken : String) (metadata : RefreshTokenMetadata)
    (presentedTokenHash : String) (claimed : Option String) (claims : ∀ key, claimed = some key →
      allows (.redisDel (.idempotencyRefresh key)) ∧
      ∀ result ttl, allows (.redisSet (.idempotencyRefresh key) (.slot (.done result)) ttl)) :
    (rotateAndAnswer env refreshToken metadata presentedTokenHash claimed).Uses allows := by
  have release : (releaseClaim claimed).Uses allows := releaseClaim_uses fun key owned => (claims key owned).1
  have complete : ∀ result, (completeClaim claimed result).Uses allows :=
    fun result => completeClaim_uses fun key owned ttl => (claims key owned).2 _ ttl
  refine ((rotateRefreshToken_routine env refreshToken metadata).weaken routine).bind fun rotation => ?_
  rcases rotation with error | rotated
  · exact release.bind fun _ => ((auditRefusal_routine error).weaken routine).bind fun _ => trivial
  · have reads := (findUserById_passive rotated.userId).weaken fun effect passive => routine effect passive.routine
    refine reads.bind fun found => ?_
    rcases found with _ | user
    · trivial
    · exact ((signAccessToken_routine env _).weaken routine).bind fun _ =>
        ((writeAuditEvent_routine _).weaken routine).bind fun _ => (complete _).bind fun _ => trivial

/-- The only slot a request may touch is that of its own key. -/
theorem refresh_uses (env : Env) (client : Client) (refreshToken : String) (idempotencyKey : Option String)
    (waits : ∀ wakeAt, allows (.sleepUntil wakeAt)) (claims : ∀ key, truthy idempotencyKey = some key →
      (∀ ttl, allows (.redisSetNx (.idempotencyRefresh key) (.slot .pending) ttl)) ∧
      allows (.redisDel (.idempotencyRefresh key)) ∧
      ∀ result ttl, allows (.redisSet (.idempotencyRefresh key) (.slot (.done result)) ttl)) :
    (refresh env client refreshToken idempotencyKey).Uses allows := by
  have unowned := rotateAndAnswer_uses routine env refreshToken (requestMeta client)
    (hashRefreshToken env refreshToken) none nofun
  unfold refresh
  simp only
  split
  · exact unowned
  · rename_i key given
    obtain ⟨claim, owned⟩ := claims key given
    refine Program.Uses.bind (perform_uses (claim _)) fun owns => ?_
    split
    · refine rotateAndAnswer_uses routine env _ _ _ _ fun other same => ?_
      cases same
      exact owned
    · have polls : ∀ effect, Polls effect → allows effect := by
        intro effect polls
        cases effect <;> first | exact waits _ | exact routine _ (Passive.routine polls)
      refine ((pollIdempotentResult_uses _ _ _).weaken polls).bind fun waited => ?_
      rcases waited with _ | result
      · exact unowned
      · trivial

theorem logout_uses (env : Env) (bearer : Option PresentedToken) (refreshToken : Option String)
    (lists : ∀ jti ttl, allows (.redisSet (.revokedJti jti) .flag ttl)) :
    (logout env bearer refreshToken).Uses allows := by
  have verifies := (requireAccessToken_passive env bearer).weaken fun effect passive => routine effect passive.routine
  refine verifies.bind fun verified => ?_
  rcases verified with error | auth
  · trivial
  have lists : (revokeToken auth.jti (auth.exp * 1000)).Uses allows := by
    refine (revokeToken_uses _ _).weaken fun effect listed => ?_
    cases effect with
    | redisSet key value ttl => cases key <;> cases value <;> first | exact lists _ _ | exact listed.elim
    | _ => first | exact routine _ trivial | exact listed.elim
  exact lists.bind fun _ => ((revokeForLogout_routine env _ _).weaken routine).bind fun _ =>
    ((writeAuditEvent_routine _).weaken routine).bind fun _ => trivial

end Allowed

end GatewayProof
