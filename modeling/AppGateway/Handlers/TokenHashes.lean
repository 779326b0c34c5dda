import AppGateway.Handlers.Deactivation
import AppGateway.Sessions.Calls

namespace GatewayProof

open Async GatewayModel
open Async.System (Disciplined Modular advance_cases)

def HashesDrawn (env : Env) (past : List SessionEvent) : Effect → Prop
  | .insertRefreshToken values => ∃ plaintext, Drew past plaintext ∧ values.tokenHash = env.sha256Hex plaintext
  | _ => True

def RowsHashed (env : Env) (state : GatewayState) : Prop :=
  ∀ row ∈ state.refreshTokens, ∃ plaintext ∈ state.drawn, row.tokenHash = env.sha256Hex plaintext

theorem Passive.revoking {effect : Effect} (passive : Passive effect) : Revoking effect := by
  cases effect <;> trivial

theorem Polls.revoking {effect : Effect} (polls : Polls effect) : Revoking effect := by
  cases effect <;> trivial

theorem Marks.revoking {effect : Effect} (marks : Marks effect) : Revoking effect := by
  cases effect <;> trivial

theorem ListsJti.revoking {effect : Effect} (lists : ListsJti effect) : Revoking effect := by
  cases effect <;> trivial

section Rules

variable {env : Env} {past : List SessionEvent}

theorem HashesDrawn.of_revoking {effect : Effect} (revoking : Revoking effect) : HashesDrawn env past effect := by
  cases effect <;> trivial

theorem revoking_hashes {α : Type} {program : Gateway α} (uses : program.Uses Revoking) :
    program.Obeys (HashesDrawn env) (fun _ _ => True) past :=
  (uses.obeys fun _ _ revoking => HashesDrawn.of_revoking revoking).weaken (fun _ _ permit => permit) fun _ _ _ =>
  trivial

theorem hashes_bind {α β : Type} {program : Gateway α} {next : α → Gateway β}
    (first : program.Obeys (HashesDrawn env) (fun _ _ => True) past)
    (rest : ∀ value whole, (next value).Obeys (HashesDrawn env) (fun _ _ => True) whole) :
    (program >>= next).Obeys (HashesDrawn env) (fun _ _ => True) past :=
  first.bind (fun _ _ _ => trivial) fun whole value _ => rest value whole

theorem issueRefreshToken_family_hashes (userId : String) (metadata : RefreshTokenMetadata) (family : String) :
    (issueRefreshToken env userId metadata (some family)).Obeys (HashesDrawn env) (fun _ _ => True) past := by
  refine ⟨trivial, fun drawn => ?_⟩
  rcases drawn with thrown | plaintext
  · trivial
  refine ⟨trivial, fun clock => ?_⟩
  rcases clock with thrown | now
  · trivial
  refine ⟨⟨plaintext, by simp [Drew], rfl⟩, fun stored => ?_⟩
  cases stored <;> trivial

theorem issueRefreshToken_hashes (userId : String) (metadata : RefreshTokenMetadata) (family : Option String) :
    (issueRefreshToken env userId metadata family).Obeys (HashesDrawn env) (fun _ _ => True) past := by
  cases family with
  | some family => exact issueRefreshToken_family_hashes userId metadata family
  | none =>
    rw [issueRefreshToken_new]
    exact hashes_bind (revoking_hashes (perform_uses trivial)) fun family _ =>
      issueRefreshToken_family_hashes userId metadata family

theorem writeAuditEvent_revoking (entry : AuditLogEntry) : (writeAuditEvent entry).Uses Revoking :=
  (writeAuditEvent_incidental entry).weaken fun _ incidental => incidental.revoking

theorem rotateRefreshToken_hashes (plaintextToken : String) (metadata : RefreshTokenMetadata) :
    (rotateRefreshToken env plaintextToken metadata).Obeys (HashesDrawn env) (fun _ _ => True) past := by
  refine hashes_bind (revoking_hashes (perform_uses trivial)) fun found _ => ?_
  rcases found with _ | row
  · trivial
  simp only
  split
  · have closes := (revokeSessionFamily_uses row.sessionFamily "reuse_detected").weaken fun _ revokes =>
      revokes.revoking
    refine hashes_bind (revoking_hashes closes) fun _ _ => ?_
    exact hashes_bind (revoking_hashes (writeAuditEvent_revoking _)) fun _ _ => trivial
  refine hashes_bind (revoking_hashes (perform_uses trivial)) fun now _ => ?_
  split
  · trivial
  refine hashes_bind (revoking_hashes (perform_uses trivial)) fun revokedAt _ => ?_
  refine hashes_bind (revoking_hashes (perform_uses trivial)) fun _ _ => ?_
  have mirrors := (cacheRefreshTokenRevocation_incidental (hashRefreshToken env plaintextToken) row.expiresAt).weaken
    fun _ incidental => incidental.revoking
  refine hashes_bind (revoking_hashes mirrors) fun _ _ => ?_
  exact hashes_bind (issueRefreshToken_hashes _ _ _) fun _ _ => trivial

theorem rotateAndAnswer_hashes (refreshToken presentedTokenHash : String) (metadata : RefreshTokenMetadata)
    (claimed : Option String) :
    (rotateAndAnswer env refreshToken metadata presentedTokenHash claimed).Obeys (HashesDrawn env)
      (fun _ _ => True) past := by
  refine hashes_bind (rotateRefreshToken_hashes _ _) fun rotation _ => ?_
  rcases rotation with error | rotated
  · have releases : (releaseClaim claimed).Uses Revoking := releaseClaim_uses fun _ _ => trivial
    have audits := (auditRefusal_uses error).weaken fun _ audits => audits.incidental.revoking
    refine hashes_bind (revoking_hashes releases) fun _ _ => ?_
    exact hashes_bind (revoking_hashes audits) fun _ _ => trivial
  have finds := (findUserById_passive rotated.userId).weaken fun _ passive => passive.revoking
  refine hashes_bind (revoking_hashes finds) fun found _ => ?_
  rcases found with _ | user
  · trivial
  have signs := (signAccessToken_passive env (accessTokenSubject env user)).weaken fun _ passive => passive.revoking
  refine hashes_bind (revoking_hashes signs) fun signed _ => ?_
  refine hashes_bind (revoking_hashes (writeAuditEvent_revoking _)) fun _ _ => ?_
  have completes : (completeClaim claimed ⟨user.id, signed.token, rotated.issued.plaintext, presentedTokenHash⟩).Uses
      Revoking := completeClaim_uses fun _ _ _ => trivial
  exact hashes_bind (revoking_hashes completes) fun _ _ => trivial

theorem refresh_hashes (client : Client) (refreshToken : String) (idempotencyKey : Option String) :
    (refresh env client refreshToken idempotencyKey).Obeys (HashesDrawn env) (fun _ _ => True) past := by
  unfold refresh
  simp only
  split
  · exact rotateAndAnswer_hashes _ _ _ _
  rename_i key _
  refine hashes_bind (revoking_hashes (perform_uses trivial)) fun owned _ => ?_
  split
  · exact rotateAndAnswer_hashes _ _ _ _
  have waits := (pollIdempotentResult_uses key (hashRefreshToken env refreshToken)
    idempotencyClaimWaitAttempts).weaken fun _ polls => polls.revoking
  refine hashes_bind (revoking_hashes waits) fun waited _ => ?_
  cases waited with
  | none => exact rotateAndAnswer_hashes _ _ _ _
  | some result => trivial

theorem login_hashes (client : Client) (email password : String) :
    (login env client email password).Obeys (HashesDrawn env) (fun _ _ => True) past := by
  have refuse : ∀ before entry error,
      (writeAuditEvent entry >>= fun _ => pure (.failed error) : Gateway Answer).Obeys (HashesDrawn env)
        (fun _ _ => True) before :=
    fun _ _ _ => hashes_bind (revoking_hashes (writeAuditEvent_revoking _)) fun _ _ => trivial
  have finds := (findUserByEmail_passive env email).weaken fun _ passive => passive.revoking
  refine hashes_bind (revoking_hashes finds) fun found _ => ?_
  rcases found with _ | ⟨user, passwordHash⟩
  · exact refuse _ _ _
  simp only
  split
  · split
    · exact refuse _ _ _
    have signs := (signAccessToken_passive env (accessTokenSubject env user)).weaken fun _ passive => passive.revoking
    have marks := (markLastLogin_uses user.id).weaken fun _ marks => marks.revoking
    refine hashes_bind (revoking_hashes signs) fun signed _ => ?_
    refine hashes_bind (issueRefreshToken_hashes _ _ _) fun issued _ => ?_
    refine hashes_bind (revoking_hashes marks) fun _ _ => ?_
    exact hashes_bind (revoking_hashes (writeAuditEvent_revoking _)) fun _ _ => trivial
  · exact refuse _ _ _

theorem logout_hashes (bearer : Option PresentedToken) (refreshToken : Option String) :
    (logout env bearer refreshToken).Obeys (HashesDrawn env) (fun _ _ => True) past := by
  have verifies := (requireAccessToken_passive env bearer).weaken fun _ passive => passive.revoking
  refine hashes_bind (revoking_hashes verifies) fun verified _ => ?_
  rcases verified with error | auth
  · trivial
  have lists := (revokeToken_uses auth.jti (auth.exp * 1000)).weaken fun _ lists => lists.revoking
  have revokes := (revokeForLogout_uses env auth.sub refreshToken).weaken fun _ revokes => revokes.revoking
  refine hashes_bind (revoking_hashes lists) fun _ _ => ?_
  refine hashes_bind (revoking_hashes revokes) fun _ _ => ?_
  exact hashes_bind (revoking_hashes (writeAuditEvent_revoking _)) fun _ _ => trivial

end Rules

theorem HandlerCall.code_hashes (env : Env) (call : HandlerCall) :
    (call.code env).Obeys (HashesDrawn env) (fun _ _ => True) [] := by
  cases call with
  | login client email password => exact login_hashes client email password
  | refresh client refreshToken idempotencyKey => exact refresh_hashes client refreshToken idempotencyKey
  | logout bearer refreshToken => exact logout_hashes bearer refreshToken

theorem RowsHashed.step {env : Env} {before after : GatewayState} {effect : Effect} (hashed : RowsHashed env before)
    (step : TableStep before after effect) (inserts : ∀ values, effect = .insertRefreshToken values →
      ∃ plaintext ∈ before.drawn, values.tokenHash = env.sha256Hex plaintext) : RowsHashed env after := by
  intro row member
  have grown := step.grows.drawn
  rcases step.row_cases member with ⟨old, stored, later⟩ | ⟨values, id, rfl, rfl, _⟩
  · obtain ⟨plaintext, drawn, same⟩ := hashed old stored
    exact ⟨plaintext, grown drawn, later.tokenHash.trans same⟩
  · obtain ⟨plaintext, drawn, same⟩ := inserts values rfl
    exact ⟨plaintext, grown drawn, same⟩

def HashesOwn (env : Env) (state : GatewayState) (thread : HandlerThread) : Prop :=
  Disciplined (fun _ => HashesDrawn env) (fun _ _ _ => True) thread ∧
    ∀ value, Drew thread.past value → value ∈ state.drawn

theorem hashes_modular (env : Env) :
    Modular (handlers env) (fun _ _ => True) (RowsHashed env) Grows (HashesOwn env) where
  call := fun state call _ => ⟨Disciplined.of_code (HandlerCall.code_hashes env call), by simp [Thread.start, Drew]⟩
  step := by
    intro choice state thread moved later _ hashed own advanced
    have disciplined := own.1.advance advanced
    obtain ⟨effect, resume, reply, _, program, executed, rfl⟩ := advance_cases advanced
    have step : TableStep state later effect := exec_tableStep executed
    refine ⟨hashed.step step fun values same => ?_, step.grows, disciplined, fun value drew => ?_⟩
    · subst same
      obtain ⟨plaintext, drew, hash⟩ := own.1.permitted program
      exact ⟨plaintext, own.2 plaintext drew, hash⟩
    · rcases drew_snoc drew with earlier | same
      · exact step.grows.drawn (own.2 value earlier)
      · cases same
        exact (random_reply executed).2
  external := by
    intro event state hashed
    refine ⟨fun row member => ?_, external_grows event state⟩
    obtain ⟨plaintext, drawn, hash⟩ := hashed row (external_refreshTokens event state ▸ member)
    exact ⟨plaintext, (external_drawn event state).symm ▸ drawn, hash⟩
  stable := fun _ _ _ growth own => ⟨own.1, fun value drew => growth.drawn (own.2 value drew)⟩
  crash := fun _ _ own => own

theorem HandlersReachable.hashed {env : Env} {allowed : HandlerConfig → HandlerLabel → Prop}
    {config : HandlerConfig} (reachable : HandlersReachable env allowed config) : RowsHashed env config.state := by
  obtain ⟨clock, users, reached⟩ := reachable
  have initial : Modular.Holds (RowsHashed env) (HashesOwn env) (freshGateway clock users) := by
    constructor <;> simp [RowsHashed, freshGateway]
  exact ((hashes_modular env).run (fun _ _ _ _ _ _ _ _ => trivial) reached initial).1

end GatewayProof
