import AppGateway.Handlers.AccessTokens
import AppGateway.Handlers.AuditRules

namespace GatewayProof

open Async GatewayModel
open Async.System (Reaches Modular Disciplined next_cases advance_cases)

def LoginChanges (env : Env) (email password : String) (past : List SessionEvent) : Effect → Prop
  | .insertRefreshToken values => ∃ row hash, FoundUser past (env.hashEmail email) row ∧ row.isActive = true ∧
      row.passwordHash = some hash ∧ env.bcryptCompare password hash = true ∧ values.userId = row.id
  | effect => KeepsRows effect

def RefreshChanges (tokenHash : String) (past : List SessionEvent) : Effect → Prop
  | .insertRefreshToken values => ∃ row, Selected past tokenHash row ∧
      values.sessionFamily = row.sessionFamily ∧ values.userId = row.userId
  | .updateRevokedById id _ _ => ∃ row, Selected past tokenHash row ∧ row.id = id
  | .updateRevokedByFamily sessionFamily _ _ => ∃ row, Selected past tokenHash row ∧ row.sessionFamily = sessionFamily
  | effect => KeepsRows effect

def LatestRead (past : List SessionEvent) (userId : String) (row : RefreshTokenRow) : Prop :=
  ⟨.selectLatestActiveByUser userId, .ok (some row)⟩ ∈ past

def Accredited (env : Env) (bearer : Option PresentedToken) (past : List SessionEvent) (jwt : SignedJwt) : Prop :=
  bearer = some (.signed jwt) ∧ ∃ now, ⟨.dateNow, .ok now⟩ ∈ past ∧ jwtVerify env (.signed jwt) now = .ok jwt.claims

def LogoutChanges (env : Env) (bearer : Option PresentedToken) (refreshToken : Option String)
    (past : List SessionEvent) :
    Effect → Prop
  | .updateRevokedById id _ _ => ∃ jwt row, Accredited env bearer past jwt ∧ row.id = id ∧
      ((∃ token, refreshToken = some token ∧ Selected past (env.sha256Hex token) row) ∨
        LatestRead past jwt.claims.sub row)
  | effect => KeepsRows effect

def HandlerCall.Changes (env : Env) : HandlerCall → List SessionEvent → Effect → Prop
  | .login _ email password => LoginChanges env email password
  | .refresh _ refreshToken _ => RefreshChanges (env.sha256Hex refreshToken)
  | .logout bearer refreshToken => LogoutChanges env bearer refreshToken

theorem Changes.of_keepsRows {env : Env} {call : HandlerCall} {past : List SessionEvent} {effect : Effect}
    (keeps : KeepsRows effect) : call.Changes env past effect := by
  cases call <;> cases effect <;> first | exact keeps | exact keeps.elim

section Rules

variable {env : Env} {call : HandlerCall} {past : List SessionEvent}

theorem leaving_rows {α : Type} {program : Gateway α} {permits : List SessionEvent → Effect → Prop}
    {ends : List SessionEvent → Except Thrown α → Prop} (uses : program.Uses KeepsRows)
    (obeys : program.Obeys permits ends past) :
    program.Obeys (call.Changes env) (fun whole outcome => past ⊆ whole ∧ ends whole outcome) past := by
  have quiet : program.Obeys (call.Changes env) (fun whole _ => past ⊆ whole) past := by
    refine (uses.obeys fun _ _ keeps => Changes.of_keepsRows keeps).weaken (fun _ _ permit => permit) ?_
    rintro whole _ ⟨events, rfl, _⟩
    exact List.subset_append_left _ _
  exact quiet.also obeys

theorem passive_keepsRows {α : Type} {program : Gateway α} (uses : program.Uses Passive) : program.Uses KeepsRows :=
  uses.weaken fun _ passive => passive.keepsRows

theorem incidental_keepsRows {α : Type} {program : Gateway α} (uses : program.Uses Incidental) :
    program.Uses KeepsRows :=
  uses.weaken fun _ incidental => incidental.keepsRows

theorem refused_changes {α : Type} {entry : AuditLogEntry} {answer : α} :
    (writeAuditEvent entry >>= fun _ => pure answer : Gateway α).Obeys (call.Changes env) (fun _ _ => True) past :=
  (leaving_rows (incidental_keepsRows (writeAuditEvent_incidental entry)) (nothing_known _)).bind (fun _ _ _ => trivial)
    fun _ _ _ => trivial

theorem login_changes (client : Client) (email password : String) :
    (login env client email password).Obeys ((HandlerCall.login client email password).Changes env)
    (fun _ _ => True) [] := by
  unfold login
  apply (leaving_rows (passive_keepsRows (findUserByEmail_passive env email)) (findUserByEmail_row email)).bind
    (fun _ _ _ => trivial)
  rintro past found ⟨_, known⟩
  cases found with
  | none => exact refused_changes
  | some found =>
    obtain ⟨user, passwordHash⟩ := found
    obtain ⟨row, seen, id, active, stored⟩ := known user passwordHash rfl
    simp only
    split
    · rename_i hash truthyHash isActive
      have kept := Option.filter_eq_some_iff.mp truthyHash
      split
      · exact refused_changes
      · rename_i verified
        have verified : env.bcryptCompare password hash = true := by simpa [verifyPassword] using verified
        apply (leaving_rows (passive_keepsRows (signAccessToken_passive env _)) (nothing_known _)).bind
          (fun _ _ _ => trivial)
        rintro signing signed ⟨grown, _⟩
        have owned : ∀ whole values, signing ⊆ whole → values.userId = user.id →
            LoginChanges env email password whole (.insertRefreshToken values) := by
          intro whole values since owner
          exact ⟨row, hash, since (grown seen), by rw [← active, isActive], stored ▸ kept.1, verified, owner.trans id⟩
        simp only [issueRefreshToken_new]
        rw [Program.bind_eq, Program.bind_eq, Program.bind_assoc]
        refine ⟨trivial, fun drawn => ?_⟩
        cases drawn with
        | error thrown => trivial
        | ok family =>
          simp only [Program.done_ok_bind]
          refine (issueRefreshToken_family_obeys user.id _ family (fun _ _ _ incidental =>
            Changes.of_keepsRows incidental.keepsRows) ?_).bind (fun _ _ _ => trivial) ?_
          · intro events values _ owner _
            rw [List.append_assoc]
            exact owned _ values (List.subset_append_left _ _) owner
          · intro issuing refresh _
            have marks := (markLastLogin_uses user.id).weaken fun _ marks => marks.keepsRows
            exact (leaving_rows marks (nothing_known _)).bind (fun _ _ _ => trivial) fun _ _ _ => refused_changes
    · exact refused_changes

theorem RotatePermits.changes {tokenHash : String} (before : List SessionEvent) {events : List SessionEvent}
    {effect : Effect} (permit : RotatePermits tokenHash events effect) :
    RefreshChanges tokenHash (before ++ events) effect := by
  have since : events ⊆ before ++ events := List.subset_append_right _ _
  cases effect with
  | insertRefreshToken values =>
    obtain ⟨_, row, selected, _, _, user, family⟩ := permit
    exact ⟨row, selected.grow since, family, user⟩
  | updateRevokedById id revokedAt reason =>
    obtain ⟨_, row, selected, _, same⟩ := permit
    exact ⟨row, selected.grow since, same⟩
  | updateRevokedByFamily sessionFamily revokedAt reason =>
    obtain ⟨_, row, selected, _, same⟩ := permit
    exact ⟨row, selected.grow since, same⟩
  | _ => trivial

theorem rotateAndAnswer_changes (client : Client) (refreshToken : String) (idempotencyKey : Option String)
    (metadata : RefreshTokenMetadata) (claimed : Option String) :
    (rotateAndAnswer env refreshToken metadata (env.sha256Hex refreshToken) claimed).Obeys
      ((HandlerCall.refresh client refreshToken idempotencyKey).Changes env) (fun _ _ => True) past := by
  have rotation : (rotateRefreshToken env refreshToken metadata).Obeys
      ((HandlerCall.refresh client refreshToken idempotencyKey).Changes env) (fun _ _ => True) past := by
    have rotates := (rotateRefreshToken_obeys env refreshToken metadata).after fun _ _ permit =>
      RotatePermits.changes past permit
    rw [List.append_nil] at rotates
    exact rotates.weaken (fun _ _ permit => permit) fun _ _ _ => trivial
  apply rotation.bind (fun _ _ _ => trivial)
  intro rotating rotation _
  cases rotation with
  | error error =>
    have releases : (releaseClaim claimed).Uses KeepsRows := releaseClaim_uses fun _ _ => trivial
    apply (leaving_rows releases (nothing_known _)).bind (fun _ _ _ => trivial)
    intro released _ _
    have audits := (auditRefusal_uses error).weaken fun _ audits => audits.incidental.keepsRows
    exact (leaving_rows audits (nothing_known _)).bind (fun _ _ _ => trivial) fun _ _ _ => trivial
  | ok rotated =>
    apply (leaving_rows (passive_keepsRows (findUserById_passive rotated.userId)) (nothing_known _)).bind
      (fun _ _ _ => trivial)
    intro reading found _
    cases found with
    | none => trivial
    | some account =>
      apply (leaving_rows (passive_keepsRows (signAccessToken_passive env _)) (nothing_known _)).bind
        (fun _ _ _ => trivial)
      intro signing signed _
      apply (leaving_rows (incidental_keepsRows (writeAuditEvent_incidental _)) (nothing_known _)).bind
        (fun _ _ _ => trivial)
      intro audited _ _
      have completes : ∀ result, (completeClaim claimed result).Uses KeepsRows :=
        fun _ => completeClaim_uses fun _ _ _ => trivial
      exact (leaving_rows (completes _) (nothing_known _)).bind (fun _ _ _ => trivial) fun _ _ _ => trivial

theorem refresh_changes (client : Client) (refreshToken : String) (idempotencyKey : Option String) :
    (refresh env client refreshToken idempotencyKey).Obeys
      ((HandlerCall.refresh client refreshToken idempotencyKey).Changes env) (fun _ _ => True) [] := by
  unfold refresh
  simp only [hashRefreshToken]
  split
  · exact rotateAndAnswer_changes client refreshToken idempotencyKey _ _
  rename_i key _
  refine ⟨trivial, fun claim => ?_⟩
  cases claim with
  | error thrown => trivial
  | ok owned =>
    simp only [Program.done_ok_bind]
    split
    · exact rotateAndAnswer_changes client refreshToken idempotencyKey _ _
    have waits := (pollIdempotentResult_uses key (env.sha256Hex refreshToken)
      idempotencyClaimWaitAttempts).weaken fun _ polls => polls.keepsRows
    apply (leaving_rows waits (nothing_known _)).bind (fun _ _ _ => trivial)
    intro waiting waited _
    cases waited with
    | none => exact rotateAndAnswer_changes client refreshToken idempotencyKey _ _
    | some result => trivial

theorem requireAccessToken_verifies (bearer : Option PresentedToken) :
    (requireAccessToken env bearer).Obeys Any (fun whole outcome => ∀ auth, outcome = .ok (.ok auth) →
      ∃ jwt, Accredited env bearer whole jwt ∧ auth = jwt.claims) past := by
  cases bearer with
  | none => exact nofun
  | some token =>
    refine ⟨trivial, fun loaded => ?_⟩
    cases loaded with
    | error thrown => exact nofun
    | ok _ =>
      refine ⟨trivial, fun clock => ?_⟩
      cases clock with
      | error thrown => exact nofun
      | ok now =>
        simp only [Program.done_ok_bind]
        split
        · exact nofun
        · exact nofun
        · rename_i payload accepted
          obtain ⟨jwt, rfl, rfl, _⟩ := jwtVerify_ok accepted
          refine ⟨trivial, fun looked => ?_⟩
          cases looked with
          | error thrown => exact nofun
          | ok value =>
            cases value with
            | none =>
              intro auth same
              cases same
              exact ⟨jwt, ⟨rfl, now, by simp, accepted⟩, rfl⟩
            | some stored => exact nofun

theorem revokeRow_changes {id reason tokenHash : String} {expiresAt : Nat}
    (permitted : ∀ whole revokedAt, past ⊆ whole → call.Changes env whole (.updateRevokedById id revokedAt reason)) :
    (Gateway.dateNow >>= fun now => Gateway.updateRevokedById id now reason >>= fun _ =>
      cacheRefreshTokenRevocation tokenHash expiresAt).Obeys (call.Changes env) (fun whole _ => past ⊆ whole) past := by
  refine ⟨Changes.of_keepsRows trivial, fun clock => ?_⟩
  cases clock with
  | error thrown => exact List.subset_append_left _ _
  | ok now =>
    refine ⟨permitted _ now (List.subset_append_left _ _), fun updated => ?_⟩
    rw [List.append_assoc]
    cases updated with
    | error thrown => exact List.subset_append_left _ _
    | ok done =>
      refine (leaving_rows (incidental_keepsRows (cacheRefreshTokenRevocation_incidental tokenHash expiresAt))
        (nothing_known _)).weaken (fun _ _ permit => permit) ?_
      rintro whole _ ⟨grown, _⟩ event member
      exact grown (List.mem_append_left _ member)

theorem revokeForLogout_changes {bearer : Option PresentedToken} {refreshToken : Option String} {jwt : SignedJwt}
    (verified : Accredited env bearer past jwt) :
    (revokeForLogout env jwt.claims.sub refreshToken).Obeys ((HandlerCall.logout bearer refreshToken).Changes env)
      (fun _ _ => True) past := by
  have still : ∀ {whole}, past ⊆ whole → Accredited env bearer whole jwt := by
    rintro whole grown
    obtain ⟨presented, now, read, accepted⟩ := verified
    exact ⟨presented, now, grown read, accepted⟩
  unfold revokeForLogout
  split
  · rename_i token given
    have given := (Option.filter_eq_some_iff.mp given).1
    refine ⟨trivial, fun selected => ?_⟩
    cases selected with
    | error thrown => trivial
    | ok found =>
      cases found with
      | none => trivial
      | some row =>
        simp only [Program.pure_eq, Program.done_ok_bind]
        split
        · trivial
        refine (revokeRow_changes fun whole revokedAt grown => ?_).weaken (fun _ _ permit => permit) fun _ _ _ =>
          trivial
        have read : Selected whole (env.sha256Hex token) row := grown (by simp [hashRefreshToken])
        exact ⟨jwt, row, still fun _ member => grown (List.mem_append_left _ member), rfl, .inl ⟨token, given, read⟩⟩
  · refine ⟨trivial, fun selected => ?_⟩
    cases selected with
    | error thrown => trivial
    | ok found =>
      cases found with
      | none => trivial
      | some row =>
        simp only [Program.pure_eq, Program.done_ok_bind]
        refine (revokeRow_changes fun whole revokedAt grown => ?_).weaken (fun _ _ permit => permit) fun _ _ _ =>
          trivial
        have read : LatestRead whole jwt.claims.sub row := grown (by simp)
        exact ⟨jwt, row, still fun _ member => grown (List.mem_append_left _ member), rfl, .inr read⟩

theorem logout_changes (bearer : Option PresentedToken) (refreshToken : Option String) :
    (logout env bearer refreshToken).Obeys ((HandlerCall.logout bearer refreshToken).Changes env)
    (fun _ _ => True) [] := by
  apply (leaving_rows (passive_keepsRows (requireAccessToken_passive env bearer))
    (requireAccessToken_verifies bearer)).bind (fun _ _ _ => trivial)
  rintro verifying answer ⟨_, accepts⟩
  cases answer with
  | error error => trivial
  | ok auth =>
    obtain ⟨jwt, verified, rfl⟩ := accepts auth rfl
    apply (leaving_rows (revokeToken_keepsRows jwt.claims.jti _) (nothing_known _)).bind (fun _ _ _ => trivial)
    rintro listed _ ⟨grown, _⟩
    have verified : Accredited env bearer listed jwt := by
      obtain ⟨presented, now, read, accepted⟩ := verified
      exact ⟨presented, now, grown read, accepted⟩
    exact (revokeForLogout_changes verified).bind (fun _ _ _ => trivial) fun _ _ _ => refused_changes

theorem HandlerCall.code_changes (env : Env) (call : HandlerCall) :
    (call.code env).Obeys (call.Changes env) (fun _ _ => True) [] := by
  cases call with
  | login client email password => exact login_changes client email password
  | refresh client refreshToken idempotencyKey => exact refresh_changes client refreshToken idempotencyKey
  | logout bearer refreshToken => exact logout_changes bearer refreshToken

end Rules

/-! What a request must hold to change a session -/

section Latest

variable {env : Env}

theorem exec_latest {choice : Choice} {before after : GatewayState} {userId : String} {row : RefreshTokenRow}
    (executed : exec env (.selectLatestActiveByUser userId) choice before = some (.ok (some row), after)) :
    row.userId = userId ∧ row ∈ after.refreshTokens := by
  obtain ⟨same, found, reply, _, picked⟩ := latest_reply (exec_ok executed)
  cases reply
  obtain ⟨stored, owner, _⟩ := latestOfUser_active (picked row rfl)
  exact ⟨owner, same ▸ stored⟩

def KnowsLatest (state : GatewayState) (past : List SessionEvent) : Prop :=
  ∀ userId row, LatestRead past userId row → row.userId = userId ∧ Persists state row

theorem knowsLatest_modular (env : Env) : Modular (handlers env) (fun _ _ => True) (fun _ => True) Grows
    fun state (thread : HandlerThread) => KnowsLatest state thread.past where
  call := fun _ _ _ => nofun
  step := by
    intro choice state thread moved later _ _ knows advanced
    obtain ⟨effect, resume, reply, _, _, executed, rfl⟩ := advance_cases advanced
    have growth : Grows state later := (exec_tableStep executed).grows
    refine ⟨trivial, growth, fun userId row read => ?_⟩
    rcases List.mem_append.mp read with earlier | now
    · obtain ⟨owner, persists⟩ := knows userId row earlier
      exact ⟨owner, persists.grow growth⟩
    · cases List.mem_singleton.mp now
      obtain ⟨owner, stored⟩ := exec_latest executed
      exact ⟨owner, row, stored, .refl row⟩
  external := fun event state _ => ⟨trivial, external_grows event state⟩
  stable := by
    intro state later thread growth knows userId row read
    obtain ⟨owner, persists⟩ := knows userId row read
    exact ⟨owner, persists.grow growth⟩
  crash := fun _ _ knows => knows

end Latest

/-- The credential a request holds for the session of a row: the password of its user, a refresh token of the session,
    or a valid access token, of the row's user or along with the row's own refresh token. -/
def HandlerCall.Entitled (env : Env) (users : List UserRow) (state : GatewayState) (row : RefreshTokenRow) :
    HandlerCall → Prop
  | .login _ email password => ∃ user ∈ users, ∃ hash, user.id = row.userId ∧ user.emailHash = env.hashEmail email ∧
      user.passwordHash = some hash ∧ env.bcryptCompare password hash = true
  | .refresh _ refreshToken _ => ∃ own ∈ state.refreshTokens, own.tokenHash = env.sha256Hex refreshToken ∧
      own.sessionFamily = row.sessionFamily ∧ own.userId = row.userId
  | .logout bearer refreshToken => ∃ jwt now, bearer = some (.signed jwt) ∧ now ≤ state.clock ∧
      jwtVerify env (.signed jwt) now = .ok jwt.claims ∧
      (jwt.claims.sub = row.userId ∨ ∃ token, refreshToken = some token ∧ env.sha256Hex token = row.tokenHash)

section Holders

variable {env : Env} {clock : Nat} {users : List UserRow} {allowed : HandlerConfig → HandlerLabel → Prop}
  {config after : HandlerConfig} {label : HandlerLabel}

structure ChangeRules (env : Env) (users : List UserRow) (config : HandlerConfig) : Prop where
  valid : HandlersValid env config
  lineage : Lineage Logins config
  changes : ∀ thread ∈ config.threads, Disciplined (HandlerCall.Changes env) (fun _ _ _ => True) thread
  reads : ∀ thread ∈ config.threads, ReadsProvisioned env users config.state.clock thread.past
  latest : ∀ thread ∈ config.threads, KnowsLatest config.state thread.past

theorem changeRules (reached : Reaches (handlers env) allowed (freshGateway clock users) config) :
    ChangeRules env users config where
  valid := handlers_valid ⟨clock, users, reached⟩
  lineage := handlers_lineage ⟨clock, users, reached⟩
  changes := reached.disciplined (HandlerCall.code_changes env) rfl
  reads := fun _ member => reads_provisioned reached member
  latest := ((knowsLatest_modular env).run (fun _ _ _ _ _ _ _ _ => trivial) reached
    ⟨trivial, by simp [freshGateway]⟩).2

theorem ChangeRules.user (rules : ChangeRules env users config) {row other : RefreshTokenRow}
    (member : row ∈ config.state.refreshTokens) (stored : other ∈ config.state.refreshTokens)
    (same : row.sessionFamily = other.sessionFamily) : row.userId = other.userId :=
  rules.lineage.same_user (handlers_lineal env) rules.valid member stored same

theorem ChangeRules.selected (rules : ChangeRules env users config) {thread : HandlerThread}
    (member : thread ∈ config.threads) {tokenHash : String} {row : RefreshTokenRow}
    (selected : Selected thread.past tokenHash row) :
    ∃ own ∈ config.state.refreshTokens, own.tokenHash = tokenHash ∧ Later row own := by
  obtain ⟨hash, own, stored, later⟩ := (rules.valid.2 thread member).2.selected _ _ selected
  exact ⟨own, stored, later.tokenHash.trans hash, later⟩

theorem ChangeRules.logs_in (rules : ChangeRules env users config) {thread : HandlerThread}
    (member : thread ∈ config.threads)
    {email password : String} {past : List SessionEvent} {values : NewRefreshToken} (grown : past ⊆ thread.past)
    (permit : LoginChanges env email password past (.insertRefreshToken values)) :
    ∃ user ∈ users, ∃ hash, user.id = values.userId ∧ user.emailHash = env.hashEmail email ∧
      user.passwordHash = some hash ∧ env.bcryptCompare password hash = true := by
  obtain ⟨row, hash, found, _, stored, verified, owner⟩ := permit
  obtain ⟨address, user, there, identity⟩ := (rules.reads thread member).byEmail _ _ (grown found)
  have ids := congrArg (·.id) identity
  have addresses := congrArg (·.emailHash) identity
  have hashes := congrArg (·.passwordHash) identity
  exact ⟨user, there, hash, ids.trans owner.symm, addresses.trans address, hashes.trans stored, verified⟩

theorem ChangeRules.inserts (rules : ChangeRules env users config) {thread : HandlerThread}
    (member : thread ∈ config.threads)
    {values : NewRefreshToken} (permit : thread.call.Changes env thread.past (.insertRefreshToken values)) (id : String)
    (issuedAt : Nat) : thread.call.Entitled env users config.state (values.row id issuedAt) := by
  generalize same : thread.call = call at permit
  cases call with
  | login client email password => exact rules.logs_in member (fun _ event => event) permit
  | refresh client refreshToken idempotencyKey =>
    obtain ⟨row, selected, family, owner⟩ := permit
    obtain ⟨own, stored, hash, later⟩ := rules.selected member selected
    exact ⟨own, stored, hash, later.sessionFamily.trans family.symm, later.userId.trans owner.symm⟩
  | logout bearer refreshToken => exact permit.elim

theorem ChangeRules.revokes (rules : ChangeRules env users config) {thread : HandlerThread}
    (member : thread ∈ config.threads)
    {id reason : String} {revokedAt : Nat}
    (permit : thread.call.Changes env thread.past (.updateRevokedById id revokedAt reason))
    {old row : RefreshTokenRow} (stored : old ∈ config.state.refreshTokens) (named : old.id = id)
    (later : Later old row) :
    thread.call.Entitled env users config.state row := by
  generalize same : thread.call = call at permit
  cases call with
  | login client email password => exact permit.elim
  | refresh client refreshToken idempotencyKey =>
    obtain ⟨read, selected, target⟩ := permit
    obtain ⟨own, there, hash, version⟩ := rules.selected member selected
    obtain rfl := rules.valid.1.same_id there stored (version.id.trans (target.trans named.symm))
    exact ⟨own, there, hash, later.sessionFamily.symm, later.userId.symm⟩
  | logout bearer refreshToken =>
    obtain ⟨jwt, read, ⟨presented, now, timed, accepted⟩, target, credential⟩ := permit
    refine ⟨jwt, now, presented, (rules.reads thread member).now now timed, accepted, ?_⟩
    rcases credential with ⟨token, given, selected⟩ | latest
    · obtain ⟨own, there, hash, version⟩ := rules.selected member selected
      obtain rfl := rules.valid.1.same_id there stored (version.id.trans (target.trans named.symm))
      exact .inr ⟨token, given, hash.symm.trans later.tokenHash.symm⟩
    · obtain ⟨owner, own, there, version⟩ := rules.latest thread member _ _ latest
      obtain rfl := rules.valid.1.same_id there stored (version.id.trans (target.trans named.symm))
      exact .inl (owner.symm.trans (version.userId.symm.trans later.userId.symm))

theorem ChangeRules.closes (rules : ChangeRules env users config) {thread : HandlerThread}
    (member : thread ∈ config.threads)
    {sessionFamily reason : String} {revokedAt : Nat}
    (permit : thread.call.Changes env thread.past (.updateRevokedByFamily sessionFamily revokedAt reason))
    {old row : RefreshTokenRow} (stored : old ∈ config.state.refreshTokens) (inside : old.sessionFamily = sessionFamily)
    (later : Later old row) : thread.call.Entitled env users config.state row := by
  generalize same : thread.call = call at permit
  cases call with
  | login client email password => exact permit.elim
  | refresh client refreshToken idempotencyKey =>
    obtain ⟨read, selected, target⟩ := permit
    obtain ⟨own, there, hash, version⟩ := rules.selected member selected
    have together : own.sessionFamily = old.sessionFamily := version.sessionFamily.trans (target.trans inside.symm)
    exact ⟨own, there, hash, together.trans later.sessionFamily.symm,
      (rules.user there stored together).trans later.userId.symm⟩
  | logout bearer refreshToken => exact permit.elim

/-- Whatever the interleaving, a row of `refresh_tokens` is inserted or changed by a request that holds a credential for
    its session, and by no other. -/
theorem sessions_changed_by_holders (reached : Reaches (handlers env) allowed (freshGateway clock users) config)
    (moved : (handlers env).next config label = some after) {row : RefreshTokenRow}
    (stored : row ∈ after.state.refreshTokens) (changed : row ∉ config.state.refreshTokens) :
    ∃ index choice thread, label = .step index choice ∧ config.threads[index]? = some thread ∧
      thread.call.Entitled env users config.state row := by
  have rules := changeRules reached
  rcases next_cases moved with ⟨call, _, rfl⟩ | ⟨index, choice, thread, moved', state, rfl, found, stepped, rfl⟩ |
    ⟨place, old, _, _, rfl⟩ | ⟨event, _, rfl⟩
  · exact absurd stored changed
  · refine ⟨index, choice, thread, rfl, found, ?_⟩
    have member := List.mem_of_getElem? found
    obtain ⟨effect, resume, reply, _, program, executed, rfl⟩ := advance_cases stepped
    have permit := (rules.changes thread member).permitted program
    have step : TableStep config.state state effect := exec_tableStep executed
    cases step with
    | keep _ rows => exact absurd (rows ▸ stored) changed
    | revokeById id revokedAt reason same =>
      obtain ⟨old, there, rfl⟩ := mem_setRevoked.mp (same ▸ stored)
      have later := later_setRevoked (·.id = id) revokedAt reason old
      by_cases named : old.id = id
      · exact rules.revokes member permit there named later
      · exact absurd (by simpa [named] using there) changed
    | revokeByFamily sessionFamily revokedAt reason same =>
      obtain ⟨old, there, rfl⟩ := mem_setRevoked.mp (same ▸ stored)
      have later := later_setRevoked (fun row => row.sessionFamily = sessionFamily ∧ row.revokedAt = none)
        revokedAt reason old
      by_cases inside : old.sessionFamily = sessionFamily
      · exact rules.closes member permit there inside later
      · exact absurd (by simpa [inside] using there) changed
    | insert values id _ _ _ same =>
      subst same
      rcases List.mem_append.mp stored with earlier | inserted
      · exact absurd earlier changed
      · rw [List.mem_singleton.mp inserted]
        exact rules.inserts member permit id config.state.clock
  · exact absurd stored changed
  · exact absurd (external_refreshTokens event config.state ▸ stored) changed

/-- Behind every row there is a login with the right password for its user, which has drawn the row's family. -/
theorem sessions_start_with_passwords (reached : Reaches (handlers env) allowed (freshGateway clock users) config)
    {row : RefreshTokenRow} (stored : row ∈ config.state.refreshTokens) :
    ∃ thread ∈ config.threads, Logins thread.call ∧ Drew thread.past row.sessionFamily ∧
      thread.call.Entitled env users config.state row := by
  have rules := changeRules reached
  obtain ⟨index, thread, values, found, ⟨client, email, password, call⟩, sent, drew, family, owner⟩ :=
    rules.lineage.founded row stored
  have member := List.mem_of_getElem? found
  obtain ⟨reply, sent⟩ := sent
  obtain ⟨before, rest, split, permit⟩ := (rules.changes thread member).1.of_mem sent
  rw [call] at permit
  have grown : before ⊆ thread.past := split ▸ List.subset_append_left _ _
  obtain ⟨user, there, hash, same, credential⟩ := rules.logs_in member grown permit
  refine ⟨thread, member, ⟨client, email, password, call⟩, family ▸ drew, ?_⟩
  rw [call]
  exact ⟨user, there, hash, same.trans owner, credential⟩

end Holders

def aboutToRotate : List HandlerLabel :=
  logIn 0 "j0" "f" "t0" "r0" ++ [.call (.refresh sampleClient "t0" none)] ++ steps 1 3

theorem sessions_changed_by_rotation : ∃ config after : HandlerConfig, ∃ row ∈ after.state.refreshTokens,
    row.revokedAt.isSome ∧ row ∉ config.state.refreshTokens ∧
    ∃ thread ∈ config.threads, thread.call.Entitled sampleEnv [sampleUser "u" "u@example.com"] config.state row := by
  have passed : ((handlers sampleEnv).run aboutToRotate (freshGateway 0 [sampleUser "u" "u@example.com"])).any
      (fun config => ((handlers sampleEnv).next config (.step 1 {})).any fun after =>
        after.state.refreshTokens.any fun row => row.revokedAt.isSome && row ∉ config.state.refreshTokens) = true := by
    decide +kernel
  obtain ⟨config, reached, checked⟩ := Reaches.of_check passed
  obtain ⟨after, moved, checked⟩ := (Option.any_eq_true _ _).mp checked
  obtain ⟨row, stored, checked⟩ := List.any_eq_true.mp checked
  obtain ⟨revoked, changed⟩ := Bool.and_eq_true_iff.mp checked
  have changed := of_decide_eq_true changed
  obtain ⟨index, choice, thread, _, found, entitled⟩ := sessions_changed_by_holders reached moved stored changed
  exact ⟨config, after, row, stored, revoked, changed, thread, List.mem_of_getElem? found, entitled⟩

theorem sessions_start_with_passwords_rotated : ∃ config : HandlerConfig, ∃ row ∈ config.state.refreshTokens,
    row.tokenHash = sampleSha256 "t1" ∧ ∃ thread ∈ config.threads, Logins thread.call ∧
    Drew thread.past row.sessionFamily := by
  have passed : ((handlers sampleEnv).run retriedRefresh (freshGateway 0 [sampleUser "u" "u@example.com"])).any
      (fun config => config.state.refreshTokens.any fun row => row.tokenHash = sampleSha256 "t1") = true := by
    decide +kernel
  obtain ⟨config, reached, checked⟩ := Reaches.of_check passed
  obtain ⟨row, stored, hash⟩ := List.any_eq_true.mp checked
  obtain ⟨thread, member, login, drew, _⟩ := sessions_start_with_passwords reached stored
  exact ⟨config, row, stored, of_decide_eq_true hash, thread, member, login, drew⟩

end GatewayProof
