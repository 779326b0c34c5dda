import AppGateway.Model.AuthRouter
import AppGateway.Sessions.Histories

namespace GatewayProof

open Async GatewayModel

def Plain : Effect → Prop
  | .insertRefreshToken _ | .redisSetNx .. => False
  | .redisSet _ (.slot _) _ => False
  | _ => True

def Reading : Effect → Prop
  | .loadSigningKeys | .dateNow | .redisGet _ => True
  | _ => False

/-- Effects that only read: the users, the keys, Redis, the clock and the random source. -/
def Passive : Effect → Prop
  | .selectUserByEmailHash _ | .selectUserById _ | .decryptEmail .. | .redisGet _ => True
  | .loadSigningKeys | .dateNow | .randomString => True
  | _ => False

def Polls : Effect → Prop
  | .sleepUntil _ => True
  | effect => Passive effect

def Marks : Effect → Prop
  | .dateNow | .updateLastLogin .. => True
  | _ => False

def ListsJti : Effect → Prop
  | .dateNow | .redisSet (.revokedJti _) .flag _ => True
  | _ => False

theorem Reading.passive {effect : Effect} (reading : Reading effect) : Passive effect := by
  cases effect <;> trivial

theorem Passive.plain {effect : Effect} (passive : Passive effect) : Plain effect := by
  cases effect <;> trivial

theorem ListsJti.plain {effect : Effect} (lists : ListsJti effect) : Plain effect := by
  cases effect with
  | redisSet key value ttl => cases key <;> cases value <;> trivial
  | _ => trivial

theorem Incidental.plain {effect : Effect} (incidental : Incidental effect) : Plain effect := by
  cases effect <;> try trivial
  rename_i key value ttl
  cases key <;> cases value <;> trivial

def FoundUser (past : List SessionEvent) (emailHash : String) (user : UserRow) : Prop :=
  ⟨.selectUserByEmailHash emailHash, .ok (some user)⟩ ∈ past

def Seen (past : List SessionEvent) (result : CachedRefreshResult) : Prop :=
  ∃ key, ⟨.redisGet key, .ok (some (.slot (.done result)))⟩ ∈ past

/-- The call has sent the finished entry to its slot, whatever became of it. -/
def Stored (past : List SessionEvent) (result : CachedRefreshResult) : Prop :=
  ∃ key ttl reply, ⟨.redisSet key (.slot (.done result)) ttl, reply⟩ ∈ past

/-- The call has made this pair itself: it has consumed the row of the presented token, inserted the
    row of the new one, and signed an access token for the user of both. -/
def Produced (env : Env) (tokenHash : String) (past : List SessionEvent) (accessToken : SignedJwt)
    (refreshToken : String) : Prop :=
  ∃ row values user, Selected past tokenHash row ∧ row.revokedAt = none ∧ Consumed past row.id ∧
    Inserted past values ∧ values.tokenHash = env.sha256Hex refreshToken ∧
    values.sessionFamily = row.sessionFamily ∧ values.userId = row.userId ∧
    ReadUser past row.userId user ∧ accessToken.claims.sub = user.id ∧
    Drew past refreshToken ∧ Drew past accessToken.claims.jti

theorem Produced.grow {env : Env} {tokenHash : String} {past whole : List SessionEvent}
    {accessToken : SignedJwt} {refreshToken : String}
    (produced : Produced env tokenHash past accessToken refreshToken) (grown : past ⊆ whole) :
    Produced env tokenHash whole accessToken refreshToken := by
  obtain ⟨row, values, user, selected, active, consumed, inserted, hash, family, owner, read, sub, drew, jti⟩ :=
    produced
  exact ⟨row, values, user, selected.grow grown, active, consumed.grow grown, inserted.grow grown, hash, family,
    owner, grown read, sub, grown drew, grown jti⟩

def RefreshPermits (env : Env) (tokenHash : String) (past : List SessionEvent) : Effect → Prop
  | .insertRefreshToken values => ∃ row, Selected past tokenHash row ∧
      values.sessionFamily = row.sessionFamily ∧ values.userId = row.userId
  | .redisSet _ (.slot entry) _ => ∃ result, entry = .done result ∧
      result.presentedTokenHash = tokenHash ∧
      Produced env tokenHash past result.accessToken result.refreshToken
  | .redisSetNx _ value _ => value = .slot .pending
  | _ => True

def RefreshEnds (env : Env) (tokenHash : String) (past : List SessionEvent) :
    Except Thrown Answer → Prop
  | .ok (.tokens body) => Produced env tokenHash past body.access_token body.refresh_token ∨
      ∃ result, Seen past result ∧ result.presentedTokenHash = tokenHash ∧
        body.access_token = result.accessToken ∧ body.refresh_token = result.refreshToken
  | _ => True

def LoginPermits (emailHash : String) (past : List SessionEvent) : Effect → Prop
  | .insertRefreshToken values => (∀ other, ¬ Sent past other) ∧ Drew past values.sessionFamily ∧
      ∃ user, FoundUser past emailHash user ∧ values.userId = user.id
  | .redisSet _ (.slot _) _ | .redisSetNx .. => False
  | _ => True

def LoginEnds (env : Env) (past : List SessionEvent) : Except Thrown Answer → Prop
  | .ok (.tokens body) => ∃ values, Inserted past values ∧
      values.tokenHash = env.sha256Hex body.refresh_token ∧ values.userId = body.access_token.claims.sub
  | _ => True

def LogoutPermits (_ : List SessionEvent) (effect : Effect) : Prop := Plain effect

def LogoutEnds (_ : List SessionEvent) (outcome : Except Thrown Answer) : Prop :=
  ∀ body, outcome ≠ .ok (.tokens body)

theorem RefreshPermits.of_plain {env : Env} {tokenHash : String} {past : List SessionEvent}
    {effect : Effect} (plain : Plain effect) : RefreshPermits env tokenHash past effect := by
  cases effect <;> try trivial
  rename_i key value ttl
  cases value with
  | flag => trivial
  | slot entry => exact plain.elim

theorem LoginPermits.of_plain {emailHash : String} {past : List SessionEvent} {effect : Effect}
    (plain : Plain effect) : LoginPermits emailHash past effect := by
  cases effect <;> try trivial
  rename_i key value ttl
  cases value with
  | flag => trivial
  | slot entry => exact plain.elim

theorem RotatePermits.refresh {env : Env} {tokenHash : String} (before : List SessionEvent)
    {events : List SessionEvent} {effect : Effect} (permit : RotatePermits tokenHash events effect) :
    RefreshPermits env tokenHash (before ++ events) effect := by
  cases effect <;> try trivial
  · obtain ⟨_, row, selected, _, _, user, family⟩ := permit
    exact ⟨row, selected.grow (List.subset_append_right _ _), family, user⟩
  · have incidental : Incidental _ := permit
    exact RefreshPermits.of_plain incidental.plain

theorem jwtVerify_ok {env : Env} {token : PresentedToken} {now : Nat} {claims : JwtAccessTokenClaims}
    (accepted : jwtVerify env token now = .ok claims) :
    ∃ jwt, token = .signed jwt ∧ claims = jwt.claims ∧ now / 1000 < claims.exp + clockTolerance := by
  unfold jwtVerify at accepted
  cases token with
  | forged text => cases accepted
  | signed jwt =>
    simp only at accepted
    split_ifs at accepted with _ _ _ _ late
    cases accepted
    exact ⟨jwt, rfl, rfl, Nat.lt_of_not_le late⟩

section Uses

variable (env : Env)

theorem toAuthenticatedUser_passive (row : UserRow) : (toAuthenticatedUser row).Uses Passive :=
  Program.Uses.bind (perform_uses trivial) fun _ => trivial

theorem findUserById_passive (id : String) : (findUserById id).Uses Passive := by
  refine Program.Uses.bind (perform_uses trivial) fun found => ?_
  rcases found with _ | row
  · trivial
  · exact (toAuthenticatedUser_passive row).bind fun _ => trivial

theorem findUserByEmail_passive (email : String) : (findUserByEmail env email).Uses Passive := by
  refine Program.Uses.bind (perform_uses trivial) fun found => ?_
  rcases found with _ | row
  · trivial
  · exact (toAuthenticatedUser_passive row).bind fun _ => trivial

theorem signAccessToken_passive (subject : AccessTokenSubject) : (signAccessToken env subject).Uses Passive :=
  Program.Uses.bind (perform_uses trivial) fun _ => Program.Uses.bind (perform_uses trivial) fun _ =>
    Program.Uses.bind (perform_uses trivial) fun _ => trivial

theorem verifyAccessToken_reading (token : PresentedToken) : (verifyAccessToken env token).Uses Reading := by
  have looks : ∀ jti, (isTokenRevoked jti).Uses Reading := fun jti =>
    Program.Uses.bind (perform_uses trivial) fun _ => trivial
  refine Program.Uses.bind (perform_uses trivial) fun _ => Program.Uses.bind (perform_uses trivial) fun now => ?_
  split
  · trivial
  · trivial
  · rename_i payload _
    refine (looks payload.jti).bind fun revoked => ?_
    cases revoked <;> trivial

theorem requireAccessToken_reading (bearer : Option PresentedToken) : (requireAccessToken env bearer).Uses Reading := by
  cases bearer with
  | none => trivial
  | some token => exact verifyAccessToken_reading env token

theorem verifyAccessToken_passive (token : PresentedToken) : (verifyAccessToken env token).Uses Passive :=
  (verifyAccessToken_reading env token).weaken fun _ reading => reading.passive

theorem requireAccessToken_passive (bearer : Option PresentedToken) : (requireAccessToken env bearer).Uses Passive :=
  (requireAccessToken_reading env bearer).weaken fun _ reading => reading.passive

theorem pollIdempotentResult_uses (idempotencyKey presentedTokenHash : String) (attempts : Nat) :
    (pollIdempotentResult idempotencyKey presentedTokenHash attempts).Uses Polls := by
  induction attempts with
  | zero => trivial
  | succ attempts ih =>
    have reads : (getIdempotencyCacheEntry idempotencyKey).Uses Polls := by
      refine Program.Uses.bind (perform_uses trivial) fun raw => ?_
      match raw with
      | none => trivial
      | some (.slot _) => trivial
      | some .flag => trivial
    have waits : (delay idempotencyClaimWaitMs).Uses Polls :=
      Program.Uses.bind (perform_uses trivial) fun _ => perform_uses trivial
    refine reads.bind fun entry => ?_
    match entry with
    | none => trivial
    | some (.done _) => trivial
    | some .pending => exact waits.bind fun _ => ih

theorem markLastLogin_uses (userId : String) : (markLastLogin userId).Uses Marks :=
  Program.Uses.bind (perform_uses trivial) fun _ => Program.Uses.bind (perform_uses trivial) fun _ =>
    perform_uses trivial

theorem auditRefusal_uses (error : AppError) : (auditRefusal error).Uses Audits := by
  unfold auditRefusal
  split
  · exact writeAuditEvent_uses _
  · trivial

theorem revokeToken_uses (jti : String) (expiresAt : Nat) : (revokeToken jti expiresAt).Uses ListsJti := by
  have ttl : (ttlSecondsUntil expiresAt).Uses ListsJti := Program.Uses.bind (perform_uses trivial) fun _ => trivial
  refine ttl.bind fun ttl => ?_
  split
  · trivial
  · exact perform_uses trivial

theorem revokeForLogout_uses (sub : String) (refreshToken : Option String) :
    (revokeForLogout env sub refreshToken).Uses Revokes := by
  unfold revokeForLogout
  split
  · exact revokeRefreshTokenByHash_uses _ _
  · exact revokeMostRecentRefreshTokenForUser_uses _ _

section Claims

variable {allows : Effect → Prop} {claimed : Option String}

theorem releaseClaim_uses (releases : ∀ key, claimed = some key → allows (.redisDel (.idempotencyRefresh key))) :
    (releaseClaim claimed).Uses allows := by
  cases claimed with
  | none => trivial
  | some key => exact perform_uses (releases key rfl)

theorem completeClaim_uses {result : CachedRefreshResult} (completes : ∀ key, claimed = some key →
    ∀ ttl, allows (.redisSet (.idempotencyRefresh key) (.slot (.done result)) ttl)) :
    (completeClaim claimed result).Uses allows := by
  cases claimed with
  | none => trivial
  | some key => exact perform_uses (completes key rfl _)

end Claims

end Uses

section Rules

variable {env : Env} {permits : List SessionEvent → Effect → Prop} {past : List SessionEvent}
  (quiet : ∀ events op, Plain op → permits (past ++ events) op)
include quiet

theorem writeAuditEvent_obeys (entry : AuditLogEntry) :
    (writeAuditEvent entry).Obeys permits (fun whole _ => past ⊆ whole) past := by
  refine ((writeAuditEvent_incidental entry).obeys fun events op incidental =>
    quiet events op incidental.plain).weaken (fun _ _ permit => permit) ?_
  rintro _ _ ⟨events, rfl, _⟩
  exact List.subset_append_left _ _

theorem toAuthenticatedUser_obeys (row : UserRow) :
    (toAuthenticatedUser row).Obeys permits
      (fun whole outcome => past ⊆ whole ∧
        ∀ user, outcome = .ok user → user.id = row.id ∧ user.isActive = row.isActive) past := by
  refine ⟨by simpa using quiet [] (.decryptEmail row.email row.tenantId) trivial, fun decrypted => ?_⟩
  rcases decrypted with thrown | email
  · exact ⟨by simp, nofun⟩
  · exact ⟨by simp, fun user same => by cases same; exact ⟨rfl, rfl⟩⟩

theorem findUserById_obeys (id : String) :
    (findUserById id).Obeys permits (fun whole outcome => past ⊆ whole ∧
      ∀ user, outcome = .ok (some user) → ∃ row, ReadUser whole id row ∧ user.id = row.id) past := by
  refine ⟨by simpa using quiet [] (.selectUserById id) trivial, fun selected => ?_⟩
  rcases selected with thrown | found
  · exact ⟨by simp, nofun⟩
  rcases found with _ | row
  · exact ⟨by simp, nofun⟩
  simp only [Program.done_ok_bind]
  refine (toAuthenticatedUser_obeys (fun events op plain => ?_) row).bind ?_ ?_
  · rw [List.append_assoc]
    exact quiet _ op plain
  · rintro whole thrown ⟨grown, _⟩
    exact ⟨fun _ member => grown (List.mem_append_left _ member), nofun⟩
  · rintro whole user ⟨grown, same⟩
    refine ⟨fun _ member => grown (List.mem_append_left _ member), fun other equal => ?_⟩
    cases equal
    exact ⟨row, grown (List.mem_append_right _ (List.mem_singleton.mpr rfl)), (same user rfl).1⟩

theorem findUserByEmail_obeys (email : String) :
    (findUserByEmail env email).Obeys permits (fun whole outcome => past ⊆ whole ∧
      ∀ user passwordHash, outcome = .ok (some (user, passwordHash)) →
        ∃ row, FoundUser whole (env.hashEmail email) row ∧ user.id = row.id ∧
          user.isActive = row.isActive) past := by
  refine ⟨by simpa using quiet [] (.selectUserByEmailHash (env.hashEmail email)) trivial, fun selected => ?_⟩
  rcases selected with thrown | found
  · exact ⟨by simp, nofun⟩
  rcases found with _ | row
  · exact ⟨by simp, nofun⟩
  simp only [Program.done_ok_bind]
  refine (toAuthenticatedUser_obeys (fun events op plain => ?_) row).bind ?_ ?_
  · rw [List.append_assoc]
    exact quiet _ op plain
  · rintro whole thrown ⟨grown, _⟩
    exact ⟨fun _ member => grown (List.mem_append_left _ member), nofun⟩
  · rintro whole user ⟨grown, same⟩
    refine ⟨fun _ member => grown (List.mem_append_left _ member), fun other passwordHash equal => ?_⟩
    cases equal
    exact ⟨row, grown (List.mem_append_right _ (List.mem_singleton.mpr rfl)), same user rfl⟩

theorem signAccessToken_obeys (subject : AccessTokenSubject) :
    (signAccessToken env subject).Obeys permits (fun whole outcome => past ⊆ whole ∧
      ∀ signed, outcome = .ok signed → signed.token.claims.sub = subject.sub ∧
        Drew whole signed.token.claims.jti) past := by
  refine ⟨by simpa using quiet [] .loadSigningKeys trivial, fun loaded => ?_⟩
  rcases loaded with thrown | _
  · exact ⟨by simp, nofun⟩
  refine ⟨quiet _ .randomString trivial, fun drawn => ?_⟩
  rcases drawn with thrown | jti
  · exact ⟨by simp, nofun⟩
  refine ⟨by simpa only [List.append_assoc] using quiet _ .dateNow trivial, fun clock => ?_⟩
  rcases clock with thrown | now
  · exact ⟨by simp, nofun⟩
  · exact ⟨by simp, fun signed same => by cases same; exact ⟨rfl, by simp [Drew]⟩⟩

theorem releaseClaim_obeys (claimed : Option String) :
    (releaseClaim claimed).Obeys permits (fun whole _ => past ⊆ whole) past := by
  cases claimed with
  | none => exact fun _ member => member
  | some key =>
    refine ⟨by simpa using quiet [] (.redisDel (.idempotencyRefresh key)) trivial, fun deleted => ?_⟩
    cases deleted <;> exact List.subset_append_left _ _

theorem auditRefusal_obeys (error : AppError) :
    (auditRefusal error).Obeys permits (fun whole _ => past ⊆ whole) past := by
  unfold auditRefusal
  split
  · exact writeAuditEvent_obeys quiet _
  · exact fun _ member => member

end Rules

theorem pollIdempotentResult_obeys {permits : List SessionEvent → Effect → Prop}
    {past : List SessionEvent} (idempotencyKey tokenHash : String) (attempts : Nat)
    (quiet : ∀ events op, Plain op → permits (past ++ events) op) :
    (pollIdempotentResult idempotencyKey tokenHash attempts).Obeys permits (fun whole outcome =>
      past ⊆ whole ∧ ∀ result, outcome = .ok (some result) →
        Seen whole result ∧ result.presentedTokenHash = tokenHash) past := by
  induction attempts generalizing past with
  | zero => exact ⟨fun _ member => member, nofun⟩
  | succ attempts ih =>
    refine ⟨by simpa using quiet [] (.redisGet (.idempotencyRefresh idempotencyKey)) trivial,
      fun got => ?_⟩
    rcases got with thrown | value
    · exact ⟨by simp, nofun⟩
    match value with
    | none => exact ⟨by simp, nofun⟩
    | some .flag => exact ⟨by simp, nofun⟩
    | some (.slot (.done result)) =>
      simp only [Program.pure_eq, Program.done_ok_bind]
      refine ⟨by simp, fun other same => ?_⟩
      split at same
      · rename_i presented
        cases same
        exact ⟨⟨_, List.mem_append_right _ (List.mem_singleton.mpr rfl)⟩, presented⟩
      · cases same
    | some (.slot .pending) =>
      simp only [Program.pure_eq, Program.done_ok_bind]
      refine ⟨quiet _ .dateNow trivial, fun clock => ?_⟩
      rcases clock with thrown | now
      · exact ⟨by simp, nofun⟩
      refine ⟨?_, fun slept => ?_⟩
      · rw [List.append_assoc]
        exact quiet _ _ trivial
      rcases slept with thrown | _
      · exact ⟨by simp, nofun⟩
      refine (ih (fun events op plain => ?_)).weaken (fun _ _ permit => permit) ?_
      · simp only [List.append_assoc]
        exact quiet _ op plain
      · rintro whole outcome ⟨grown, ended⟩
        exact ⟨fun _ member => grown (by simp [member]), ended⟩

theorem completeClaim_obeys {env : Env} {tokenHash : String} {past : List SessionEvent}
    (claimed : Option String) (result : CachedRefreshResult) (presented : result.presentedTokenHash = tokenHash)
    (produced : Produced env tokenHash past result.accessToken result.refreshToken) :
    (completeClaim claimed result).Obeys (RefreshPermits env tokenHash) (fun whole _ => past ⊆ whole) past := by
  cases claimed with
  | none => exact fun _ member => member
  | some key =>
    refine ⟨⟨result, rfl, presented, produced⟩, fun stored => ?_⟩
    cases stored <;> exact List.subset_append_left _ _

theorem rotateAndAnswer_obeys (env : Env) (refreshToken : String) (metadata : RefreshTokenMetadata)
    (claimed : Option String) (past : List SessionEvent) :
    (rotateAndAnswer env refreshToken metadata (env.sha256Hex refreshToken) claimed).Obeys
      (RefreshPermits env (env.sha256Hex refreshToken)) (RefreshEnds env (env.sha256Hex refreshToken)) past := by
  have quiet : ∀ before events op, Plain op →
      RefreshPermits env (env.sha256Hex refreshToken) (before ++ events) op :=
    fun _ _ _ plain => RefreshPermits.of_plain plain
  have permitted : ∀ events op, RotatePermits (env.sha256Hex refreshToken) events op →
      RefreshPermits env (env.sha256Hex refreshToken) (past ++ events) op :=
    fun _ _ permit => permit.refresh past
  have rotation := (rotateRefreshToken_obeys env refreshToken metadata).after permitted
  rw [List.append_nil] at rotation
  refine rotation.bind (fun _ _ _ => trivial) ?_
  rintro _ rotation ⟨events, rfl, ended⟩
  rcases rotation with error | rotated
  · refine (releaseClaim_obeys (quiet _) claimed).bind (fun _ _ _ => trivial) fun before _ _ => ?_
    refine (auditRefusal_obeys (quiet _) error).bind (fun _ _ _ => trivial) fun _ _ _ => ?_
    trivial
  obtain ⟨row, values, selected, active, consumed, inserted, hash, family, owner, user, drew⟩ := ended
  have grown : events ⊆ past ++ events := List.subset_append_right _ _
  generalize past ++ events = whole at grown
  refine (findUserById_obeys (quiet _) rotated.userId).bind (fun _ _ _ => trivial) ?_
  rintro reading found ⟨read, known⟩
  rcases found with _ | account
  · trivial
  obtain ⟨stored, readUser, same⟩ := known account rfl
  refine (signAccessToken_obeys (quiet _) (accessTokenSubject env account)).bind (fun _ _ _ => trivial) ?_
  rintro signing signed ⟨sign, made⟩
  obtain ⟨sub, jti⟩ := made signed rfl
  refine (writeAuditEvent_obeys (quiet _) _).bind (fun _ _ _ => trivial) ?_
  intro audited _ audit
  have since : reading ⊆ audited := fun _ member => audit (sign member)
  have all : events ⊆ audited := fun _ member => since (read (grown member))
  have produced : Produced env (env.sha256Hex refreshToken) audited signed.token rotated.issued.plaintext :=
    ⟨row, values, stored, selected.grow all, active, consumed.grow all, inserted.grow all, hash, family, owner,
      user ▸ since readUser, sub.trans same, all drew, audit jti⟩
  have complete := completeClaim_obeys claimed
    ⟨account.id, signed.token, rotated.issued.plaintext, env.sha256Hex refreshToken⟩ rfl produced
  refine complete.bind (fun _ _ _ => trivial) ?_
  exact fun _ _ complete => .inl (produced.grow complete)

theorem refresh_obeys (env : Env) (client : Client) (refreshToken : String)
    (idempotencyKey : Option String) :
    (refresh env client refreshToken idempotencyKey).Obeys
      (RefreshPermits env (env.sha256Hex refreshToken))
      (RefreshEnds env (env.sha256Hex refreshToken)) [] := by
  unfold refresh
  simp only [hashRefreshToken]
  split
  · exact rotateAndAnswer_obeys env refreshToken _ _ _
  rename_i key _
  refine ⟨rfl, fun claim => ?_⟩
  rcases claim with thrown | owned
  · trivial
  simp only [Program.done_ok_bind]
  split
  · exact rotateAndAnswer_obeys env refreshToken _ _ _
  refine (pollIdempotentResult_obeys key _ idempotencyClaimWaitAttempts fun _ _ plain =>
    RefreshPermits.of_plain plain).bind (fun _ _ _ => trivial) ?_
  rintro whole waited ⟨_, seen⟩
  rcases waited with _ | result
  · exact rotateAndAnswer_obeys env refreshToken _ _ _
  · obtain ⟨read, presented⟩ := seen result rfl
    exact .inr ⟨result, read, presented, rfl, rfl⟩

theorem Plain.not_insert {effect : Effect} (plain : Plain effect) (values : NewRefreshToken) :
    effect ≠ .insertRefreshToken values := by
  rintro rfl
  exact plain

theorem not_sent_append {past events : List SessionEvent} (unsent : ∀ values, ¬ Sent past values)
    (plain : ∀ event ∈ events, Plain event.op) (values : NewRefreshToken) :
    ¬ Sent (past ++ events) values :=
  fun sent => unsent values (sent_append (fun event member => (plain event member).not_insert) sent)

theorem login_obeys (env : Env) (client : Client) (email password : String) :
    (login env client email password).Obeys (LoginPermits (env.hashEmail email)) (LoginEnds env) [] := by
  have quiet : ∀ before events op, Plain op → LoginPermits (env.hashEmail email) (before ++ events) op :=
    fun _ _ _ plain => LoginPermits.of_plain plain
  have refuse : ∀ before entry error,
      (writeAuditEvent entry >>= fun _ => pure (.failed error) : Gateway Answer).Obeys
        (LoginPermits (env.hashEmail email)) (LoginEnds env) before :=
    fun _ entry _ => (writeAuditEvent_obeys (quiet _) entry).bind (fun _ _ _ => trivial) fun _ _ _ => trivial
  refine ((findUserByEmail_obeys (quiet _) email).and
    ((findUserByEmail_passive env email).obeys fun _ _ passive => quiet _ _ _ passive.plain)).bind
    (fun _ _ _ => trivial) ?_
  rintro past found ⟨⟨_, known⟩, finding, same, plain⟩
  have nothing : ∀ values, ¬ Sent [] values := by simp [Sent]
  have unsent : ∀ values, ¬ Sent past values := same ▸ not_sent_append nothing fun event member =>
    (plain event member).plain
  clear same plain
  rcases found with _ | ⟨user, passwordHash⟩
  · exact refuse _ _ _
  obtain ⟨row, read, same, _⟩ := known user passwordHash rfl
  simp only
  split
  · split
    · exact refuse _ _ _
    refine ((signAccessToken_obeys (quiet _) (accessTokenSubject env user)).and
      ((signAccessToken_passive env _).obeys fun _ _ passive => quiet _ _ _ passive.plain)).bind
      (fun _ _ _ => trivial) ?_
    rintro signing signed ⟨⟨grown, made⟩, events, same', plain⟩
    obtain ⟨sub, _⟩ := made signed rfl
    have unsent : ∀ values, ¬ Sent signing values := same' ▸ not_sent_append unsent fun event member =>
      (plain event member).plain
    simp only [issueRefreshToken_new]
    rw [Program.bind_eq, Program.bind_eq, Program.bind_assoc]
    refine ⟨by simpa using quiet signing [] .randomString trivial, fun drawn => ?_⟩
    rcases drawn with thrown | family
    · trivial
    simp only [Program.done_ok_bind]
    refine (issueRefreshToken_family_obeys user.id _ family (fun events op _ incidental =>
      quiet _ events op incidental.plain) ?_).bind (fun _ _ _ => trivial) ?_
    · intro events values only owner inFamily
      subst inFamily
      refine ⟨?_, by simp [Drew], row, by simp [FoundUser, grown read], owner.trans same⟩
      rw [List.append_assoc]
      refine not_sent_append unsent fun event member => ?_
      rcases List.mem_append.mp member with drew | later
      · rw [List.mem_singleton.mp drew]
        trivial
      · exact (only event later).plain
    rintro issued refresh ⟨_, values, inserted, hash, owner, _⟩
    refine ⟨by simpa using quiet issued [] .dateNow trivial, fun clock => ?_⟩
    rcases clock with thrown | now
    · trivial
    refine ⟨trivial, fun clock => ?_⟩
    rcases clock with thrown | now
    · trivial
    refine ⟨trivial, fun updated => ?_⟩
    rcases updated with thrown | _
    · trivial
    refine (writeAuditEvent_obeys (quiet _) _).bind (fun _ _ _ => trivial) ?_
    intro whole _ grown
    have before : issued ⊆ whole := fun _ member => grown (by simp [member])
    exact ⟨values, inserted.grow before, hash, owner.trans sub.symm⟩
  · exact refuse _ _ _

theorem Revokes.plain {effect : Effect} (revokes : Revokes effect) : Plain effect := by
  cases effect with
  | redisSet key value ttl => exact (Mirrors.incidental revokes).plain
  | _ => trivial

theorem logout_obeys (env : Env) (bearer : Option PresentedToken) (refreshToken : Option String) :
    (logout env bearer refreshToken).Obeys LogoutPermits LogoutEnds [] := by
  have plain : ∀ past events op, Plain op → LogoutPermits (past ++ events) op := fun _ _ _ plain => plain
  refine ((requireAccessToken_passive env bearer).obeys fun _ _ passive => plain [] _ _ passive.plain).bind
    (fun _ _ _ => nofun) fun verified answer _ => ?_
  rcases answer with error | auth
  · exact nofun
  refine ((revokeToken_uses auth.jti _).obeys
    fun events _ lists => plain verified events _ lists.plain).bind (fun _ _ _ => nofun) ?_
  intro listed _ _
  refine ((revokeForLogout_uses env auth.sub refreshToken).obeys
    fun events _ revokes => plain listed events _ revokes.plain).bind (fun _ _ _ => nofun) ?_
  intro revoked _ _
  exact (writeAuditEvent_obeys (plain revoked) _).bind (fun _ _ _ => nofun) fun _ _ _ => nofun

end GatewayProof
