import AppGateway.Handlers.Deactivation
import AppGateway.Handlers.Provisioned

namespace GatewayProof

open Async GatewayModel
open Async.System (Reaches)

/-- What `signAccessToken` makes for a user of the gateway. -/
def accessTokenOf (env : Env) (row : UserRow) (email : String) (now : Nat) (jti : String) : SignedJwt where
  kid := env.jwtKid
  claims :=
    { sub := row.id
      email
      roles := row.roles
      auth_method := .password
      tenant_id := row.tenantId
      scope := env.defaultUserScope
      iat := now / 1000
      nbf := now / 1000
      exp := now / 1000 + env.accessTokenTtlSeconds
      iss := env.gatewayBaseUrl
      aud := "platform"
      jti }

structure ReadAccount (past : List SessionEvent) (row : UserRow) (user : AuthenticatedUser) : Prop where
  read : (∃ emailHash, FoundUser past emailHash row) ∨ ∃ id, ReadUser past id row
  opened : ⟨.decryptEmail row.email row.tenantId, .ok user.email⟩ ∈ past
  same : user = ⟨row.id, user.email, row.roles, row.tenantId, row.isActive⟩

/-- The request has made this access token, for a user it has read. -/
def Minted (env : Env) (past : List SessionEvent) (token : SignedJwt) : Prop :=
  ∃ row user now jti, ReadAccount past row user ∧ ⟨.dateNow, .ok now⟩ ∈ past ∧ Drew past jti ∧
    token = accessTokenOf env row user.email now jti

theorem ReadAccount.grow {past whole : List SessionEvent} {row : UserRow} {user : AuthenticatedUser}
    (read : ReadAccount past row user) (grown : past ⊆ whole) : ReadAccount whole row user := by
  refine ⟨?_, grown read.opened, read.same⟩
  rcases read.read with ⟨emailHash, found⟩ | ⟨id, found⟩
  · exact .inl ⟨emailHash, grown found⟩
  · exact .inr ⟨id, grown found⟩

theorem Minted.grow {env : Env} {past whole : List SessionEvent} {token : SignedJwt} (minted : Minted env past token)
    (grown : past ⊆ whole) : Minted env whole token := by
  obtain ⟨row, user, now, jti, read, clock, drew, same⟩ := minted
  exact ⟨row, user, now, jti, read.grow grown, grown clock, grown drew, same⟩

theorem Minted.drew {env : Env} {past : List SessionEvent} {token : SignedJwt} (minted : Minted env past token) :
    Drew past token.claims.jti := by
  obtain ⟨row, user, now, jti, _, _, drew, rfl⟩ := minted
  exact drew

/-- What a finished slot entry holds was made by the request that stores it, which stores one at most. -/
def MintPermits (env : Env) (past : List SessionEvent) : Effect → Prop
  | .redisSet _ (.slot (.done result)) _ => Minted env past result.accessToken ∧ ∀ other, ¬ Stored past other
  | _ => True

def MintEnds (env : Env) (past : List SessionEvent) : Except Thrown Answer → Prop
  | .ok (.tokens body) =>
    (Minted env past body.access_token ∧ ∀ result, Stored past result →
      result.accessToken = body.access_token ∧ result.refreshToken = body.refresh_token) ∨
    ∃ result, Seen past result ∧ body.access_token = result.accessToken ∧ body.refresh_token = result.refreshToken
  | _ => True

def Storeless : Effect → Prop
  | .redisSet _ (.slot _) _ => False
  | _ => True

theorem Routine.storeless {effect : Effect} (routine : Routine effect) : Storeless effect := by
  cases effect with
  | redisSet key value ttl => cases key <;> cases value <;> first | exact routine.elim | trivial
  | _ => trivial

theorem Polls.storeless {effect : Effect} (polls : Polls effect) : Storeless effect := by
  cases effect <;> trivial

theorem Plain.storeless {effect : Effect} (plain : Plain effect) : Storeless effect := by
  cases effect with
  | redisSet key value ttl => cases value <;> first | exact plain.elim | trivial
  | _ => trivial

theorem MintPermits.of_storeless {env : Env} {past : List SessionEvent} {effect : Effect}
    (storeless : Storeless effect) :
    MintPermits env past effect := by
  cases effect with
  | redisSet key value ttl => cases value <;> first | exact storeless.elim | trivial
  | _ => trivial

theorem not_stored_append {past events : List SessionEvent} (unstored : ∀ result, ¬ Stored past result)
    (storeless : ∀ event ∈ events, Storeless event.op) : ∀ result, ¬ Stored (past ++ events) result := by
  rintro result ⟨key, ttl, reply, sent⟩
  rcases List.mem_append.mp sent with earlier | later
  · exact unstored result ⟨key, ttl, reply, earlier⟩
  · exact storeless _ later

section Mints

variable {env : Env} {past : List SessionEvent}

theorem toAuthenticatedUser_reads (row : UserRow)
    (found : (∃ emailHash, FoundUser past emailHash row) ∨ ∃ id, ReadUser past id row) :
    (toAuthenticatedUser row).Obeys Any (fun whole outcome => ∀ user, outcome = .ok user → ReadAccount whole row user)
      past := by
  refine ⟨trivial, fun opened => ?_⟩
  rcases opened with thrown | email
  · exact nofun
  · intro user same
    cases same
    refine ⟨?_, by simp, rfl⟩
    rcases found with ⟨emailHash, read⟩ | ⟨id, read⟩
    · exact .inl ⟨emailHash, List.mem_append_left _ read⟩
    · exact .inr ⟨id, List.mem_append_left _ read⟩

theorem findUserById_reads (id : String) :
    (findUserById id).Obeys Any (fun whole outcome => ∀ user, outcome = .ok (some user) →
      ∃ row, ReadAccount whole row user)
      past := by
  refine ⟨trivial, fun selected => ?_⟩
  rcases selected with thrown | found
  · exact nofun
  cases found with
  | none => exact nofun
  | some row =>
    have read : ReadUser (past ++ [⟨.selectUserById id, .ok (some row)⟩]) id row := by simp [ReadUser]
    refine (toAuthenticatedUser_reads row (.inr ⟨id, read⟩)).bind (fun _ _ _ => nofun) fun whole user account => ?_
    intro other same
    cases same
    exact ⟨row, account user rfl⟩

theorem findUserByEmail_reads (email : String) :
    (findUserByEmail env email).Obeys Any (fun whole outcome => ∀ user passwordHash,
      outcome = .ok (some (user, passwordHash)) → ∃ row, ReadAccount whole row user) past := by
  refine ⟨trivial, fun selected => ?_⟩
  rcases selected with thrown | found
  · exact nofun
  cases found with
  | none => exact nofun
  | some row =>
    have read : FoundUser (past ++ [⟨.selectUserByEmailHash (env.hashEmail email), .ok (some row)⟩])
        (env.hashEmail email) row := by simp [FoundUser]
    refine (toAuthenticatedUser_reads row (.inl ⟨_, read⟩)).bind (fun _ _ _ => nofun) fun whole user account => ?_
    intro other passwordHash same
    cases same
    exact ⟨row, account user rfl⟩

theorem signAccessToken_mints {row : UserRow} {user : AuthenticatedUser} (read : ReadAccount past row user) :
    (signAccessToken env (accessTokenSubject env user)).Obeys Any (fun whole outcome =>
      ∀ signed, outcome = .ok signed → Minted env whole signed.token) past := by
  refine ⟨trivial, fun loaded => ?_⟩
  rcases loaded with thrown | _
  · exact nofun
  refine ⟨trivial, fun drawn => ?_⟩
  rcases drawn with thrown | jti
  · exact nofun
  refine ⟨trivial, fun clock => ?_⟩
  rcases clock with thrown | now
  · exact nofun
  intro signed same
  cases same
  refine ⟨row, user, now, jti, read.grow (by simp), by simp, by simp [Drew], ?_⟩
  rw [read.same]
  rfl

theorem storeless_mints {α : Type} {program : Gateway α} {ends : List SessionEvent → Except Thrown α → Prop}
    (storeless : program.Uses Storeless) (known : program.Obeys Any ends past)
    (unstored : ∀ result, ¬ Stored past result) :
    program.Obeys (MintPermits env)
      (fun whole outcome => past ⊆ whole ∧ (∀ result, ¬ Stored whole result) ∧ ends whole outcome) past := by
  refine ((storeless.obeys fun _ _ => MintPermits.of_storeless).also known).weaken (fun _ _ permit => permit) ?_
  rintro _ outcome ⟨⟨events, rfl, only⟩, ended⟩
  exact ⟨List.subset_append_left _ _, not_stored_append unstored only, ended⟩

theorem routine_mints {α : Type} {program : Gateway α} {ends : List SessionEvent → Except Thrown α → Prop}
    (routine : program.Uses Routine) (known : program.Obeys Any ends past) (unstored : ∀ result, ¬ Stored past result) :
    program.Obeys (MintPermits env)
      (fun whole outcome => past ⊆ whole ∧ (∀ result, ¬ Stored whole result) ∧ ends whole outcome) past :=
  storeless_mints (routine.weaken fun _ routine => routine.storeless) known unstored

theorem nothing_known {α : Type} (program : Gateway α) : program.Obeys Any (fun _ _ => True) past :=
  (Program.obeys_grow program past).weaken (fun _ _ permit => permit) fun _ _ _ => trivial

theorem releaseClaim_mints (claimed : Option String) :
    (releaseClaim claimed).Obeys (MintPermits env) (fun _ _ => True) past := by
  cases claimed with
  | none => trivial
  | some key => exact ⟨trivial, fun deleted => by cases deleted <;> trivial⟩

theorem completeClaim_mints (claimed : Option String) (result : CachedRefreshResult)
    (minted : Minted env past result.accessToken) (unstored : ∀ other, ¬ Stored past other) :
    (completeClaim claimed result).Obeys (MintPermits env)
      (fun whole _ => past ⊆ whole ∧ ∀ other, Stored whole other → other = result) past := by
  cases claimed with
  | none => exact ⟨fun _ member => member, fun other stored => (unstored other stored).elim⟩
  | some key =>
    refine ⟨⟨minted, unstored⟩, fun stored => ?_⟩
    have last : ∀ other, Stored (past ++ [⟨.redisSet (.idempotencyRefresh key) (.slot (.done result))
        idempotencyRefreshTtlSeconds, stored⟩]) other → other = result := by
      rintro other ⟨_, ttl, reply, sent⟩
      rcases List.mem_append.mp sent with earlier | now
      · exact (unstored other ⟨_, ttl, reply, earlier⟩).elim
      · cases List.mem_singleton.mp now
        rfl
    cases stored <;> exact ⟨List.subset_append_left _ _, last⟩

theorem rotateAndAnswer_mints (refreshToken presentedTokenHash : String) (metadata : RefreshTokenMetadata)
    (claimed : Option String) (unstored : ∀ result, ¬ Stored past result) :
    (rotateAndAnswer env refreshToken metadata presentedTokenHash claimed).Obeys (MintPermits env)
    (MintEnds env) past := by
  refine (routine_mints (rotateRefreshToken_routine env refreshToken metadata) (nothing_known _) unstored).bind
    (fun _ _ _ => trivial) ?_
  rintro rotating rotation ⟨_, unstored, _⟩
  rcases rotation with error | rotated
  · refine (releaseClaim_mints claimed).bind (fun _ _ _ => trivial) fun released _ _ => ?_
    exact ((auditRefusal_routine error).obeys fun _ _ routine => MintPermits.of_storeless routine.storeless).bind
      (fun _ _ _ => trivial)
      fun _ _ _ => trivial
  refine (routine_mints ((findUserById_passive rotated.userId).weaken fun _ passive => passive.routine)
    (findUserById_reads rotated.userId) unstored).bind (fun _ _ _ => trivial) ?_
  rintro reading found ⟨_, unstored, known⟩
  rcases found with _ | user
  · trivial
  obtain ⟨row, account⟩ := known user rfl
  refine (routine_mints (signAccessToken_routine env _) (signAccessToken_mints account) unstored).bind
    (fun _ _ _ => trivial) ?_
  rintro signing signed ⟨_, unstored, made⟩
  have minted := made signed rfl
  refine (routine_mints (writeAuditEvent_routine _) (nothing_known _) unstored).bind (fun _ _ _ => trivial) ?_
  rintro audited _ ⟨grown, unstored, _⟩
  refine (completeClaim_mints claimed _ (minted.grow grown) unstored).bind (fun _ _ _ => trivial) ?_
  rintro whole _ ⟨later, only⟩
  refine .inl ⟨minted.grow fun _ member => later (grown member), fun result stored => ?_⟩
  rw [only result stored]
  exact ⟨rfl, rfl⟩

theorem refresh_mints (client : Client) (refreshToken : String) (idempotencyKey : Option String) :
    (refresh env client refreshToken idempotencyKey).Obeys (MintPermits env) (MintEnds env) [] := by
  have nothing : ∀ result, ¬ Stored [] result := by simp [Stored]
  unfold refresh
  simp only
  split
  · exact rotateAndAnswer_mints refreshToken _ _ _ nothing
  rename_i key _
  refine ⟨trivial, fun claim => ?_⟩
  have claimed : ∀ result, ¬ Stored [⟨.redisSetNx (.idempotencyRefresh key) (.slot .pending)
      idempotencyRefreshTtlSeconds, claim⟩] result := by
    rintro result ⟨_, ttl, reply, sent⟩
    cases List.mem_singleton.mp sent
  rcases claim with thrown | owned
  · trivial
  simp only [Program.done_ok_bind]
  split
  · exact rotateAndAnswer_mints refreshToken _ _ _ claimed
  have polls := (pollIdempotentResult_uses key (hashRefreshToken env refreshToken)
    idempotencyClaimWaitAttempts).weaken fun _ polls => polls.storeless
  have reads := pollIdempotentResult_obeys key (hashRefreshToken env refreshToken) idempotencyClaimWaitAttempts
    (any_permitted [⟨.redisSetNx (.idempotencyRefresh key) (.slot .pending) idempotencyRefreshTtlSeconds, .ok owned⟩])
  refine (storeless_mints polls reads claimed).bind (fun _ _ _ => trivial) ?_
  rintro whole waited ⟨_, unstored, _, seen⟩
  rcases waited with _ | result
  · exact rotateAndAnswer_mints refreshToken _ _ _ unstored
  · exact .inr ⟨result, (seen result rfl).1, rfl, rfl⟩

theorem login_mints (client : Client) (email password : String) :
    (login env client email password).Obeys (MintPermits env) (MintEnds env) [] := by
  have nothing : ∀ result, ¬ Stored [] result := by simp [Stored]
  have made : (login env client email password).Obeys Any (fun whole outcome => ∀ body,
      outcome = .ok (.tokens body) → Minted env whole body.access_token) [] := by
    refine (findUserByEmail_reads email).bind (fun _ _ _ => nofun) fun reading found known => ?_
    rcases found with _ | ⟨user, passwordHash⟩
    · exact (nothing_known _).bind (fun _ _ _ => nofun) fun _ _ _ => nofun
    obtain ⟨row, account⟩ := known user passwordHash rfl
    simp only
    split
    · split
      · exact (nothing_known _).bind (fun _ _ _ => nofun) fun _ _ _ => nofun
      refine (signAccessToken_mints account).bind (fun _ _ _ => nofun) fun signing signed minted => ?_
      refine (Program.obeys_grow _ signing).bind (fun _ _ _ => nofun) fun issued _ first => ?_
      refine (Program.obeys_grow _ issued).bind (fun _ _ _ => nofun) fun marked _ second => ?_
      refine (Program.obeys_grow _ marked).bind (fun _ _ _ => nofun) fun whole _ third => ?_
      intro body same
      cases same
      exact (minted signed rfl).grow fun _ member => third (second (first member))
    · exact (nothing_known _).bind (fun _ _ _ => nofun) fun _ _ _ => nofun
  refine (routine_mints (login_routine env client email password) made nothing).weaken (fun _ _ permit => permit) ?_
  rintro whole outcome ⟨_, unstored, minted⟩
  cases outcome with
  | error thrown => trivial
  | ok answer =>
    cases answer with
    | tokens body => exact .inl ⟨minted body rfl, fun result stored => (unstored result stored).elim⟩
    | noContent | failed => trivial

theorem HandlerCall.code_mints (env : Env) (call : HandlerCall) :
    (call.code env).Obeys (MintPermits env) (MintEnds env) [] := by
  cases call with
  | login client email password => exact login_mints client email password
  | refresh client refreshToken idempotencyKey => exact refresh_mints client refreshToken idempotencyKey
  | logout bearer refreshToken =>
    refine (logout_obeys env bearer refreshToken).weaken (fun _ _ plain =>
      MintPermits.of_storeless (Plain.storeless plain)) ?_
    intro whole outcome ended
    cases outcome with
    | error thrown => trivial
    | ok answer =>
      cases answer with
      | tokens body => exact (ended body rfl).elim
      | noContent | failed => trivial

end Mints

theorem stored_minted {env : Env} {past : List SessionEvent} {result : CachedRefreshResult}
    (lawful : Lawful (MintPermits env) past) (stored : Stored past result) :
    Minted env past result.accessToken ∧ ∀ other, Stored past other → other = result := by
  obtain ⟨key, ttl, reply, sent⟩ := stored
  obtain ⟨before, after, rfl, minted, unstored⟩ := lawful.of_mem sent
  refine ⟨minted.grow (by simp), ?_⟩
  rintro other ⟨key', ttl', reply', sent'⟩
  rcases List.mem_append.mp sent' with earlier | here
  · exact (unstored other ⟨key', ttl', reply', earlier⟩).elim
  rcases List.mem_cons.mp here with same | later
  · cases same
    rfl
  · obtain ⟨middle, rest, rfl⟩ := List.append_of_mem later
    have permit := lawful (before ++ ⟨.redisSet key (.slot (.done result)) ttl, reply⟩ :: middle)
      ⟨.redisSet key' (.slot (.done other)) ttl', reply'⟩ rest (by simp)
    exact (permit.2 result ⟨key, ttl, reply, by simp⟩).elim

section Runs

variable {env : Env} {allowed : HandlerConfig → HandlerLabel → Prop} {config : HandlerConfig}

/-- The request that made the access token of an answer: the one that answers, or the writer of the slot it read. -/
structure Minter (env : Env) (minter thread : HandlerThread) (body : TokenResponse) : Prop where
  minted : Minted env minter.past body.access_token
  pair : ∀ result, Stored minter.past result →
    result.accessToken = body.access_token ∧ result.refreshToken = body.refresh_token
  origin : minter = thread ∨ ∃ result, Stored minter.past result

theorem answered_minter (reachable : HandlersReachable env allowed config) {thread : HandlerThread}
    (member : thread ∈ config.threads) {body : TokenResponse} (answered : thread.answered (.ok (.tokens body))) :
    ∃ minter ∈ config.threads, Minter env minter thread body := by
  have disciplined : ∀ thread ∈ config.threads,
      System.Disciplined (fun _ => MintPermits env) (fun _ => MintEnds env) thread := by
    obtain ⟨clock, users, reached⟩ := reachable
    exact Reaches.disciplined (HandlerCall.code_mints env) reached rfl
  rcases (disciplined thread member).ended answered with ⟨minted, pair⟩ | ⟨result, seen, access, refresh⟩
  · exact ⟨thread, member, minted, pair, .inl rfl⟩
  · obtain ⟨writer, present, stored⟩ := reachable.slots.seen thread member result seen
    obtain ⟨minted, only⟩ := stored_minted (disciplined writer present).1 stored
    refine ⟨writer, present, access ▸ minted, fun other sent => ?_, .inr ⟨result, stored⟩⟩
    rw [only other sent]
    exact ⟨access.symm, refresh.symm⟩

/-- Two answers whose access tokens have the same id are of one pair of tokens: no id is given to two access tokens, so
    that the revocation of one never hits another. -/
theorem access_token_ids_unique (reachable : HandlersReachable env allowed config) {thread other : HandlerThread}
    (member : thread ∈ config.threads) (present : other ∈ config.threads) {body body' : TokenResponse}
    (answered : thread.answered (.ok (.tokens body))) (answered' : other.answered (.ok (.tokens body')))
    (same : body'.access_token.claims.jti = body.access_token.claims.jti) :
    body'.access_token = body.access_token ∧ body'.refresh_token = body.refresh_token := by
  obtain ⟨minter, held, first⟩ := answered_minter reachable member answered
  obtain ⟨minter', held', second⟩ := answered_minter reachable present answered'
  obtain ⟨index, found⟩ := List.getElem?_of_mem held
  obtain ⟨place, found'⟩ := List.getElem?_of_mem held'
  obtain rfl : place = index :=
    (handlers_lineage reachable).draws.apart _ _ _ _ _ found' found (same ▸ second.minted.drew) first.minted.drew
  obtain rfl := Option.some.inj (found'.symm.trans found)
  rcases first.origin with rfl | ⟨result, stored⟩
  · rcases second.origin with rfl | ⟨result, stored⟩
    · have bodies := answered'.symm.trans answered
      cases bodies
      exact ⟨rfl, rfl⟩
    · have own := first.pair result stored
      have theirs := second.pair result stored
      exact ⟨theirs.1.symm.trans own.1, theirs.2.symm.trans own.2⟩
  · have own := first.pair result stored
    have theirs := second.pair result stored
    exact ⟨theirs.1.symm.trans own.1, theirs.2.symm.trans own.2⟩

theorem access_token_ids_unique_retried : ∃ config : HandlerConfig, ∃ thread ∈ config.threads,
    ∃ other ∈ config.threads, ∃ body body', thread.answered (.ok (.tokens body)) ∧
      other.answered (.ok (.tokens body')) ∧ body'.access_token = body.access_token ∧
      body'.refresh_token = body.refresh_token := by
  have passed : ((handlers sampleEnv).run retriedRefresh (freshGateway 0 [sampleUser "u" "u@example.com"])).any
      (fun config => config.threads[1]?.any fun thread => config.threads[2]?.any fun other =>
        (answeredTokens thread).any fun body => (answeredTokens other).any fun body' =>
          body'.access_token.claims.jti = body.access_token.claims.jti) = true := by decide +kernel
  obtain ⟨config, reached, checked⟩ := Reaches.of_check passed
  obtain ⟨thread, found, checked⟩ := (Option.any_eq_true _ _).mp checked
  obtain ⟨other, found', checked⟩ := (Option.any_eq_true _ _).mp checked
  obtain ⟨body, answered, checked⟩ := (Option.any_eq_true _ _).mp checked
  obtain ⟨body', answered', same⟩ := (Option.any_eq_true _ _).mp checked
  have reachable : HandlersReachable sampleEnv System.anyStep config := ⟨_, _, reached⟩
  have member := List.mem_of_getElem? found
  have present := List.mem_of_getElem? found'
  exact ⟨config, thread, member, other, present, body, body', answeredTokens_spec answered,
    answeredTokens_spec answered',
    access_token_ids_unique reachable member present (answeredTokens_spec answered) (answeredTokens_spec answered')
      (of_decide_eq_true same)⟩

end Runs

end GatewayProof
