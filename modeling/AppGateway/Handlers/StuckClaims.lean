import AppGateway.Async.Faults
import AppGateway.Handlers.IdempotentReplay

namespace GatewayProof

open Async GatewayModel
open Async.Program (Follows follows_done follows_await ThrowsFaults Executes)

def EndsClaim (key : String) : Effect → Prop
  | .redisSet (.idempotencyRefresh other) (.slot (.done _)) _ | .redisDel (.idempotencyRefresh other) => other = key
  | _ => False

def SettlesClaim (env : Env) (refreshToken key : String) (events : List SessionEvent)
    (outcome : Except Thrown Answer) : Prop :=
  ⟨.redisDel (.idempotencyRefresh key), .ok ()⟩ ∈ events ∨
  ∃ result ttlSeconds, ⟨.redisSet (.idempotencyRefresh key) (.slot (.done result)) ttlSeconds, .ok ()⟩ ∈ events ∧
    result.presentedTokenHash = env.sha256Hex refreshToken ∧
    outcome = .ok (.tokens (tokenResponse env result.accessToken result.refreshToken))

def Unhindered (events : List SessionEvent) : Prop :=
  Faultless Audits events ∧ ∀ userId, ⟨.selectUserById userId, .ok none⟩ ∉ events

inductive ClaimEnd (env : Env) (refreshToken key : String) (events : List SessionEvent) :
    Except Thrown Answer → Prop where
  | stuck {outcome} (routine : ∀ event ∈ events, Routine event.op) (hindered : ¬ Unhindered events) :
      ClaimEnd env refreshToken key events outcome
  | released {outcome first later} (split : events = first ++ ⟨.redisDel (.idempotencyRefresh key), .ok ()⟩ :: later)
      (before : ∀ event ∈ first, Routine event.op) (after : ∀ event ∈ later, Routine event.op)
      (unhindered : Unhindered events) : ClaimEnd env refreshToken key events outcome
  | completed {first} (result : CachedRefreshResult)
      (split : events = first ++ [⟨.redisSet (.idempotencyRefresh key) (.slot (.done result))
        idempotencyRefreshTtlSeconds, .ok ()⟩])
      (before : ∀ event ∈ first, Routine event.op) (presented : result.presentedTokenHash = env.sha256Hex refreshToken)
      (unhindered : Unhindered events) :
      ClaimEnd env refreshToken key events
        (.ok (.tokens (tokenResponse env result.accessToken result.refreshToken)))

section Faults

theorem throwsFaults_perform {effect : Effect} (other : ¬ Audits effect) :
    ThrowsFaults Audits (Gateway.perform effect) := .perform other

theorem writeAuditEvent_throwsFaults (entry : AuditLogEntry) : ThrowsFaults Audits (writeAuditEvent entry) :=
  .handle ⟨⟨entry, rfl⟩, fun _ => trivial⟩ fun _ => .value ()

variable (env : Env)

theorem cacheRefreshTokenRevocation_throwsFaults (tokenHash : String) (expiresAt : Nat) :
    ThrowsFaults Audits (cacheRefreshTokenRevocation tokenHash expiresAt) := by
  have ttl : ThrowsFaults Audits (ttlSecondsUntil expiresAt) :=
    (throwsFaults_perform (by simp [Audits])).bind fun _ => .value _
  refine ttl.bind fun ttl => ?_
  split
  · exact .value ()
  · exact throwsFaults_perform (by simp [Audits])

theorem revokeSessionFamily_throwsFaults (sessionFamily reason : String) :
    ThrowsFaults Audits (revokeSessionFamily sessionFamily reason) := by
  refine (throwsFaults_perform (by simp [Audits])).bind fun rows => ?_
  split
  · exact .value ()
  · refine (throwsFaults_perform (by simp [Audits])).bind fun _ =>
      (throwsFaults_perform (by simp [Audits])).bind fun _ => ?_
    refine .all fun program member => ?_
    obtain ⟨row, _, rfl⟩ := List.mem_map.mp member
    exact cacheRefreshTokenRevocation_throwsFaults _ _

theorem issueRefreshToken_throwsFaults (userId : String) (metadata : RefreshTokenMetadata) (family : String) :
    ThrowsFaults Audits (issueRefreshToken env userId metadata (some family)) := by
  have expiry : ThrowsFaults Audits (secondsFromNow env.refreshTokenTtlSeconds) :=
    (throwsFaults_perform (by simp [Audits])).bind fun _ => .value _
  exact (throwsFaults_perform (by simp [Audits])).bind fun _ => expiry.bind fun _ =>
    (throwsFaults_perform (by simp [Audits])).bind fun _ => .value _

theorem rotateRefreshToken_throwsFaults (plaintextToken : String) (metadata : RefreshTokenMetadata) :
    ThrowsFaults Audits (rotateRefreshToken env plaintextToken metadata) := by
  refine (throwsFaults_perform (by simp [Audits])).bind fun found => ?_
  cases found with
  | none => exact .value _
  | some row =>
    simp only
    split
    · exact (revokeSessionFamily_throwsFaults _ _).bind fun _ => (writeAuditEvent_throwsFaults _).bind fun _ => .value _
    · refine (throwsFaults_perform (by simp [Audits])).bind fun now => ?_
      split
      · exact .value _
      · exact (throwsFaults_perform (by simp [Audits])).bind fun _ =>
          (throwsFaults_perform (by simp [Audits])).bind fun _ =>
          (cacheRefreshTokenRevocation_throwsFaults _ _).bind fun _ =>
            (issueRefreshToken_throwsFaults env _ _ _).bind fun _ => .value _

theorem signAccessToken_throwsFaults (subject : AccessTokenSubject) :
    ThrowsFaults Audits (signAccessToken env subject) :=
  (throwsFaults_perform (by simp [Audits])).bind fun _ => (throwsFaults_perform (by simp [Audits])).bind fun _ =>
    (throwsFaults_perform (by simp [Audits])).bind fun _ => .value _

end Faults

def FindsNoUser (effect : Effect) : Prop := ∀ userId, effect ≠ .selectUserById userId

theorem Incidental.findsNoUser {effect : Effect} (incidental : Incidental effect) : FindsNoUser effect := by
  intro userId same
  rw [same] at incidental
  exact incidental

theorem rotateRefreshToken_findsNoUser (env : Env) (plaintextToken : String) (metadata : RefreshTokenMetadata) :
    (rotateRefreshToken env plaintextToken metadata).Uses FindsNoUser := by
  refine (rotateRefreshToken_obeys env plaintextToken metadata).uses fun past effect permit userId same => ?_
  rw [same] at permit
  exact permit

theorem signAccessToken_findsNoUser (env : Env) (subject : AccessTokenSubject) :
    (signAccessToken env subject).Uses FindsNoUser :=
  Program.Uses.bind (perform_uses (by simp [FindsNoUser])) fun _ =>
  Program.Uses.bind (perform_uses (by simp [FindsNoUser])) fun _ =>
    Program.Uses.bind (perform_uses (by simp [FindsNoUser])) fun _ => trivial

theorem writeAuditEvent_findsNoUser (entry : AuditLogEntry) : (writeAuditEvent entry).Uses FindsNoUser :=
  (writeAuditEvent_incidental entry).weaken fun _ incidental => incidental.findsNoUser

section Unhindered

variable {first rest : List SessionEvent}

theorem Unhindered.append (before : Unhindered first) (after : Unhindered rest) : Unhindered (first ++ rest) := by
  constructor
  · intro event member
    rcases List.mem_append.mp member with earlier | later
    · exact before.1 event earlier
    · exact after.1 event later
  · intro userId member
    rcases List.mem_append.mp member with earlier | later
    · exact before.2 userId earlier
    · exact after.2 userId later

theorem Unhindered.of_append (whole : Unhindered (first ++ rest)) : Unhindered first ∧ Unhindered rest :=
  ⟨⟨fun event member => whole.1 event (List.mem_append_left _ member),
      fun userId member => whole.2 userId (List.mem_append_left _ member)⟩,
    ⟨fun event member => whole.1 event (List.mem_append_right _ member),
      fun userId member => whole.2 userId (List.mem_append_right _ member)⟩⟩

theorem unhindered_ok {effect : Effect} {value : effect.Reply} (other : FindsNoUser effect) :
    Unhindered [⟨effect, .ok value⟩] := by
  constructor
  · intro event member thrown failed
    cases List.mem_singleton.mp member
    cases failed
  · intro userId member
    have same := congrArg Event.op (List.mem_singleton.mp member)
    exact other userId same.symm

theorem unhindered_audits {events : List SessionEvent} (audits : ∀ event ∈ events, Audits event.op) :
    Unhindered events := by
  constructor
  · intro event member _ _
    exact audits event member
  · intro userId member
    obtain ⟨entry, same⟩ := audits _ member
    cases same

theorem unhindered_cases {α : Type} {program : Gateway α} {events : List SessionEvent} {outcome : Except Thrown α}
    (throws : ThrowsFaults Audits program) (uses : program.Uses FindsNoUser)
    (follows : program.Follows events (.done outcome)) :
    (∃ value, outcome = .ok value ∧ Unhindered events) ∨ ∃ thrown, outcome = .error thrown ∧ ¬ Unhindered events := by
  rcases throws.ended follows with ⟨value, same, faultless⟩ | ⟨thrown, same, faults⟩
  · refine .inl ⟨value, same, faultless, fun userId member => ?_⟩
    exact follows.uses uses _ member userId rfl
  · exact .inr ⟨thrown, same, fun unhindered => faults unhindered.1⟩

end Unhindered

section Walk

variable {env : Env} {refreshToken key : String} {first rest events : List SessionEvent}
    {outcome : Except Thrown Answer}

theorem claim_part {α : Type} {program : Gateway α} {next : α → Gateway Answer}
    (follows : (program >>= next).Follows rest (.done outcome)) (throws : ThrowsFaults Audits program)
    (finds : program.Uses FindsNoUser) (routine : program.Uses Routine)
    (before : ∀ event ∈ first, Routine event.op) (unhindered : Unhindered first) :
    ClaimEnd env refreshToken key (first ++ rest) outcome ∨ ∃ part later value, rest = part ++ later ∧
      (∀ event ∈ first ++ part, Routine event.op) ∧ Unhindered (first ++ part) ∧
      (next value).Follows later (.done outcome) := by
  have routines : ∀ {part : List SessionEvent} {ended : Except Thrown α}, program.Follows part (.done ended) →
      ∀ event ∈ first ++ part, Routine event.op := by
    intro part ended part_follows event member
    rcases List.mem_append.mp member with earlier | later
    · exact before event earlier
    · exact part_follows.uses routine event later
  rcases follows.bind_cases with ⟨part, later, value, rfl, part_follows, onward⟩ | ⟨thrown, rfl, part_follows⟩
  · rcases unhindered_cases throws finds part_follows with ⟨_, _, clean⟩ | ⟨_, same, _⟩
    · exact .inr ⟨part, later, value, rfl, routines part_follows, unhindered.append clean, onward⟩
    · cases same
  · rcases unhindered_cases throws finds part_follows with ⟨_, same, _⟩ | ⟨_, _, hindered⟩
    · cases same
    · exact .inl (.stuck (routines part_follows) fun whole => hindered whole.of_append.2)

theorem claim_user {userId : String} {next : Option AuthenticatedUser → Gateway Answer}
    (follows : (findUserById userId >>= next).Follows rest (.done outcome)) (gone : ∃ answer, next none = pure answer)
    (before : ∀ event ∈ first, Routine event.op) (unhindered : Unhindered first) :
    ClaimEnd env refreshToken key (first ++ rest) outcome ∨ ∃ part later user, rest = part ++ later ∧
      (∀ event ∈ first ++ part, Routine event.op) ∧ Unhindered (first ++ part) ∧
      (next (some user)).Follows later (.done outcome) := by
  obtain ⟨reply, tail, split, onward⟩ := follows_await.mp follows
  subst split
  have routine : ∀ event ∈ first ++ [⟨.selectUserById userId, reply⟩], Routine event.op := by
    intro event member
    rcases List.mem_append.mp member with earlier | last
    · exact before event earlier
    · rw [List.mem_singleton.mp last]
      trivial
  rcases reply with thrown | found
  · obtain ⟨rfl, same⟩ := follows_done.mp onward
    refine .inl (.stuck routine fun whole => ?_)
    obtain ⟨entry, same⟩ := whole.1 ⟨.selectUserById userId, .error thrown⟩ (by simp) thrown rfl
    cases same
  cases found with
  | none =>
    obtain ⟨answer, none_answer⟩ := gone
    have ended : (pure answer : Gateway Answer).Follows tail (.done outcome) := by
      rw [← none_answer]
      exact onward
    obtain ⟨rfl, _⟩ := follows_done.mp ended
    exact .inl (.stuck routine fun whole => whole.2 userId (by simp))
  | some row =>
    have found : Unhindered [⟨.selectUserById userId, .ok (some row)⟩] := by
      constructor
      · intro event member thrown failed
        cases List.mem_singleton.mp member
        cases failed
      · intro other member
        have same := List.mem_singleton.mp member
        cases same
    have reads : (toAuthenticatedUser row >>= fun user => next (some user)).Follows tail (.done outcome) := by
      have nested : (((toAuthenticatedUser row).bind fun user => pure (some user)).bind next).Follows tail
          (.done outcome) := onward
      rw [Program.bind_assoc] at nested
      exact nested
    rcases claim_part reads ((throwsFaults_perform (by simp [Audits])).bind fun _ => .value _)
      (Program.Uses.bind (perform_uses (by simp [FindsNoUser])) fun _ => trivial)
      (Program.Uses.bind (perform_uses trivial) fun _ => trivial) routine (unhindered.append found) with
      ended | ⟨part, later, user, rfl, before, unhindered, rest⟩
    · rw [List.append_assoc] at ended
      exact .inl ended
    · refine .inr ⟨⟨.selectUserById userId, .ok (some row)⟩ :: part, later, user, rfl, ?_, ?_, rest⟩
      · simpa using before
      · simpa using unhindered

theorem claim_complete {stored : CachedRefreshResult}
    (follows : (completeClaim (some key) stored >>= fun _ =>
      pure (.tokens (tokenResponse env stored.accessToken stored.refreshToken))).Follows rest (.done outcome))
    (presented : stored.presentedTokenHash = env.sha256Hex refreshToken)
    (acknowledged : ∀ event ∈ rest, EndsClaim key event.op → ∀ thrown, event.reply ≠ .error thrown)
    (before : ∀ event ∈ first, Routine event.op) (unhindered : Unhindered first) :
    ClaimEnd env refreshToken key (first ++ rest) outcome := by
  obtain ⟨reply, tail, split, onward⟩ := follows_await.mp follows
  subst split
  cases reply with
  | error thrown =>
    exact absurd rfl (acknowledged _ (List.mem_cons_self ..) rfl thrown)
  | ok value =>
    obtain ⟨rfl, same⟩ := follows_done.mp onward
    cases same
    exact .completed stored rfl before presented (unhindered.append (unhindered_ok (by simp [FindsNoUser])))

theorem claimEnd_of_follows {metadata : RefreshTokenMetadata}
    (follows : (rotateAndAnswer env refreshToken metadata (hashRefreshToken env refreshToken) (some key)).Follows events
      (.done outcome))
    (acknowledged : ∀ event ∈ events, EndsClaim key event.op → ∀ thrown, event.reply ≠ .error thrown) :
    ClaimEnd env refreshToken key events outcome := by
  have clean : Unhindered ([] : List SessionEvent) := ⟨by simp [Faultless], by simp⟩
  rcases claim_part follows (rotateRefreshToken_throwsFaults env _ _) (rotateRefreshToken_findsNoUser env _ _)
    (rotateRefreshToken_routine env _ _) (by simp) clean with ended |
    ⟨first, later, rotation, rfl, before, unhindered, rest⟩
  · exact ended
  rw [List.nil_append] at before unhindered
  cases rotation with
  | error error =>
    -- A refused rotation: the claim is released before the audit.
    obtain ⟨reply, tail, split, onward⟩ := follows_await.mp rest
    subst split
    cases reply with
    | error thrown =>
      exact absurd rfl (acknowledged ⟨.redisDel (.idempotencyRefresh key), .error thrown⟩ (by simp) rfl thrown)
    | ok value =>
      have audits : (auditRefusal error >>= fun _ => pure (Answer.failed error) : Gateway Answer).Uses Audits :=
        (auditRefusal_uses error).bind fun _ => trivial
      have later := Follows.uses
        (show (auditRefusal error >>= fun _ => pure (Answer.failed error)).Follows tail _ from onward)
        audits
      have deleted : Unhindered [⟨.redisDel (.idempotencyRefresh key), .ok value⟩] :=
        unhindered_ok (by simp [FindsNoUser])
      refine .released rfl before (fun event member => ?_)
        (unhindered.append (deleted.append (unhindered_audits later)))
      obtain ⟨entry, same⟩ := later event member
      rw [same]
      trivial
  | ok rotated =>
    -- A rotated token: the claim is completed last, if the user is there.
    rcases claim_user rest ⟨_, rfl⟩ before unhindered with ended | ⟨part, later, user, rfl, before, unhindered, rest⟩
    · exact ended
    rw [← List.append_assoc] at acknowledged ⊢
    rcases claim_part rest (signAccessToken_throwsFaults env _) (signAccessToken_findsNoUser env _)
      (signAccessToken_routine env _) before unhindered with ended |
      ⟨part, later, signed, rfl, before, unhindered, rest⟩
    · exact ended
    rw [← List.append_assoc] at acknowledged ⊢
    rcases claim_part rest (writeAuditEvent_throwsFaults _) (writeAuditEvent_findsNoUser _)
      (writeAuditEvent_routine _) before unhindered with ended | ⟨part, later, _, rfl, before, unhindered, rest⟩
    · exact ended
    rw [← List.append_assoc] at acknowledged ⊢
    have presented : hashRefreshToken env refreshToken = env.sha256Hex refreshToken := rfl
    exact claim_complete rest presented (fun event member => acknowledged event (List.mem_append_right _ member)) before
      unhindered

end Walk

/-! The slot itself -/

section Slot

variable {env : Env} {key : String} {before after : GatewayState} {events : List SessionEvent}

theorem RedisStep.slot_kept {effect : Effect} (step : RedisStep before after effect) (routine : Routine effect)
    (now : Nat) :
    after.redis.get now (.idempotencyRefresh key) = before.redis.get now (.idempotencyRefresh key) := by
  cases step with
  | keep _ redis => rw [redis]
  | set name value ttl redis =>
    have other : .idempotencyRefresh key ≠ name := by
      intro same
      subst same
      exact routine
    rw [redis, Store.Expiring.get_set_other _ _ _ _ other]
  | setNx name value ttl free redis => exact routine.elim
  | del name redis => exact routine.elim

theorem executes_slot_kept (executes : Executes (execLater env) events before after)
    (routine : ∀ event ∈ events, Routine event.op) (now : Nat) :
    after.redis.get now (.idempotencyRefresh key) = before.redis.get now (.idempotencyRefresh key) := by
  let kept (state : GatewayState) : Prop :=
    state.redis.get now (.idempotencyRefresh key) = before.redis.get now (.idempotencyRefresh key)
  have initial : kept before := rfl
  have final : kept after := by
    refine executes.invariant initial fun event member choice state later same executed => ?_
    exact ((exec_redisStep executed).slot_kept (routine event member) now).trans same
  exact final

def claimEvent (key : String) : SessionEvent :=
  ⟨.redisSetNx (.idempotencyRefresh key) (.slot .pending) idempotencyRefreshTtlSeconds, .ok true⟩

theorem claimed_slot (executes : Executes (execLater env) [claimEvent key] before after) (now : Nat) :
    after.redis.get now (.idempotencyRefresh key) =
      if now < after.clock + idempotencyRefreshTtlSeconds * 1000 then some (.slot .pending) else none := by
  cases executes with
  | cons choice executed rest =>
    cases rest
    have responded := exec_ok executed
    simp only [respond, Store.Expiring.setNx] at responded
    split at responded
    · cases responded
    · cases responded
      exact Store.Expiring.get_set_same _ _ _ _ _

theorem released_slot {later : List SessionEvent}
    (executes : Executes (execLater env) (⟨.redisDel (.idempotencyRefresh key), .ok ()⟩ :: later) before after)
    (routine : ∀ event ∈ later, Routine event.op) (now : Nat) :
    after.redis.get now (.idempotencyRefresh key) = none := by
  cases executes with
  | cons choice executed rest =>
    have responded := exec_ok executed
    cases responded
    rw [executes_slot_kept rest routine]
    exact Store.Expiring.get_del_same _ _ _

theorem completed_slot {result : CachedRefreshResult} {ttlSeconds : Nat}
    (executes : Executes (execLater env)
      [⟨.redisSet (.idempotencyRefresh key) (.slot (.done result)) ttlSeconds, .ok ()⟩]
      before after) (now : Nat) : after.redis.get now (.idempotencyRefresh key) ≠ some (.slot .pending) := by
  cases executes with
  | cons choice executed rest =>
    cases rest
    have responded := exec_ok executed
    cases responded
    rw [Store.Expiring.get_set_same]
    split
    · intro same
      cases same
    · intro same
      cases same

end Slot

/-- A request that has won its claim, and whose last command on the slot does not fail, settles the claim exactly
    when nothing hinders it. Where no other request comes between, the slot is then not pending when it ends, and is
    otherwise pending until the claim expires. -/
theorem claim_settled_iff {env : Env} {client : Client} {refreshToken key : String} {events : List SessionEvent}
    {outcome : Except Thrown Answer} (named : key ≠ "")
    (follows : (refresh env client refreshToken (some key)).Follows (claimEvent key :: events) (.done outcome))
    (acknowledged : ∀ event ∈ events, EndsClaim key event.op → ∀ thrown, event.reply ≠ .error thrown) :
    (SettlesClaim env refreshToken key events outcome ↔ Unhindered events) ∧
    ∀ before claimed after, Executes (execLater env) [claimEvent key] before claimed →
      Executes (execLater env) events claimed after →
      (Unhindered events → ∀ now, after.redis.get now (.idempotencyRefresh key) ≠ some (.slot .pending)) ∧
      (¬ Unhindered events → ∀ now < claimed.clock + idempotencyRefreshTtlSeconds * 1000,
        after.redis.get now (.idempotencyRefresh key) = some (.slot .pending)) := by
  rw [refresh_keyed client refreshToken named] at follows
  have owned : (rotateAndAnswer env refreshToken (requestMeta client) (hashRefreshToken env refreshToken)
      (some key)).Follows events (.done outcome) := by
    cases follows with
    | next reply tail => exact tail
  cases claimEnd_of_follows owned acknowledged with
  | stuck routine hindered =>
    refine ⟨⟨fun settles => ?_, fun unhindered => absurd unhindered hindered⟩,
      fun before claimed after claim rest => ?_⟩
    · rcases settles with released | ⟨result, ttlSeconds, completed, _⟩
      · exact (routine _ released).elim
      · exact (routine _ completed).elim
    · refine ⟨fun unhindered => absurd unhindered hindered, fun _ now early => ?_⟩
      rw [executes_slot_kept rest routine, claimed_slot claim, if_pos early]
  | released split first later unhindered =>
    refine ⟨⟨fun _ => unhindered, fun _ => .inl (by simp [split])⟩, fun before claimed after claim rest => ?_⟩
    refine ⟨fun _ now pending => ?_, fun hindered => absurd unhindered hindered⟩
    rw [split] at rest
    obtain ⟨middle, _, rest⟩ := rest.append_cases
    rw [released_slot rest later] at pending
    cases pending
  | completed result split first presented unhindered =>
    refine ⟨⟨fun _ => unhindered, fun _ =>
      .inr ⟨result, idempotencyRefreshTtlSeconds, by simp [split], presented, rfl⟩⟩,
      fun before claimed after claim rest => ?_⟩
    refine ⟨fun _ now => ?_, fun hindered => absurd unhindered hindered⟩
    rw [split] at rest
    obtain ⟨middle, _, rest⟩ := rest.append_cases
    exact completed_slot rest now

def lookedUp (reply : Except Thrown (Option RefreshTokenRow)) (since : List SessionEvent) : List SessionEvent :=
  ⟨.selectRefreshTokenByHash (sampleEnv.sha256Hex "t9"), reply⟩ :: since

theorem refused_releases : ∃ entry outcome, SettlesClaim sampleEnv "t9" "k"
    (lookedUp (.ok none) [⟨.redisDel (.idempotencyRefresh "k"), .ok ()⟩, ⟨.insertAuditLog entry, .ok ()⟩]) outcome := by
  have followed : ∃ entry outcome, (refresh sampleEnv sampleClient "t9" (some "k")).Follows
      (claimEvent "k" :: lookedUp (.ok none)
        [⟨.redisDel (.idempotencyRefresh "k"), .ok ()⟩, ⟨.insertAuditLog entry, .ok ()⟩]) (.done outcome) :=
    ⟨_, _, .next _ (.next _ (.next _ (.next _ (.here _))))⟩
  obtain ⟨entry, outcome, follows⟩ := followed
  refine ⟨entry, outcome, (claim_settled_iff (by decide) follows ?_).1.mpr ⟨?_, ?_⟩⟩
  · simp [lookedUp]
  · simp [lookedUp, Faultless]
  · simp [lookedUp]

theorem failed_lookup_leaves_claim : ∃ outcome before claimed after,
    (refresh sampleEnv sampleClient "t9" (some "k")).Follows
      (claimEvent "k" :: lookedUp (.error .stepFailed) []) (.done outcome) ∧
    Executes (execLater sampleEnv) [claimEvent "k"] before claimed ∧
    Executes (execLater sampleEnv) (lookedUp (.error .stepFailed) []) claimed after ∧
    ¬ SettlesClaim sampleEnv "t9" "k" (lookedUp (.error .stepFailed) []) outcome ∧
    after.redis.get after.clock (.idempotencyRefresh "k") = some (.slot .pending) := by
  let start : GatewayState :=
    { clock := 0, users := [], refreshTokens := [], redis := [], auditLog := [], drawn := [] }
  refine ⟨_, start, _, _, .next _ (.next _ (.here _)), .cons (0, {}) rfl (.nil _),
    .cons (0, { fault := .lost }) rfl (.nil _), ?_, ?_⟩
  · simp [SettlesClaim, lookedUp]
  · decide

end GatewayProof
