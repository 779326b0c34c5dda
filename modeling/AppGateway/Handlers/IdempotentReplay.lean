import AppGateway.Handlers.LogoutScope
import AppGateway.Handlers.Routine

namespace GatewayProof

open Async GatewayModel
open Async.Program (Completes completes_done completes_await completes_perform)

def SparesSlot (key : String) : Effect → Prop
  | .redisSet (.idempotencyRefresh other) .. | .redisDel (.idempotencyRefresh other) => other ≠ key
  | _ => True

theorem Routine.sparesSlot {key : String} {effect : Effect} (routine : Routine effect) : SparesSlot key effect := by
  cases effect with
  | redisSet name value ttl => cases name <;> cases value <;> trivial
  | redisDel name => exact routine.elim
  | _ => trivial

theorem Polls.sparesSlot {key : String} {effect : Effect} (polls : Polls effect) : SparesSlot key effect := by
  cases effect <;> trivial

def SlotDone (key : String) (result : CachedRefreshResult) (expiresAt : Nat) (state : GatewayState) : Prop :=
  ∀ now, state.clock ≤ now → now < expiresAt →
    state.redis.get now (.idempotencyRefresh key) = some (.slot (.done result))

/-- Requests one after another, each with any waits and failures, and what happens between them. -/
inductive Sequential (env : Env) (start : GatewayState) : GatewayState → Prop where
  | start : Sequential env start start
  | request {before after : GatewayState} {outcome : Except Thrown Answer} (earlier : Sequential env start before)
      (call : HandlerCall)
      (completes : Completes (execLater env) (fun _ => True) (call.code env) before outcome after) :
      Sequential env start after
  | event {before : GatewayState} (earlier : Sequential env start before) (event : External) :
      Sequential env start (external event before)

/-- The request has claimed the slot, and has gone on until it had completed it with this result. -/
structure CompletesSlot (env : Env) (client : Client) (refreshToken key : String) (before : GatewayState)
    (outcome : Except Thrown Answer) (after : GatewayState) (result : CachedRefreshResult) : Prop where
  named : key ≠ ""
  owned : ∃ claimed, Completes (execLater env) (fun _ => True) (claimIdempotencyKey key) before (.ok true) claimed ∧
    Completes (execLater env) (fun _ => True) (rotateAndAnswer env refreshToken (requestMeta client)
      (hashRefreshToken env refreshToken) (some key)) claimed outcome after
  completed : after.redis.get after.clock (.idempotencyRefresh key) = some (.slot (.done result))

structure Replays (env : Env) (refreshToken key : String) (pair : TokenResponse) (deadline : Nat)
    (start : GatewayState) : Prop where
  identical : ∀ client outcome final, Completes (execLater env) (fun choice => choice.2.fault = .none)
    (refresh env client refreshToken (some key)) start outcome final → final.clock < deadline →
    outcome = .ok (.tokens pair)
  unchanged : ∀ client outcome final, Completes (execLater env) (fun _ => True)
    (refresh env client refreshToken (some key)) start outcome final → final.clock < deadline →
    final.refreshTokens = start.refreshTokens
  possible : ∀ client, start.clock < deadline → ∃ final,
    Completes (execLater env) (fun choice => choice.2.fault = .none)
      (refresh env client refreshToken (some key)) start (.ok (.tokens pair)) final ∧ final.clock = start.clock

section Steps

variable {env : Env} {key : String} {result : CachedRefreshResult} {expiresAt : Nat} {before after : GatewayState}

theorem SlotDone.later (done : SlotDone key result expiresAt before) (clock : before.clock ≤ after.clock)
    (redis : after.redis = before.redis) : SlotDone key result expiresAt after := by
  intro now since early
  rw [redis]
  exact done now (Nat.le_trans clock since) early

theorem SlotDone.expired (late : expiresAt ≤ after.clock) : SlotDone key result expiresAt after :=
  fun _ since early => absurd (Nat.le_trans late since) (Nat.not_le_of_lt early)

theorem RedisStep.slotDone {effect : Effect} (step : RedisStep before after effect) (spares : SparesSlot key effect)
    (clock : before.clock ≤ after.clock) (done : SlotDone key result expiresAt before) :
    SlotDone key result expiresAt after := by
  intro now since early
  have held := done now (Nat.le_trans clock since) early
  cases step with
  | keep _ redis => rw [redis, held]
  | set other value ttl redis =>
    rw [redis, Store.Expiring.get_set_other _ _ _ _ ?_, held]
    rintro rfl
    exact spares rfl
  | setNx other value ttl free redis =>
    rw [redis, Store.Expiring.get_set_other _ _ _ _ ?_, held]
    rintro rfl
    rw [done _ (Nat.le_refl _) (Nat.lt_of_le_of_lt (Nat.le_trans clock since) early)] at free
    cases free
  | del other redis =>
    rw [redis, Store.Expiring.get_del_other _ _ ?_, held]
    rintro rfl
    exact spares rfl

theorem execLater_clock {effect : Effect} {choice : Nat × Choice} {reply : Except Thrown effect.Reply}
    (executed : execLater env effect choice before = some (reply, after)) : before.clock ≤ after.clock := by
  have grows : Grows (external (.elapse choice.1) before) after := (exec_tableStep executed).grows
  exact Nat.le_trans (Nat.le_add_right _ _) grows.clock

theorem execLater_slotDone {effect : Effect} {choice : Nat × Choice} {reply : Except Thrown effect.Reply}
    (executed : execLater env effect choice before = some (reply, after)) (spares : SparesSlot key effect)
    (done : SlotDone key result expiresAt before) : SlotDone key result expiresAt after := by
  have waited : SlotDone key result expiresAt (external (.elapse choice.1) before) :=
    done.later (Nat.le_add_right _ _) rfl
  have grows : Grows (external (.elapse choice.1) before) after := (exec_tableStep executed).grows
  exact (exec_redisStep executed).slotDone spares grows.clock waited

variable {α : Type} {program : Gateway α} {outcome : Except Thrown α} {sound : Nat × Choice → Prop}

theorem clock_later (completes : Completes (execLater env) sound program before outcome after) :
    before.clock ≤ after.clock := by
  have any : program.Uses fun _ => True := (Program.obeys_grow program []).uses fun _ _ permit => permit
  apply completes.invariant any (Nat.le_refl _)
  intro effect choice reply start later _ reached executed
  exact Nat.le_trans reached (execLater_clock executed)

theorem slotDone_later (completes : Completes (execLater env) sound program before outcome after)
    (uses : program.Uses (SparesSlot key)) (done : SlotDone key result expiresAt before) :
    SlotDone key result expiresAt after :=
  completes.invariant uses done fun _ _ _ _ _ spares done executed => execLater_slotDone executed spares done

end Steps

section Requests

variable {env : Env} {key : String} {result : CachedRefreshResult} {expiresAt : Nat} {before after : GatewayState}
  {sound : Nat × Choice → Prop}

theorem refresh_keyed (client : Client) (refreshToken : String) (named : key ≠ "") :
    refresh env client refreshToken (some key) = claimIdempotencyKey key >>= fun owned =>
      if owned then rotateAndAnswer env refreshToken (requestMeta client) (hashRefreshToken env refreshToken) (some key)
      else waitForIdempotentResult key (hashRefreshToken env refreshToken) >>= fun waited =>
        match waited with
        | some result => pure (.tokens (tokenResponse env result.accessToken result.refreshToken))
        | none => rotateAndAnswer env refreshToken (requestMeta client) (hashRefreshToken env refreshToken) none := by
  have filtered : truthy (some key) = some key := by simp [truthy, named]
  unfold refresh
  generalize truthy (some key) = given at filtered ⊢
  subst filtered
  rfl

theorem rotateAndAnswer_unowned (refreshToken : String) (metadata : RefreshTokenMetadata) (tokenHash : String) :
    (rotateAndAnswer env refreshToken metadata tokenHash none).Uses (SparesSlot key) :=
  rotateAndAnswer_uses (fun _ routine => routine.sparesSlot) env refreshToken metadata tokenHash none nofun

theorem claim_free (completes : Completes (execLater env) sound (claimIdempotencyKey key) before (.ok true) after)
    (done : SlotDone key result expiresAt before) : expiresAt ≤ after.clock := by
  obtain ⟨choice, _, executed⟩ := completes_perform.mp completes
  have grows : Grows (external (.elapse choice.1) before) after := (exec_tableStep executed).grows
  by_contra early
  have held := done _ (Nat.le_add_right _ choice.1) (Nat.lt_of_le_of_lt grows.clock (Nat.lt_of_not_le early))
  have responded := exec_ok executed
  simp only [respond, Store.Expiring.setNx] at responded
  rw [show (external (.elapse choice.1) before).redis.get (external (.elapse choice.1) before).clock
    (.idempotencyRefresh key) = _ from held] at responded
  cases responded

theorem refresh_own_slotDone {client : Client} {refreshToken : String} {outcome : Except Thrown Answer}
    (named : key ≠ "")
    (completes : Completes (execLater env) sound (refresh env client refreshToken (some key)) before outcome after)
    (done : SlotDone key result expiresAt before) : SlotDone key result expiresAt after := by
  rw [refresh_keyed client refreshToken named] at completes
  have claims : (claimIdempotencyKey key).Uses (SparesSlot key) := perform_uses trivial
  rcases completes.bind_cases with ⟨owned, claimed, claim, rest⟩ | ⟨thrown, _, claim⟩
  · have still := slotDone_later claim claims done
    cases owned with
    | true => exact .expired (Nat.le_trans (claim_free claim done) (clock_later rest))
    | false =>
      have waits := (pollIdempotentResult_uses key (hashRefreshToken env refreshToken)
        idempotencyClaimWaitAttempts).weaken fun _ polls => (polls.sparesSlot : SparesSlot key _)
      refine slotDone_later rest (waits.bind fun waited => ?_) still
      rcases waited with _ | found
      · exact rotateAndAnswer_unowned refreshToken _ _
      · trivial
  · exact slotDone_later claim claims done

theorem handler_slotDone {call : HandlerCall} {outcome : Except Thrown Answer} (named : key ≠ "")
    (completes : Completes (execLater env) sound (call.code env) before outcome after)
    (done : SlotDone key result expiresAt before) : SlotDone key result expiresAt after := by
  have spares : ∀ effect, Routine effect → SparesSlot key effect := fun _ routine => routine.sparesSlot
  cases call with
  | login client email password =>
    exact slotDone_later completes ((login_routine env client email password).weaken spares) done
  | logout bearer refreshToken =>
    exact slotDone_later completes (logout_uses spares env bearer refreshToken fun _ _ => trivial) done
  | refresh client refreshToken idempotencyKey =>
    by_cases own : idempotencyKey = some key
    · subst own
      exact refresh_own_slotDone named completes done
    · refine slotDone_later completes
        (refresh_uses spares env client refreshToken idempotencyKey (fun _ => trivial) ?_) done
      intro other given
      have apart : other ≠ key := by
        rintro rfl
        exact own (Option.eq_some_of_filter_eq_some given)
      exact ⟨fun _ => trivial, apart, fun _ _ => apart⟩

theorem Sequential.slotDone {start : GatewayState} (named : key ≠ "") (requests : Sequential env start after)
    (done : SlotDone key result expiresAt start) : SlotDone key result expiresAt after := by
  induction requests with
  | start => exact done
  | request _ call completes ih => exact handler_slotDone named completes ih
  | event _ event ih => exact ih.later (external_grows event _).clock (external_redis event _)

def SlotOnly (key : String) (entry : IdempotencyCacheEntry) (state : GatewayState) : Prop :=
  ∀ now value, state.redis.get now (.idempotencyRefresh key) = some value → value = .slot entry

def SetsNoSlot : Effect → Prop
  | .redisSet (.idempotencyRefresh _) .. | .redisSetNx (.idempotencyRefresh _) .. => False
  | _ => True

theorem Routine.setsNoSlot {effect : Effect} (routine : Routine effect) : SetsNoSlot effect := by
  cases effect with
  | redisSet name value ttl => cases name <;> cases value <;> trivial
  | redisSetNx name value ttl => exact routine.elim
  | _ => trivial

theorem RedisStep.slotOnly {entry : IdempotencyCacheEntry} {effect : Effect} (step : RedisStep before after effect)
    (none : SetsNoSlot effect) (only : SlotOnly key entry before) : SlotOnly key entry after := by
  intro now held
  cases step with
  | keep _ redis => rw [redis]; exact only now held
  | set other value ttl redis =>
    rw [redis, Store.Expiring.get_set_other _ _ _ _ ?_]
    · exact only now held
    · rintro rfl
      exact none
  | setNx other value ttl free redis =>
    rw [redis, Store.Expiring.get_set_other _ _ _ _ ?_]
    · exact only now held
    · rintro rfl
      exact none
  | del other redis =>
    rw [redis]
    by_cases same : other = .idempotencyRefresh key
    · rw [same, Store.Expiring.get_del_same]
      exact nofun
    · rw [Store.Expiring.get_del_other _ _ (Ne.symm same)]
      exact only now held

theorem slotOnly_set (store : Store.Expiring RedisKey RedisValue) (entry : IdempotencyCacheEntry) (time : Nat)
    {state : GatewayState} (redis : state.redis = store.set (.idempotencyRefresh key) (.slot entry) time) :
    SlotOnly key entry state := by
  intro now value held
  rw [redis, Store.Expiring.get_set_same] at held
  split at held
  · exact (Option.some.inj held).symm
  · cases held

theorem slotOnly_later {α : Type} {program : Gateway α} {outcome : Except Thrown α} {entry : IdempotencyCacheEntry}
    (completes : Completes (execLater env) sound program before outcome after)
    (uses : program.Uses SetsNoSlot) (only : SlotOnly key entry before) : SlotOnly key entry after := by
  apply completes.invariant uses only
  intro effect choice reply start later none only executed
  have waited : SlotOnly key entry (external (.elapse choice.1) start) := only
  exact (exec_redisStep executed).slotOnly none waited

/-- The part of a request that sets no slot: the request goes on after it, or has left the slot as it was. -/
theorem slotOnly_bind {α β : Type} {program : Gateway α} {next : α → Gateway β} {outcome : Except Thrown β}
    {entry : IdempotencyCacheEntry}
    (completes : Completes (execLater env) sound (program >>= next) before outcome after)
    (uses : program.Uses SetsNoSlot) (only : SlotOnly key entry before) :
    SlotOnly key entry after ∨ ∃ value middle, SlotOnly key entry middle ∧
      Completes (execLater env) sound (next value) middle outcome after := by
  rcases completes.bind_cases with ⟨value, middle, first, rest⟩ | ⟨_, _, first⟩
  · exact .inr ⟨value, middle, slotOnly_later first uses only, rest⟩
  · exact .inl (slotOnly_later first uses only)

theorem claim_pending (completes : Completes (execLater env) sound (claimIdempotencyKey key) before (.ok true) after) :
    SlotOnly key .pending after := by
  obtain ⟨choice, _, executed⟩ := completes_perform.mp completes
  have responded := exec_ok executed
  simp only [respond, Store.Expiring.setNx] at responded
  split at responded
  · cases responded
  · cases responded
    exact slotOnly_set _ _ _ rfl

structure Filled (env : Env) (refreshToken key : String) (outcome : Except Thrown Answer) (after : GatewayState)
    (result : CachedRefreshResult) : Prop where
  slot : SlotDone key result (after.clock + idempotencyRefreshTtlSeconds * 1000) after
  presented : result.presentedTokenHash = env.sha256Hex refreshToken
  answer : ∀ body, outcome = .ok (.tokens body) → body = tokenResponse env result.accessToken result.refreshToken

theorem complete_filled {refreshToken : String} {outcome : Except Thrown Answer} {stored : CachedRefreshResult}
    (completes : Completes (execLater env) sound (completeClaim (some key) stored >>= fun _ =>
      pure (.tokens (tokenResponse env stored.accessToken stored.refreshToken))) before outcome after)
    (presented : stored.presentedTokenHash = env.sha256Hex refreshToken) (pending : SlotOnly key .pending before)
    (completed : after.redis.get after.clock (.idempotencyRefresh key) = some (.slot (.done result))) :
    Filled env refreshToken key outcome after result := by
  obtain ⟨choice, reply, middle, _, executed, rest⟩ := completes_await.mp completes
  have ended : after = middle ∧ ∀ body, outcome = .ok (.tokens body) →
      body = tokenResponse env stored.accessToken stored.refreshToken := by
    rcases reply with thrown | _
    · obtain ⟨rfl, rfl⟩ := completes_done.mp rest
      exact ⟨rfl, nofun⟩
    · obtain ⟨rfl, rfl⟩ := completes_done.mp rest
      refine ⟨rfl, fun body same => ?_⟩
      cases same
      rfl
  obtain ⟨rfl, answer⟩ := ended
  have timed : TableStep (external (.elapse choice.1) before) after _ := exec_tableStep executed
  cases exec_redisStep executed with
  | keep _ redis =>
    rw [redis] at completed
    cases pending _ _ completed
  | set _ _ _ redis =>
    have clock := timed.clock
    have lifetime : ∀ now, after.redis.get now (.idempotencyRefresh key) =
        if now < after.clock + idempotencyRefreshTtlSeconds * 1000 then some (.slot (.done stored)) else none := by
      intro now
      rw [redis, Store.Expiring.get_set_same, clock]
      rfl
    obtain rfl : stored = result := by
      rw [lifetime] at completed
      split at completed
      · cases completed
        rfl
      · cases completed
    refine ⟨fun now _ early => ?_, presented, answer⟩
    rw [lifetime, if_pos early]

theorem rotateAndAnswer_filled {refreshToken : String} {metadata : RefreshTokenMetadata}
    {outcome : Except Thrown Answer}
    (completes : Completes (execLater env) sound (rotateAndAnswer env refreshToken metadata
      (hashRefreshToken env refreshToken) (some key)) before outcome after) (pending : SlotOnly key .pending before)
    (completed : after.redis.get after.clock (.idempotencyRefresh key) = some (.slot (.done result))) :
    Filled env refreshToken key outcome after result := by
  have unset : ∀ {state}, SlotOnly key .pending state → state = after →
      Filled env refreshToken key outcome after result := by
    rintro _ pending rfl
    cases pending _ _ completed
  have quiet : ∀ effect, Routine effect → SetsNoSlot effect := fun _ routine => routine.setsNoSlot
  rcases slotOnly_bind completes ((rotateRefreshToken_routine env refreshToken metadata).weaken quiet) pending with
    still | ⟨rotation, rotated, pending, rest⟩
  · exact unset still rfl
  rcases rotation with error | rotation
  · have release : (releaseClaim (some key)).Uses SetsNoSlot := perform_uses trivial
    refine unset (slotOnly_later rest (release.bind fun _ => ?_) pending) rfl
    exact ((auditRefusal_routine error).weaken quiet).bind fun _ => trivial
  have reads := (findUserById_passive rotation.userId).weaken fun effect passive => quiet effect passive.routine
  rcases slotOnly_bind rest reads pending with still | ⟨found, read, pending, rest⟩
  · exact unset still rfl
  rcases found with _ | user
  · obtain ⟨_, rfl⟩ := completes_done.mp rest
    exact unset pending rfl
  rcases slotOnly_bind rest ((signAccessToken_routine env _).weaken quiet) pending with
    still | ⟨signed, signedAt, pending, rest⟩
  · exact unset still rfl
  rcases slotOnly_bind rest ((writeAuditEvent_routine _).weaken quiet) pending with
    still | ⟨_, audited, pending, rest⟩
  · exact unset still rfl
  have presented : hashRefreshToken env refreshToken = env.sha256Hex refreshToken := rfl
  exact complete_filled rest presented pending completed

theorem CompletesSlot.filled {client : Client} {refreshToken : String} {outcome : Except Thrown Answer}
    (completes : CompletesSlot env client refreshToken key before outcome after result) :
    Filled env refreshToken key outcome after result := by
  obtain ⟨claimed, claim, rest⟩ := completes.owned
  exact rotateAndAnswer_filled rest (claim_pending claim) completes.completed

theorem CompletesSlot.refresh {client : Client} {refreshToken : String} {outcome : Except Thrown Answer}
    (completes : CompletesSlot env client refreshToken key before outcome after result) :
    Completes (execLater env) (fun _ => True) (refresh env client refreshToken (some key)) before outcome after := by
  obtain ⟨claimed, claim, rest⟩ := completes.owned
  rw [refresh_keyed client refreshToken completes.named]
  exact claim.bind rest

theorem exec_throws {effect : Effect} {choice : Choice} {thrown : Thrown}
    (executed : exec env effect choice before = some (.error thrown, after))
    (answers : respond env choice before effect ≠ some (.error thrown, after)) : choice.fault ≠ .none := by
  intro faultless
  unfold exec at executed
  rw [faultless] at executed
  exact answers executed

theorem wait_finds {tokenHash : String} {outcome : Except Thrown (Option CachedRefreshResult)}
    (completes : Completes (execLater env) sound (waitForIdempotentResult key tokenHash) before outcome after)
    (done : SlotDone key result expiresAt before) (presented : result.presentedTokenHash = tokenHash)
    (early : after.clock < expiresAt) :
    outcome = .ok (some result) ∨
      (∃ thrown, outcome = .error thrown) ∧ ∃ choice, sound choice ∧ choice.2.fault ≠ .none := by
  obtain ⟨choice, reply, middle, good, executed, rest⟩ := completes_await.mp completes
  rcases reply with thrown | value
  · obtain ⟨rfl, _⟩ := completes_done.mp rest
    exact .inr ⟨⟨thrown, rfl⟩, choice, good, exec_throws executed nofun⟩
  have responded := exec_ok executed
  have clock := execLater_clock executed
  cases responded
  have held := done (external (.elapse choice.1) before).clock (Nat.le_add_right _ _)
    (Nat.lt_of_le_of_lt (clock_later rest) early)
  have read : (external (.elapse choice.1) before).redis.get (external (.elapse choice.1) before).clock
      (.idempotencyRefresh key) = some (.slot (.done result)) := held
  rw [read] at rest
  obtain ⟨rfl, rfl⟩ := completes_done.mp rest
  rw [if_pos presented]
  exact .inl rfl

theorem refresh_retried {client : Client} {refreshToken : String} {outcome : Except Thrown Answer}
    (named : key ≠ "") (done : SlotDone key result expiresAt before)
    (presented : result.presentedTokenHash = env.sha256Hex refreshToken)
    (completes : Completes (execLater env) sound (refresh env client refreshToken (some key)) before outcome after)
    (early : after.clock < expiresAt) :
    after.refreshTokens = before.refreshTokens ∧
      (outcome = .ok (.tokens (tokenResponse env result.accessToken result.refreshToken)) ∨
        ∃ choice, sound choice ∧ choice.2.fault ≠ .none) := by
  rw [refresh_keyed client refreshToken named] at completes
  have claims : (claimIdempotencyKey key).Uses KeepsRows := perform_uses trivial
  have spares : (claimIdempotencyKey key).Uses (SparesSlot key) := perform_uses trivial
  have waits := (pollIdempotentResult_uses key (hashRefreshToken env refreshToken)
    idempotencyClaimWaitAttempts).weaken fun _ polls => polls.keepsRows
  rcases completes.bind_cases with ⟨owned, claimed, claim, rest⟩ | ⟨thrown, _, claim⟩
  · have rows := rows_later claim claims
    have still := slotDone_later claim spares done
    cases owned with
    | true =>
      have late := Nat.le_trans (claim_free claim done) (clock_later rest)
      exact absurd early (Nat.not_lt_of_le late)
    | false =>
      rcases Completes.bind_cases rest with ⟨waited, read, wait, rest⟩ | ⟨thrown, rfl, wait⟩
      · have unchanged := (rows_later wait waits).trans rows
        rcases wait_finds wait still presented (Nat.lt_of_le_of_lt (clock_later rest) early) with
          found | ⟨⟨_, threw⟩, _⟩
        · cases found
          obtain ⟨rfl, rfl⟩ := completes_done.mp rest
          exact ⟨unchanged, .inl rfl⟩
        · cases threw
      · refine ⟨(rows_later wait waits).trans rows, .inr ?_⟩
        rcases wait_finds wait still presented early with found | ⟨_, failed⟩
        · cases found
        · exact failed
  · obtain ⟨choice, good, executed⟩ := completes_perform.mp claim
    exact ⟨rows_later claim claims, .inr ⟨choice, good, exec_throws executed nofun⟩⟩

theorem refresh_retries {refreshToken : String} (client : Client) (named : key ≠ "")
    (done : SlotDone key result expiresAt before) (presented : result.presentedTokenHash = env.sha256Hex refreshToken)
    (early : before.clock < expiresAt) :
    Completes (execLater env) (fun choice => choice.2.fault = .none) (refresh env client refreshToken (some key)) before
      (.ok (.tokens (tokenResponse env result.accessToken result.refreshToken))) before := by
  have held := done before.clock (Nat.le_refl _) early
  have taken : execLater env (.redisSetNx (.idempotencyRefresh key) (.slot .pending) idempotencyRefreshTtlSeconds)
      (0, {}) before = some (.ok false, before) := by
    simp only [execLater, external, Nat.add_zero, exec, respond, Store.Expiring.setNx, held]
  have read : execLater env (.redisGet (.idempotencyRefresh key)) (0, {}) before =
      some (.ok (some (.slot (.done result))), before) := by
    simp only [execLater, external, Nat.add_zero, exec, respond, held]
  rw [refresh_keyed client refreshToken named]
  refine .await (0, {}) rfl taken (.await (0, {}) rfl read ?_)
  have hash : result.presentedTokenHash = hashRefreshToken env refreshToken := presented
  simp only [Program.pure_eq, Program.done_ok_bind, if_pos hash]
  exact .done _ _

end Requests

/-- After a request has completed its slot, and whatever requests have come one after another since, a
    retry that is over within the lifetime of the slot is answered with the same pair and changes no row. -/
theorem sequential_replay (env : Env) (client : Client) (refreshToken key : String) (before after start : GatewayState)
    (outcome : Except Thrown Answer) (result : CachedRefreshResult)
    (completes : CompletesSlot env client refreshToken key before outcome after result)
    (since : Sequential env after start) :
    (∀ body, outcome = .ok (.tokens body) → body = tokenResponse env result.accessToken result.refreshToken) ∧
    Replays env refreshToken key (tokenResponse env result.accessToken result.refreshToken)
      (after.clock + idempotencyRefreshTtlSeconds * 1000) start := by
  have filled := completes.filled
  have held := since.slotDone completes.named filled.slot
  refine ⟨filled.answer, ?_, ?_, ?_⟩
  · intro again ending final retried early
    rcases (refresh_retried completes.named held filled.presented retried early).2 with answered | ⟨_, good, failed⟩
    · exact answered
    · exact absurd good failed
  · intro again ending final retried early
    exact (refresh_retried completes.named held filled.presented retried early).1
  · intro again early
    exact ⟨start, refresh_retries again completes.named held filled.presented early, rfl⟩

def plain (count : Nat) : List (Nat × Choice) := List.replicate count (0, {})

def slotShared (state : GatewayState) : Bool :=
  let run {α : Type} (choices : List (Nat × Choice)) (program : Gateway α) (state : GatewayState) :=
    Program.evaluate (execLater sampleEnv) choices program state
  (run (plain 1) (claimIdempotencyKey "k") state).any fun claimed => claimed.1 = .ok true &&
    (run (plain 6 ++ [(0, drawing "t1")] ++ plain 1 ++ [(0, drawing "r1")] ++ plain 3 ++ [(0, drawing "j1")] ++ plain 3)
      (rotateAndAnswer sampleEnv "t0" (requestMeta sampleClient) (hashRefreshToken sampleEnv "t0") (some "k"))
      claimed.2).any fun rotated =>
        (match rotated.2.redis.get rotated.2.clock (.idempotencyRefresh "k") with
          | some (.slot (.done _)) => true
          | _ => false) &&
        (run (plain 4) (refresh sampleEnv sampleClient "t9" (some "k")) (external (.elapse 1000) rotated.2)).any
          fun other => decide (other.2.clock < rotated.2.clock + idempotencyRefreshTtlSeconds * 1000)

theorem replay_after_other_token : ∃ before outcome after result start,
    CompletesSlot sampleEnv sampleClient "t0" "k" before outcome after result ∧ Sequential sampleEnv after start ∧
    start.clock < after.clock + idempotencyRefreshTtlSeconds * 1000 ∧
    Replays sampleEnv "t0" "k" (tokenResponse sampleEnv result.accessToken result.refreshToken)
      (after.clock + idempotencyRefreshTtlSeconds * 1000) start := by
  have passed : ((handlers sampleEnv).run (logIn 0 "j0" "f" "t0" "r0")
      (freshGateway 0 [sampleUser "u" "u@example.com"])).any (fun config => slotShared config.state) = true := by decide
  obtain ⟨config, _, checked⟩ := System.Reaches.of_check passed
  unfold slotShared at checked
  obtain ⟨owned, claimed, claim, checked⟩ := Completes.of_check (fun _ _ => trivial) checked
  simp only [Bool.and_eq_true, decide_eq_true_eq] at checked
  obtain ⟨rfl, checked⟩ := checked
  obtain ⟨outcome, after, rotate, checked⟩ := Completes.of_check (fun _ _ => trivial) checked
  simp only [Bool.and_eq_true] at checked
  obtain ⟨filled, checked⟩ := checked
  obtain ⟨refused, start, other, early⟩ := Completes.of_check (fun _ _ => trivial) checked
  split at filled
  · rename_i result completed
    have first : CompletesSlot sampleEnv sampleClient "t0" "k" config.state outcome after result :=
      ⟨by decide, ⟨claimed, claim, rotate⟩, completed⟩
    have since : Sequential sampleEnv after start :=
      .request (.event .start (.elapse 1000)) (.refresh sampleClient "t9" (some "k")) other
    exact ⟨config.state, outcome, after, result, start, first, since, of_decide_eq_true early,
      (sequential_replay sampleEnv sampleClient "t0" "k" config.state after start outcome result first since).2⟩
  · cases filled

end GatewayProof
