import AppGateway.Handlers.RotationAtomicity
import AppGateway.Handlers.Smooth

namespace GatewayProof

open Async GatewayModel
open Async.Program (Completes Comes)
open Async.System (Reaches next_cases advance_cases)

/-- The requests in flight all carry this token and this key, none of their steps fails, and nothing else
    happens but that time passes. -/
def SameRetry (env : Env) (refreshToken key : String) (config : HandlerConfig) : HandlerLabel → Prop
  | .call call => ∃ client, call = .refresh client refreshToken (some key)
  | .step index choice => ∀ thread, config.threads[index]? = some thread → ∀ effect,
      thread.program.pending = some effect → ∀ thrown after,
      exec env effect choice config.state ≠ some (.error thrown, after)
  | .crash _ => False
  | .external event => ∃ ms, event = .elapse ms

def Claims (key : String) (past : List SessionEvent) : Prop :=
  ∃ value ttl, ⟨.redisSetNx (.idempotencyRefresh key) value ttl, .ok true⟩ ∈ past

def polls (past : List SessionEvent) : Nat :=
  past.countP fun event => match event.op with
    | .redisGet _ => true
    | _ => false

/-- When a step comes in time: the slot, once claimed, has not expired when it is asked for, the last poll does not find
    it pending, and the token has not expired when its rotation compares its expiry with the clock. -/
structure OnTime (key : String) (row : RefreshTokenRow) (config : HandlerConfig) (thread : HandlerThread) : Prop where
  claim : ∀ value ttl, thread.program.pending = some (.redisSetNx (.idempotencyRefresh key) value ttl) →
    (∃ other ∈ config.threads, Claims key other.past) →
    config.state.redis.get config.state.clock (.idempotencyRefresh key) ≠ none
  poll : thread.program.pending = some (.redisGet (.idempotencyRefresh key)) →
    ∃ value, config.state.redis.get config.state.clock (.idempotencyRefresh key) = some value ∧
      (value = .slot .pending → polls thread.past + 1 < idempotencyClaimWaitAttempts)
  rotation : Claims key thread.past → thread.program.pending = some .dateNow →
    (∀ reply, ⟨.dateNow, reply⟩ ∉ thread.past) → config.state.clock < row.expiresAt

def InTime (key : String) (row : RefreshTokenRow) (config : HandlerConfig) : HandlerLabel → Prop
  | .step index _ => ∀ thread, config.threads[index]? = some thread → OnTime key row config thread
  | _ => True

def quiet (state : GatewayState) : HandlerConfig := { state, threads := [] }

section Waiting

variable (env : Env) (client : Client) (refreshToken key : String)

def afterWait : Option CachedRefreshResult → Gateway Answer
  | some result => pure (.tokens (tokenResponse env result.accessToken result.refreshToken))
  | none => rotateAndAnswer env refreshToken (requestMeta client) (hashRefreshToken env refreshToken) none

inductive Waits : Gateway Answer → Nat → Prop where
  | claiming : Waits (refresh env client refreshToken (some key)) 0
  | polling (left made : Nat) (count : made + (left + 1) = idempotencyClaimWaitAttempts) :
      Waits (pollIdempotentResult key (hashRefreshToken env refreshToken) (left + 1) >>=
        afterWait env client refreshToken) made
  | reading (left made : Nat) (count : made + (left + 1) = idempotencyClaimWaitAttempts) :
      Waits ((delay idempotencyClaimWaitMs >>= fun _ =>
        pollIdempotentResult key (hashRefreshToken env refreshToken) (left + 1)) >>=
        afterWait env client refreshToken) made
  | sleeping (wakeAt left made : Nat) (count : made + (left + 1) = idempotencyClaimWaitAttempts) :
      Waits ((Gateway.sleepUntil wakeAt >>= fun _ =>
        pollIdempotentResult key (hashRefreshToken env refreshToken) (left + 1)) >>=
        afterWait env client refreshToken) made

end Waiting

section Steps

variable {env : Env} {client : Client} {refreshToken key : String} {before after : GatewayState}

theorem polls_snoc (past : List SessionEvent) (event : SessionEvent) :
    polls (past ++ [event]) = polls past + match event.op with
      | .redisGet _ => 1
      | _ => 0 := by
  unfold polls
  rw [List.countP_append, List.countP_singleton]
  split <;> simp_all

theorem Waits.step {program : Gateway Answer} {past : List SessionEvent} {effect : Effect}
    {resume : Except Thrown effect.Reply → Gateway Answer} {choice : Choice} {value : effect.Reply}
    (named : key ≠ "") (waits : Waits env client refreshToken key program (polls past))
    (awaits : program = .await effect resume)
    (executed : exec env effect choice before = some (.ok value, after))
    (taken : ∀ held ttl, program.pending = some (.redisSetNx (.idempotencyRefresh key) held ttl) →
      before.redis.get before.clock (.idempotencyRefresh key) ≠ none)
    (polled : program.pending = some (.redisGet (.idempotencyRefresh key)) →
      ∃ entry, before.redis.get before.clock (.idempotencyRefresh key) = some (.slot entry) ∧
        (entry = .pending → polls past + 1 < idempotencyClaimWaitAttempts)) :
    after = before ∧ (Waits env client refreshToken key (resume (.ok value)) (polls (past ++ [⟨effect, .ok value⟩])) ∨
      ∃ result, before.redis.get before.clock (.idempotencyRefresh key) = some (.slot (.done result)) ∧
        (result.presentedTokenHash = env.sha256Hex refreshToken →
          resume (.ok value) = .done (.ok (.tokens (tokenResponse env result.accessToken result.refreshToken))))) := by
  have responded := exec_ok executed
  rw [polls_snoc]
  generalize polls past = made at waits polled ⊢
  cases waits with
  | claiming =>
    rw [refresh_keyed client refreshToken named] at awaits taken
    cases awaits
    obtain ⟨held, slot⟩ := Option.ne_none_iff_exists'.mp (taken _ _ rfl)
    simp only [respond, Store.Expiring.setNx, slot, Option.some.injEq, Prod.mk.injEq, Except.ok.injEq] at responded
    obtain ⟨rfl, rfl⟩ := responded
    exact ⟨rfl, .inl (.polling 4 0 rfl)⟩
  | polling left _ count =>
    cases awaits
    obtain ⟨entry, slot, budget⟩ := polled rfl
    simp only [respond, slot, Option.some.injEq, Prod.mk.injEq, Except.ok.injEq] at responded
    obtain ⟨rfl, rfl⟩ := responded
    refine ⟨rfl, ?_⟩
    cases entry with
    | pending =>
      have more := budget rfl
      obtain ⟨others, rfl⟩ : ∃ others, left = others + 1 := ⟨left - 1, by omega⟩
      have spent : made + 1 + (others + 1) = idempotencyClaimWaitAttempts := by omega
      exact .inl (.reading others (made + 1) spent)
    | done result =>
      refine .inr ⟨result, slot, fun presented => ?_⟩
      have hash : result.presentedTokenHash = hashRefreshToken env refreshToken := presented
      simp only [Program.pure_eq, Program.done_ok_bind, if_pos hash]
      rfl
  | reading left _ count =>
    cases awaits
    cases responded
    exact ⟨rfl, .inl (.sleeping _ left _ count)⟩
  | sleeping wakeAt left _ count =>
    cases awaits
    simp only [respond] at responded
    split at responded
    · cases responded
    · cases responded
      exact ⟨rfl, .inl (.polling left _ count)⟩

theorem claiming_step {effect : Effect} {resume : Except Thrown effect.Reply → Gateway Answer} {choice : Choice}
    {value : effect.Reply} (named : key ≠ "")
    (awaits : refresh env client refreshToken (some key) = .await effect resume)
    (free : before.redis.get before.clock (.idempotencyRefresh key) = none)
    (executed : exec env effect choice before = some (.ok value, after)) :
    Claims key [⟨effect, .ok value⟩] ∧ after.refreshTokens = before.refreshTokens ∧ after.users = before.users ∧
      SlotOnly key .pending after ∧ resume (.ok value) = rotateAndAnswer env refreshToken (requestMeta client)
        (hashRefreshToken env refreshToken) (some key) := by
  have responded := exec_ok executed
  rw [refresh_keyed client refreshToken named] at awaits
  cases awaits
  simp only [respond, Store.Expiring.setNx, free, Option.some.injEq, Prod.mk.injEq, Except.ok.injEq] at responded
  obtain ⟨rfl, rfl⟩ := responded
  exact ⟨⟨_, _, List.mem_singleton.mpr rfl⟩, rfl, rfl, slotOnly_set _ _ _ rfl, rfl⟩

theorem replaceAndAnswer_butLast (metadata : RefreshTokenMetadata) (tokenHash : String) (row : RefreshTokenRow) :
    (replaceToken env tokenHash row metadata >>= answerRotation env tokenHash (some key)).UsesButLast SetsNoSlot := by
  have quiet : ∀ effect, Routine effect → SetsNoSlot effect := fun _ routine => routine.setsNoSlot
  have rotates := (replaceToken_routine env tokenHash row metadata).weaken quiet
  refine rotates.bind_butLast fun rotation => ?_
  rcases rotation with error | rotated
  · have release : (releaseClaim (some key)).Uses SetsNoSlot := perform_uses trivial
    have refuse : (auditRefusal error).Uses SetsNoSlot := (auditRefusal_routine error).weaken quiet
    have refuses : (auditRefusal error >>= fun _ => pure (.failed error) : Gateway Answer).Uses SetsNoSlot :=
      refuse.bind fun _ => trivial
    exact (release.bind fun _ => refuses).butLast
  have reads := (findUserById_passive rotated.userId).weaken fun effect passive => quiet effect passive.routine
  refine reads.bind_butLast fun found => ?_
  rcases found with _ | user
  · trivial
  refine ((signAccessToken_routine env _).weaken quiet).bind_butLast fun signed => ?_
  refine ((writeAuditEvent_routine _).weaken quiet).bind_butLast fun _ => ?_
  refine .inr fun stored => ?_
  rcases stored with thrown | _
  · exact ⟨_, rfl⟩
  · exact ⟨_, rfl⟩

theorem Comes.elapsed {program : Gateway Answer} {start state : GatewayState} {effect : Effect}
    {resume : Except Thrown effect.Reply → Gateway Answer}
    (comes : Comes (execSmooth env) (fun _ => True) program start (.await effect resume) state) (ms : Nat) :
    Comes (execSmooth env) (fun _ => True) program start (.await effect resume) (external (.elapse ms) state) := by
  intro outcome final completes
  obtain ⟨⟨wait, choice⟩, reply, middle, good, executed, rest⟩ := Program.completes_await.mp completes
  refine comes outcome final (.await (ms + wait, choice) good ?_ rest)
  have waited : external (.elapse (ms + wait)) state = external (.elapse wait) (external (.elapse ms) state) := by
    simp only [external, Nat.add_assoc]
  unfold execSmooth execLater at executed ⊢
  rw [waited]
  exact executed

end Steps

section Invariant

variable (env : Env) (refreshToken key : String) (row : RefreshTokenRow)

inductive Checking (tokenHash : String) : Gateway Answer → Prop where
  | selecting (metadata : RefreshTokenMetadata) (same : tokenHash = hashRefreshToken env refreshToken) :
      Checking tokenHash (rotateAndAnswer env refreshToken metadata tokenHash (some key))
  | dating (metadata : RefreshTokenMetadata) :
      Checking tokenHash ((Gateway.dateNow >>= fun now =>
        if row.expiresAt ≤ now then pure (.error (unauthorizedError "Refresh token has expired"))
        else replaceToken env tokenHash row metadata) >>= answerRotation env tokenHash (some key))

def SameTables (before after : GatewayState) : Prop :=
  after.refreshTokens = before.refreshTokens ∧ after.users = before.users

/-- The owner of the slot has come this far with its rotation, or it has completed the slot with this result. -/
inductive Leads (claimed : GatewayState) (thread : HandlerThread) (state : GatewayState) :
    Option CachedRefreshResult → Prop where
  | checking (checking : Checking env refreshToken key row (env.sha256Hex refreshToken) thread.program)
      (undated : ∀ reply, ⟨.dateNow, reply⟩ ∉ thread.past) (same : SameTables claimed state)
      (pending : SlotOnly key .pending state) : Leads claimed thread state none
  | rotating (metadata : RefreshTokenMetadata) (checked : GatewayState) (same : SameTables claimed checked)
      (effect : Effect) (resume) (program : thread.program = .await effect resume)
      (last : thread.program.UsesButLast SetsNoSlot) (pending : SlotOnly key .pending state)
      (comes : Comes (execSmooth env) (fun _ => True) (replaceToken env (env.sha256Hex refreshToken) row metadata >>=
        answerRotation env (env.sha256Hex refreshToken) (some key)) checked thread.program state) :
      Leads claimed thread state none
  | finished (result : CachedRefreshResult) (successor : RefreshTokenRow) (after : GatewayState) (ms : Nat)
      (program : thread.program = .done (.ok (.tokens (tokenResponse env result.accessToken result.refreshToken))))
      (presented : result.presentedTokenHash = env.sha256Hex refreshToken) (slot : SlotOnly key (.done result) after)
      (rotated : RotatedTo env row result.refreshToken claimed after successor)
      (elapsed : state = external (.elapse ms) after) :
      Leads claimed thread state (some result)

structure Unclaimed (start : GatewayState) (config : HandlerConfig) : Prop where
  state : ∃ ms, config.state = external (.elapse ms) start
  threads : ∀ thread ∈ config.threads, thread.past = [] ∧
    ∃ client, thread.program = refresh env client refreshToken (some key)

/-- One request owns the slot, and the others wait for it or have answered with its result. -/
structure Led (start : GatewayState) (config : HandlerConfig) (owner : Nat) (claimed : GatewayState)
    (result : Option CachedRefreshResult) : Prop where
  rows : claimed.refreshTokens = start.refreshTokens
  users : claimed.users = start.users
  leader : ∃ thread, config.threads[owner]? = some thread ∧ Claims key thread.past ∧
    Leads env refreshToken key row claimed thread config.state result
  others : ∀ (index : Nat) (thread : HandlerThread), config.threads[index]? = some thread → index ≠ owner →
    (∃ client, Waits env client refreshToken key thread.program (polls thread.past)) ∨
    ∃ answer, result = some answer ∧
      thread.program = .done (.ok (.tokens (tokenResponse env answer.accessToken answer.refreshToken)))

end Invariant

section Preservation

variable {env : Env} {refreshToken key : String} {row : RefreshTokenRow} {claimed state after : GatewayState}
  {thread : HandlerThread} {result : Option CachedRefreshResult}

theorem Leads.elapse (leads : Leads env refreshToken key row claimed thread state result) (ms : Nat) :
    Leads env refreshToken key row claimed thread (external (.elapse ms) state) result := by
  cases leads with
  | checking checking undated same pending => exact .checking checking undated same pending
  | rotating metadata checked same effect resume program last pending comes =>
    rw [program] at comes
    refine .rotating metadata checked same effect resume program last pending ?_
    rw [program]
    exact Comes.elapsed comes ms
  | finished result successor after waited program presented slot rotated elapsed =>
    refine .finished result successor after (waited + ms) program presented slot rotated ?_
    rw [elapsed]
    simp only [external, Nat.add_assoc]

theorem Checking.step (found : claimed.refreshTokens.find? (·.tokenHash = env.sha256Hex refreshToken) = some row)
    (active : row.revokedAt = none)
    (checking : Checking env refreshToken key row (env.sha256Hex refreshToken) thread.program)
    (undated : ∀ reply, ⟨.dateNow, reply⟩ ∉ thread.past) (same : SameTables claimed state)
    (pending : SlotOnly key .pending state) {effect : Effect} {resume : Except Thrown effect.Reply → Gateway Answer}
    (awaits : thread.program = .await effect resume) {choice : Choice} {value : effect.Reply}
    (executed : exec env effect choice state = some (.ok value, after))
    (unexpired : thread.program.pending = some .dateNow → state.clock < row.expiresAt) :
    Leads env refreshToken key row claimed
      { thread with past := thread.past ++ [⟨effect, .ok value⟩], program := resume (.ok value) } after none := by
  have responded := exec_ok executed
  generalize program : thread.program = running at checking awaits unexpired
  cases checking with
  | selecting metadata hash =>
    cases awaits
    simp only [respond, Option.some.injEq, Prod.mk.injEq, Except.ok.injEq] at responded
    obtain ⟨read, rfl⟩ := responded
    have selected : value = some row := by
      rw [← read, same.1]
      exact found
    subst selected
    refine .checking ?_ ?_ same pending
    · have passes : row.revokedAt.isSome = false := by rw [active]; rfl
      simp only [Program.done_ok_bind, passes]
      exact .dating metadata
    · intro reply member
      rcases List.mem_append.mp member with earlier | last
      · exact undated reply earlier
      · cases List.mem_singleton.mp last
  | dating metadata =>
    cases awaits
    cases responded
    have live : ¬ row.expiresAt ≤ state.clock := Nat.not_le_of_lt (unexpired rfl)
    have onward : ∀ moved past, moved = (replaceToken env (env.sha256Hex refreshToken) row metadata >>=
        answerRotation env (env.sha256Hex refreshToken) (some key)) →
        Leads env refreshToken key row claimed { thread with past, program := moved } state none := by
      rintro moved past rfl
      exact .rotating metadata state same _ _ rfl (replaceAndAnswer_butLast _ _ _) pending (Comes.refl _ _)
    apply onward
    simp only [Program.done_ok_bind, if_neg live]
    rfl

theorem Leads.step (found : claimed.refreshTokens.find? (·.tokenHash = env.sha256Hex refreshToken) = some row)
    (active : row.revokedAt = none) (user : ∃ user ∈ claimed.users, user.id = row.userId)
    (leads : Leads env refreshToken key row claimed thread state result) {effect : Effect}
    {resume : Except Thrown effect.Reply → Gateway Answer} (awaits : thread.program = .await effect resume)
    {choice : Choice} {value : effect.Reply} (executed : exec env effect choice state = some (.ok value, after))
    (unexpired : thread.program.pending = some .dateNow → (∀ reply, ⟨.dateNow, reply⟩ ∉ thread.past) →
      state.clock < row.expiresAt) :
    result = none ∧ ∃ answer, Leads env refreshToken key row claimed
      { thread with past := thread.past ++ [⟨effect, .ok value⟩], program := resume (.ok value) } after answer := by
  cases leads with
  | finished result successor later ms program => rw [program] at awaits; cases awaits
  | checking checking undated same pending =>
    exact ⟨rfl, none, checking.step found active undated same pending awaits executed fun dates =>
      unexpired dates undated⟩
  | rotating metadata checked same other others program last pending comes =>
    rw [awaits] at program
    cases program
    refine ⟨rfl, ?_⟩
    rw [awaits] at comes last
    have performed : execSmooth env effect (0, choice) state = some (.ok value, after) :=
      execSmooth_eq.mpr ⟨executed, value, rfl⟩
    have onward := comes.step (0, choice) trivial performed
    cases rest : resume (.ok value) with
    | done outcome =>
      rw [rest] at onward
      obtain ⟨answer, successor, rfl, presented, slot, rotated⟩ :=
        replaceAndAnswer_smooth (same.2 ▸ user) onward.ends
      obtain ⟨revokedAt, rows⟩ := rotated.rows
      rw [same.1] at rows
      exact ⟨some answer, .finished answer successor after 0 rfl presented slot
        ⟨⟨revokedAt, rows⟩, rotated.hash, rotated.family, rotated.user, rotated.active⟩ rfl⟩
    | await op resume' =>
      rcases last with ⟨sets, later⟩ | final
      · have only := (exec_redisStep executed).slotOnly sets pending
        rw [rest] at onward
        exact ⟨none, .rotating metadata checked same op resume' rfl (rest ▸ later _) only onward⟩
      · obtain ⟨outcome, ended⟩ := final (.ok value)
        rw [rest] at ended
        cases ended

theorem Leads.held (leads : Leads env refreshToken key row claimed thread state result) {now : Nat} {value : RedisValue}
    (slot : state.redis.get now (.idempotencyRefresh key) = some value) :
    value = .slot .pending ∧ result = none ∨
      ∃ answer, value = .slot (.done answer) ∧ result = some answer ∧
        answer.presentedTokenHash = env.sha256Hex refreshToken := by
  cases leads with
  | checking checking undated same pending => exact .inl ⟨pending now value slot, rfl⟩
  | rotating metadata checked same effect resume program last pending comes => exact .inl ⟨pending now value slot, rfl⟩
  | finished answer successor after ms program presented only rotated elapsed =>
    rw [elapsed] at slot
    exact .inr ⟨answer, only now value slot, rfl, presented⟩

theorem SameRetry.reply {config : HandlerConfig} {index : Nat} {choice : Choice}
    (retry : SameRetry env refreshToken key config (.step index choice)) (found : config.threads[index]? = some thread)
    {effect : Effect} {resume : Except Thrown effect.Reply → Gateway Answer}
    (awaits : thread.program = .await effect resume) {reply : Except Thrown effect.Reply}
    (executed : exec env effect choice config.state = some (reply, after)) : ∃ value, reply = .ok value := by
  cases reply with
  | ok value => exact ⟨value, rfl⟩
  | error thrown =>
    have pending : thread.program.pending = some effect := by rw [awaits]; rfl
    exact absurd executed (retry thread found effect pending thrown after)

theorem Unclaimed.next {start : GatewayState} {config later : HandlerConfig} {label : HandlerLabel} (named : key ≠ "")
    (free : start.redis.get start.clock (.idempotencyRefresh key) = none)
    (unclaimed : Unclaimed env refreshToken key start config) (retry : SameRetry env refreshToken key config label)
    (moved : (handlers env).next config label = some later) :
    Unclaimed env refreshToken key start later ∨
      ∃ owner claimed, Led env refreshToken key row start later owner claimed none := by
  obtain ⟨ms, waited⟩ := unclaimed.state
  rcases next_cases moved with ⟨call, rfl, rfl⟩ | ⟨index, choice, thread, advanced, state, rfl, found, stepped, rfl⟩ |
    ⟨_, _, rfl, _, _⟩ | ⟨event, rfl, rfl⟩
  · obtain ⟨client, rfl⟩ := retry
    refine .inl ⟨⟨ms, waited⟩, fun thread member => ?_⟩
    rcases List.mem_append.mp member with earlier | new
    · exact unclaimed.threads thread earlier
    · rw [List.mem_singleton.mp new]
      exact ⟨rfl, client, rfl⟩
  · obtain ⟨effect, resume, reply, _, awaits, executed, rfl⟩ := advance_cases stepped
    obtain ⟨value, rfl⟩ := retry.reply found awaits executed
    obtain ⟨none, client, program⟩ := unclaimed.threads thread (List.mem_of_getElem? found)
    have still : config.state.redis.get config.state.clock (.idempotencyRefresh key) = .none := by
      rw [waited]
      exact Store.Expiring.get_none_later free (Nat.le_add_right _ _)
    obtain ⟨claims, rows, users, pending, rotates⟩ :=
      claiming_step named (program.symm.trans awaits) still executed
    have bound := (List.getElem?_eq_some_iff.mp found).1
    refine .inr ⟨index, state, rows.trans (congrArg (·.refreshTokens) waited),
      users.trans (congrArg (·.users) waited), ⟨_, List.getElem?_set_self bound, ?_, ?_⟩, ?_⟩
    · rw [none]
      exact claims
    · refine .checking ?_ ?_ ⟨rfl, rfl⟩ pending
      · show Checking env refreshToken key row (env.sha256Hex refreshToken) (resume (.ok value))
        rw [rotates]
        exact .selecting _ rfl
      · intro reply member
        rw [none] at member
        cases List.mem_singleton.mp member
        cases (program.symm.trans awaits).symm.trans (refresh_keyed client refreshToken named)
    · intro place other there apart
      rw [List.getElem?_set_ne (Ne.symm apart)] at there
      obtain ⟨fresh, client, program⟩ := unclaimed.threads other (List.mem_of_getElem? there)
      rw [program, fresh]
      exact .inl ⟨client, .claiming⟩
  · exact retry.elim
  · obtain ⟨more, rfl⟩ := retry
    refine .inl ⟨⟨ms + more, ?_⟩, unclaimed.threads⟩
    have elapsed : (handlers env).external (.elapse more) config.state = external (.elapse more) config.state := rfl
    rw [elapsed, waited]
    simp only [external, Nat.add_assoc]

theorem Led.other_step {start : GatewayState} {config : HandlerConfig} {owner index : Nat} (named : key ≠ "")
    (led : Led env refreshToken key row start config owner claimed result)
    (found : config.threads[index]? = some thread)
    (apart : index ≠ owner) (onTime : OnTime key row config thread) {effect : Effect}
    {resume : Except Thrown effect.Reply → Gateway Answer} (awaits : thread.program = .await effect resume)
    {choice : Choice} {value : effect.Reply}
    (executed : exec env effect choice config.state = some (.ok value, after)) :
    after = config.state ∧
      ((∃ client, Waits env client refreshToken key (resume (.ok value))
        (polls (thread.past ++ [⟨effect, .ok value⟩]))) ∨
      ∃ answer, result = some answer ∧
        resume (.ok value) = .done (.ok (.tokens (tokenResponse env answer.accessToken answer.refreshToken)))) := by
  obtain ⟨leader, there, claims, leads⟩ := led.leader
  rcases led.others index thread found apart with ⟨client, waits⟩ | ⟨answer, _, ended⟩
  · have taken : ∀ held ttl, thread.program.pending = some (.redisSetNx (.idempotencyRefresh key) held ttl) →
        config.state.redis.get config.state.clock (.idempotencyRefresh key) ≠ none :=
      fun held ttl pending => onTime.claim held ttl pending ⟨leader, List.mem_of_getElem? there, claims⟩
    have polled : thread.program.pending = some (.redisGet (.idempotencyRefresh key)) →
        ∃ entry, config.state.redis.get config.state.clock (.idempotencyRefresh key) = some (.slot entry) ∧
          (entry = .pending → polls thread.past + 1 < idempotencyClaimWaitAttempts) := by
      intro pending
      obtain ⟨held, slot, budget⟩ := onTime.poll pending
      rcases leads.held slot with ⟨rfl, _⟩ | ⟨answer, rfl, _⟩
      · exact ⟨_, slot, fun _ => budget rfl⟩
      · exact ⟨_, slot, nofun⟩
    obtain ⟨same, still | ⟨answer, slot, answers⟩⟩ := waits.step named awaits executed taken polled
    · exact ⟨same, .inl ⟨client, still⟩⟩
    · rcases leads.held slot with ⟨pending, _⟩ | ⟨other, equal, completed, presented⟩
      · cases pending
      · cases equal
        exact ⟨same, .inr ⟨answer, completed, answers presented⟩⟩
  · rw [ended] at awaits
    cases awaits

theorem Led.next {start : GatewayState} {config later : HandlerConfig} {label : HandlerLabel} {owner : Nat}
    (named : key ≠ "") (found : start.refreshTokens.find? (·.tokenHash = env.sha256Hex refreshToken) = some row)
    (active : row.revokedAt = none) (user : ∃ user ∈ start.users, user.id = row.userId)
    (led : Led env refreshToken key row start config owner claimed result)
    (retry : SameRetry env refreshToken key config label) (inTime : InTime key row config label)
    (moved : (handlers env).next config label = some later) :
    ∃ answer, Led env refreshToken key row start later owner claimed answer := by
  obtain ⟨leader, there, claims, leads⟩ := led.leader
  have ahead := (List.getElem?_eq_some_iff.mp there).1
  rcases next_cases moved with ⟨call, rfl, rfl⟩ | ⟨index, choice, thread, advanced, state, rfl, here, stepped, rfl⟩ |
    ⟨_, _, rfl, _, _⟩ | ⟨event, rfl, rfl⟩
  · obtain ⟨client, rfl⟩ := retry
    refine ⟨result, led.rows, led.users, ⟨leader, ?_, claims, leads⟩, fun index thread found apart => ?_⟩
    · rw [List.getElem?_append_left ahead]
      exact there
    · rcases Nat.lt_trichotomy index config.threads.length with old | same | beyond
      · rw [List.getElem?_append_left old] at found
        exact led.others index thread found apart
      · subst same
        rw [List.getElem?_concat_length] at found
        cases found
        exact .inl ⟨client, .claiming⟩
      · have missing : (config.threads ++ [Thread.start (handlers env)
            (.refresh client refreshToken (some key))])[index]? = none :=
          List.getElem?_eq_none (by rw [List.length_append]; exact beyond)
        rw [missing] at found
        cases found
  · have onTime := inTime thread here
    obtain ⟨effect, resume, reply, _, awaits, executed, rfl⟩ := advance_cases stepped
    obtain ⟨value, rfl⟩ := retry.reply here awaits executed
    have bound := (List.getElem?_eq_some_iff.mp here).1
    by_cases own : index = owner
    · subst own
      obtain rfl : leader = thread := Option.some.inj (there.symm.trans here)
      obtain ⟨running, answer, onward⟩ := leads.step (led.rows ▸ found) active (led.users ▸ user) awaits executed
        (onTime.rotation claims)
      refine ⟨answer, led.rows, led.users, ⟨_, List.getElem?_set_self bound, ?_, onward⟩, ?_⟩
      · obtain ⟨held, ttl, member⟩ := claims
        exact ⟨held, ttl, List.mem_append_left _ member⟩
      · intro place other at_place apart
        rw [List.getElem?_set_ne (Ne.symm apart)] at at_place
        rcases led.others place other at_place apart with waits | ⟨answer, completed, _⟩
        · exact .inl waits
        · rw [running] at completed
          cases completed
    · obtain ⟨rfl, onward⟩ := led.other_step named here own onTime awaits executed
      refine ⟨result, led.rows, led.users, ⟨leader, ?_, claims, leads⟩, ?_⟩
      · rw [List.getElem?_set_ne own]
        exact there
      · intro place other at_place apart
        by_cases moving : place = index
        · subst moving
          rw [List.getElem?_set_self bound] at at_place
          cases at_place
          exact onward
        · rw [List.getElem?_set_ne (Ne.symm moving)] at at_place
          exact led.others place other at_place apart
  · exact retry.elim
  · obtain ⟨ms, rfl⟩ := retry
    exact ⟨result, led.rows, led.users, ⟨leader, there, claims, leads.elapse ms⟩, led.others⟩

theorem Waits.running {client : Client} {program : Gateway Answer} {made : Nat} (named : key ≠ "")
    (waits : Waits env client refreshToken key program made) : program.running = true := by
  cases waits with
  | claiming =>
    rw [refresh_keyed client refreshToken named]
    rfl
  | polling => rfl
  | reading => rfl
  | sleeping => rfl

theorem Led.ended {start : GatewayState} {config : HandlerConfig} {owner : Nat} (named : key ≠ "")
    (led : Led env refreshToken key row start config owner claimed result) (member : thread ∈ config.threads)
    (stopped : thread.program.running = false) : ∃ answer, result = some answer ∧
      thread.program = .done (.ok (.tokens (tokenResponse env answer.accessToken answer.refreshToken))) := by
  obtain ⟨index, found⟩ := List.getElem?_of_mem member
  by_cases own : index = owner
  · subst own
    obtain ⟨leader, there, _, leads⟩ := led.leader
    obtain rfl : leader = thread := Option.some.inj (there.symm.trans found)
    cases leads with
    | checking checking =>
      generalize leader.program = running at checking stopped
      cases checking <;> cases stopped
    | rotating metadata checked same effect resume program =>
      rw [program] at stopped
      cases stopped
    | finished answer successor after ms program => exact ⟨answer, rfl, program⟩
  · rcases led.others index thread found own with ⟨client, waits⟩ | answered
    · rw [waits.running named] at stopped
      cases stopped
    · exact answered

theorem Led.rotated {start : GatewayState} {config : HandlerConfig} {owner : Nat} {answer : CachedRefreshResult}
    (led : Led env refreshToken key row start config owner claimed (some answer)) :
    ∃ successor, RotatedTo env row answer.refreshToken start config.state successor := by
  obtain ⟨leader, _, _, leads⟩ := led.leader
  cases leads with
  | finished _ successor after ms _ _ _ rotated elapsed =>
    obtain ⟨revokedAt, rows⟩ := rotated.rows
    have unchanged : config.state.refreshTokens = after.refreshTokens := congrArg (·.refreshTokens) elapsed
    rw [led.rows] at rows
    exact ⟨successor, ⟨revokedAt, unchanged.trans rows⟩, rotated.hash, rotated.family, rotated.user, rotated.active⟩

end Preservation

/-- Any number of concurrent requests with one token and one key, each in time: once one of them has ended, every
    one that ends is answered with the same pair, and the token has been rotated exactly once. -/
theorem concurrent_idempotent_refresh (env : Env) (config : HandlerConfig)
    (reachable : HandlersReachable env System.anyStep config) (refreshToken key : String) (named : key ≠ "")
    (row : RefreshTokenRow)
    (found : config.state.refreshTokens.find? (·.tokenHash = env.sha256Hex refreshToken) = some row)
    (active : row.revokedAt = none)
    (free : config.state.redis.get config.state.clock (.idempotencyRefresh key) = none) (later : HandlerConfig)
    (run : Reaches (handlers env) (fun now label => SameRetry env refreshToken key now label ∧ InTime key row now label)
      (quiet config.state) later)
    (ended : ∃ thread ∈ later.threads, thread.program.running = false) :
    ∃ pair successor, RotatedTo env row pair.refresh_token config.state later.state successor ∧
      ∀ thread ∈ later.threads, thread.program.running = false → thread.answered (.ok (.tokens pair)) := by
  have user := (handlers_valid reachable).1.users row (List.mem_of_find?_eq_some found)
  have phase : Unclaimed env refreshToken key config.state later ∨
      ∃ owner claimed result, Led env refreshToken key row config.state later owner claimed result := by
    apply run.invariant
    · exact .inl ⟨⟨0, rfl⟩, nofun⟩
    · rintro now label after (unclaimed | ⟨owner, claimed, result, led⟩) ⟨retry, inTime⟩ moved
      · rcases unclaimed.next named free retry moved with still | ⟨owner, claimed, led⟩
        · exact .inl still
        · exact .inr ⟨owner, claimed, none, led⟩
      · obtain ⟨answer, led⟩ := led.next named found active user retry inTime moved
        exact .inr ⟨owner, claimed, answer, led⟩
  obtain ⟨thread, member, stopped⟩ := ended
  rcases phase with unclaimed | ⟨owner, claimed, result, led⟩
  · obtain ⟨_, client, program⟩ := unclaimed.threads thread member
    rw [program, (Waits.claiming : Waits env client refreshToken key _ 0).running named] at stopped
    cases stopped
  · obtain ⟨answer, rfl, _⟩ := led.ended named member stopped
    obtain ⟨successor, rotated⟩ := led.rotated
    refine ⟨tokenResponse env answer.accessToken answer.refreshToken, successor, rotated, ?_⟩
    intro other present halted
    obtain ⟨same, equal, answered⟩ := led.ended named present halted
    cases equal
    exact answered

section Schedules

variable (refreshToken key : String) (expiresAt : Nat)

def sameRetry (config : HandlerConfig) : HandlerLabel → Bool
  | .call (.refresh _ token idempotencyKey) => token = refreshToken && idempotencyKey = some key
  | .call _ => false
  | .step index choice => config.threads[index]?.all fun thread =>
    match thread.program with
    | .await effect _ =>
      match exec sampleEnv effect choice config.state with
      | some (.error _, _) => false
      | _ => true
    | .done _ => true
  | .crash _ => false
  | .external (.elapse _) => true
  | .external _ => false

theorem sameRetry_sound (config : HandlerConfig) (label : HandlerLabel)
    (passed : sameRetry refreshToken key config label = true) : SameRetry sampleEnv refreshToken key config label := by
  cases label with
  | call call =>
    cases call with
    | refresh client token idempotencyKey =>
      simp only [sameRetry, Bool.and_eq_true, decide_eq_true_eq] at passed
      obtain ⟨rfl, rfl⟩ := passed
      exact ⟨client, rfl⟩
    | login => cases passed
    | logout => cases passed
  | step index choice =>
    intro thread found effect pending thrown after executed
    simp only [sameRetry, found, Option.all_some] at passed
    cases program : thread.program with
    | done outcome =>
      rw [program] at pending
      cases pending
    | await op resume =>
      rw [program] at pending passed
      cases pending
      simp [executed] at passed
  | crash index => cases passed
  | external event =>
    cases event with
    | elapse ms => exact ⟨ms, rfl⟩
    | setActive => cases passed

def inTime (config : HandlerConfig) : HandlerLabel → Bool
  | .step index _ => config.threads[index]?.all fun thread =>
    decide (config.state.clock < expiresAt) &&
      match thread.program.pending with
      | some (.redisSetNx ..) => config.threads.all (·.past.isEmpty) ||
        (config.state.redis.get config.state.clock (.idempotencyRefresh key)).isSome
      | some (.redisGet _) => (config.state.redis.get config.state.clock (.idempotencyRefresh key)).any fun value =>
        decide (value = .slot .pending → polls thread.past + 1 < idempotencyClaimWaitAttempts)
      | _ => true
  | _ => true

theorem inTime_sound {row : RefreshTokenRow} (config : HandlerConfig) (label : HandlerLabel)
    (passed : inTime key row.expiresAt config label = true) : InTime key row config label := by
  cases label with
  | step index choice =>
    intro thread found
    simp only [inTime, found, Option.all_some, Bool.and_eq_true, decide_eq_true_eq] at passed
    obtain ⟨early, slot⟩ := passed
    refine ⟨fun value ttl pending claimed => ?_, fun pending => ?_, fun _ _ _ => early⟩
    · simp only [pending, Bool.or_eq_true, List.all_eq_true] at slot
      rcases slot with fresh | held
      · obtain ⟨other, member, held, ttl, sent⟩ := claimed
        have none := List.isEmpty_iff.mp (fresh other member)
        rw [none] at sent
        cases sent
      · exact Option.ne_none_iff_isSome.mpr held
    · simp only [pending, Option.any_eq_true, decide_eq_true_eq] at slot
      exact slot
  | call => trivial
  | crash => trivial
  | external => trivial

end Schedules

def promptOwner : List HandlerLabel :=
  [.call (.refresh sampleClient "t0" (some "k")), .call (.refresh sampleClient "t0" (some "k"))] ++ steps 0 1 ++
  steps 1 3 ++ steps 0 6 ++ [.step 0 (drawing "t1")] ++ steps 0 1 ++ [.step 0 (drawing "r1")] ++ steps 0 3 ++
  [.step 0 (drawing "j1")] ++ steps 0 3 ++ [.external (.elapse 50)] ++ steps 1 2

theorem prompt_owner_shared : ∃ config row later pair successor, HandlersReachable sampleEnv System.anyStep config ∧
    Reaches (handlers sampleEnv)
      (fun now label => SameRetry sampleEnv "t0" "k" now label ∧ InTime "k" row now label) (quiet config.state) later ∧
    (∃ thread ∈ later.threads, thread.program.running = false) ∧
    RotatedTo sampleEnv row pair.refresh_token config.state later.state successor ∧
    ∀ thread ∈ later.threads, thread.program.running = false → thread.answered (.ok (.tokens pair)) := by
  have passed : ((handlers sampleEnv).run oneSession (freshGateway 0 [sampleUser "u" "u@example.com"])).any
      (fun config => (config.state.refreshTokens.find? (·.tokenHash = sampleEnv.sha256Hex "t0")).any fun row =>
        decide (row.revokedAt = none) &&
        decide (config.state.redis.get config.state.clock (.idempotencyRefresh "k") = none) &&
        ((handlers sampleEnv).runChecked (fun now label => sameRetry "t0" "k" now label &&
          inTime "k" row.expiresAt now label) promptOwner (quiet config.state)).any fun later =>
            later.threads.any fun thread => !thread.program.running) = true := by decide
  obtain ⟨config, reached, checked⟩ := Reaches.of_check passed
  obtain ⟨row, found, checked⟩ := (Option.any_eq_true _ _).mp checked
  simp only [Bool.and_eq_true, decide_eq_true_eq] at checked
  obtain ⟨⟨active, free⟩, checked⟩ := checked
  have sound : ∀ now label, (sameRetry "t0" "k" now label && inTime "k" row.expiresAt now label) = true →
      SameRetry sampleEnv "t0" "k" now label ∧ InTime "k" row now label := by
    intro now label both
    rw [Bool.and_eq_true] at both
    exact ⟨sameRetry_sound _ _ _ _ both.1, inTime_sound _ _ _ both.2⟩
  obtain ⟨later, run, checked⟩ := Reaches.of_checks sound checked
  simp only [List.any_eq_true, Bool.not_eq_true'] at checked
  have reachable : HandlersReachable sampleEnv System.anyStep config := ⟨_, _, reached⟩
  obtain ⟨pair, successor, rotated, answered⟩ := concurrent_idempotent_refresh sampleEnv config reachable "t0" "k"
    (by decide) row found active free later run checked
  exact ⟨config, row, later, pair, successor, reachable, run, checked, rotated, answered⟩

def slowOwner : List HandlerLabel :=
  [.call (.refresh sampleClient "t0" (some "k")), .call (.refresh sampleClient "t0" (some "k"))] ++ steps 0 1 ++
  steps 1 1 ++ (List.replicate 5 (steps 1 2 ++ [.external (.elapse 50)] ++ steps 1 1)).flatten ++
  steps 1 6 ++ [.step 1 (drawing "t1")] ++ steps 1 1 ++ [.step 1 (drawing "r1")] ++ steps 1 3 ++
  [.step 1 (drawing "j1")] ++ steps 1 2 ++ steps 0 8

/-- The owner then takes the token for stolen: it is refused, and the new session is revoked. -/
theorem slow_owner_refused : ∃ config row later, HandlersReachable sampleEnv System.anyStep config ∧
    config.state.refreshTokens.find? (·.tokenHash = sampleEnv.sha256Hex "t0") = some row ∧ row.revokedAt = none ∧
    config.state.redis.get config.state.clock (.idempotencyRefresh "k") = none ∧
    Reaches (handlers sampleEnv) (SameRetry sampleEnv "t0" "k") (quiet config.state) later ∧
    later.state.clock < config.state.clock + idempotencyRefreshTtlSeconds * 1000 ∧ later.state.clock < row.expiresAt ∧
    (∃ thread ∈ later.threads, thread.answered (.ok (.failed tokenReuseDetectedError))) ∧
    ∃ revoked ∈ later.state.refreshTokens, revoked.revocationReason = some "reuse_detected" := by
  have passed : ((handlers sampleEnv).run oneSession (freshGateway 0 [sampleUser "u" "u@example.com"])).any
      (fun config => (config.state.refreshTokens.find? (·.tokenHash = sampleEnv.sha256Hex "t0")).any fun row =>
        decide (row.revokedAt = none) &&
        decide (config.state.redis.get config.state.clock (.idempotencyRefresh "k") = none) &&
        ((handlers sampleEnv).runChecked (sameRetry "t0" "k") slowOwner (quiet config.state)).any fun later =>
          decide (later.state.clock < config.state.clock + idempotencyRefreshTtlSeconds * 1000) &&
          decide (later.state.clock < row.expiresAt) &&
          (later.threads.any fun thread =>
            decide (thread.program.outcome = some (.ok (.failed tokenReuseDetectedError)))) &&
          later.state.refreshTokens.any fun revoked =>
            decide (revoked.revocationReason = some "reuse_detected")) = true := by decide
  obtain ⟨config, reached, checked⟩ := Reaches.of_check passed
  obtain ⟨row, found, checked⟩ := (Option.any_eq_true _ _).mp checked
  simp only [Bool.and_eq_true, decide_eq_true_eq] at checked
  obtain ⟨⟨active, free⟩, checked⟩ := checked
  obtain ⟨later, run, checked⟩ := Reaches.of_checks (sameRetry_sound "t0" "k") checked
  simp only [Bool.and_eq_true, decide_eq_true_eq, List.any_eq_true] at checked
  obtain ⟨⟨⟨early, unexpired⟩, thread, member, refused⟩, revoked⟩ := checked
  exact ⟨config, row, later, ⟨_, _, reached⟩, found, active, free, run, early, unexpired,
    ⟨thread, member, Program.outcome_eq_some.mp refused⟩, revoked⟩

end GatewayProof
