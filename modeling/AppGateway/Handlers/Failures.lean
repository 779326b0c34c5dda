import AppGateway.Async.Interruption
import AppGateway.Handlers.LogoutScope

namespace GatewayProof

open Async GatewayModel
open Async.Program (Interrupted interrupted_done interrupted_await)

/-- The Postgres statements and Redis commands of the gateway. No function below performs one of
    them twice. -/
inductive Statement where
  | selectRefreshTokenByHash | selectActiveByFamily | selectLatestActiveByUser
  | updateRevokedById | updateRevokedByFamily | insertRefreshToken
  | selectUserByEmailHash | selectUserById | updateLastLogin | insertAuditLog
  | redisGet (key : RedisKey)
  | redisSet (key : RedisKey)
  | redisSetNx (key : RedisKey)
  | redisDel (key : RedisKey)
deriving DecidableEq, Repr

def statementOf : Effect → Option Statement
  | .selectRefreshTokenByHash _ => some .selectRefreshTokenByHash
  | .selectActiveByFamily _ => some .selectActiveByFamily
  | .selectLatestActiveByUser _ => some .selectLatestActiveByUser
  | .updateRevokedById .. => some .updateRevokedById
  | .updateRevokedByFamily .. => some .updateRevokedByFamily
  | .insertRefreshToken _ => some .insertRefreshToken
  | .selectUserByEmailHash _ => some .selectUserByEmailHash
  | .selectUserById _ => some .selectUserById
  | .updateLastLogin .. => some .updateLastLogin
  | .insertAuditLog _ => some .insertAuditLog
  | .redisGet key => some (.redisGet key)
  | .redisSet key _ _ => some (.redisSet key)
  | .redisSetNx key _ _ => some (.redisSetNx key)
  | .redisDel key => some (.redisDel key)
  | .decryptEmail .. | .loadSigningKeys | .dateNow | .sleepUntil _ | .randomString => none

/-- The failure of one statement: whether it has taken effect when it fails, and whether it throws or
    the process crashes. -/
structure Failure where
  statement : Statement
  takesEffect : Bool
  crashes : Bool
deriving DecidableEq, Repr

namespace Failure

def strikes (failure : Failure) (effect : Effect) : Prop := statementOf effect = some failure.statement

instance (failure : Failure) (effect : Effect) : Decidable (failure.strikes effect) :=
  inferInstanceAs (Decidable (_ = _))

def fault (failure : Failure) (effect : Effect) : Fault :=
  if failure.strikes effect then if failure.takesEffect then .unacknowledged else .lost else .none

end Failure

abbrev Disrupted {α : Type} (env : Env) (failure : Failure) (within : Nat → Prop) (program : Gateway α) :
    GatewayState → Option (Except Thrown α) → GatewayState → Prop :=
  Interrupted (execLater env) (fun effect choice => within choice.1 ∧ choice.2.fault = failure.fault effect)
    (fun effect => failure.strikes effect ∧ failure.crashes = true) program

abbrev elapsed (ms : Nat) (state : GatewayState) : GatewayState := external (.elapse ms) state

inductive Reads (within : Nat → Prop) (start : Nat) : Nat → Prop where
  | start : Reads within start start
  | wait {now ms : Nat} (earlier : Reads within start now) (bounded : within ms) : Reads within start (now + ms)

theorem Reads.le {within : Nat → Prop} {start now : Nat} (reads : Reads within start now) : start ≤ now := by
  induction reads with
  | start => exact Nat.le_refl _
  | wait _ _ ih => omega

theorem Reads.trans {within : Nat → Prop} {start middle now : Nat} (earlier : Reads within start middle)
    (later : Reads within middle now) : Reads within start now := by
  induction later with
  | start => exact earlier
  | wait _ bounded ih => exact ih.wait bounded

def Still (wait : Nat) : Prop := wait = 0

theorem Reads.still {start now : Nat} (reads : Reads Still start now) : now = start := by
  induction reads with
  | start => rfl
  | wait _ bounded ih =>
    unfold Still at bounded
    omega

section Exec

variable {env : Env} {effect : Effect} {choice : Choice} {state : GatewayState}

theorem exec_plain (fault : choice.fault = .none) :
    exec env effect choice state = respond env choice state effect := by
  unfold exec
  rw [fault]

theorem exec_lost (fault : choice.fault = .lost) :
    exec env effect choice state = if effect.isLocal then none else some (.error .stepFailed, state) := by
  unfold exec
  rw [fault]

theorem exec_unacknowledged (fault : choice.fault = .unacknowledged) :
    exec env effect choice state = if effect.isLocal then none
      else (respond env choice state effect).map fun (_, after) => (.error .stepFailed, after) := by
  unfold exec
  rw [fault]

theorem statement_remote {effect : Effect} {failed : Statement} (named : statementOf effect = some failed) :
    effect.isLocal = false := by
  cases effect <;> first | rfl | cases named

end Exec

section Rules

variable {env : Env} {failure : Failure} {within : Nat → Prop} {before after : GatewayState}

def Failed {α : Type} (ending : Option (Except Thrown α)) : Prop := ∀ value, ending ≠ some (.ok value)

theorem Disrupted.perform_cases {α : Type} {effect : Effect} {next : effect.Reply → Gateway α}
    {ending : Option (Except Thrown α)}
    (disrupted : Disrupted env failure within (Gateway.perform effect >>= next) before ending after) :
    ∃ ms choice, within ms ∧
      ((failure.strikes effect ∧ failure.takesEffect = false ∧ after = elapsed ms before ∧ Failed ending) ∨
      (failure.strikes effect ∧ failure.takesEffect = true ∧
        (∃ reply, respond env choice (elapsed ms before) effect = some (reply, after)) ∧ Failed ending) ∨
      (¬ failure.strikes effect ∧
        ((∃ thrown, respond env choice (elapsed ms before) effect = some (.error thrown, after) ∧ Failed ending) ∨
        ∃ value middle, respond env choice (elapsed ms before) effect = some (.ok value, middle) ∧
          Disrupted env failure within (next value) middle ending after))) := by
  obtain ⟨⟨ms, choice⟩, reply, middle, ⟨bounded, fault⟩, executed, rest⟩ := interrupted_await.mp disrupted
  refine ⟨ms, choice, bounded, ?_⟩
  have ended : ∀ thrown, reply = .error thrown → after = middle ∧ Failed ending := by
    rintro thrown rfl
    rcases rest with ⟨_, rfl, same⟩ | ⟨_, rest⟩
    · exact ⟨same, nofun⟩
    · obtain ⟨rfl, same⟩ := interrupted_done.mp rest
      exact ⟨same, nofun⟩
  by_cases struck : failure.strikes effect
  · cases effects : failure.takesEffect with
    | false =>
      rw [execLater, exec_lost (fault.trans (by simp [Failure.fault, struck, effects]))] at executed
      rw [if_neg (by simp [statement_remote struck])] at executed
      cases executed
      exact .inl ⟨struck, rfl, ended _ rfl⟩
    | true =>
      rw [execLater, exec_unacknowledged (fault.trans (by simp [Failure.fault, struck, effects]))] at executed
      rw [if_neg (by simp [statement_remote struck])] at executed
      obtain ⟨⟨answer, state⟩, responded, same⟩ := Option.map_eq_some_iff.mp executed
      cases same
      obtain ⟨rfl, failed⟩ := ended _ rfl
      exact .inr (.inl ⟨struck, rfl, ⟨answer, responded⟩, failed⟩)
  · rw [execLater, exec_plain (fault.trans (by simp [Failure.fault, struck]))] at executed
    refine .inr (.inr ⟨struck, ?_⟩)
    cases reply with
    | error thrown =>
      obtain ⟨rfl, failed⟩ := ended thrown rfl
      exact .inl ⟨thrown, executed, failed⟩
    | ok value =>
      rcases rest with ⟨⟨killed, _⟩, _⟩ | ⟨_, rest⟩
      · exact absurd killed struck
      · exact .inr ⟨value, middle, executed, rest⟩

theorem Disrupted.dateNow {α : Type} {next : Nat → Gateway α} {ending : Option (Except Thrown α)}
    (disrupted : Disrupted env failure within (Gateway.dateNow >>= next) before ending after) :
    ∃ ms, within ms ∧ Disrupted env failure within (next (before.clock + ms)) (elapsed ms before) ending after := by
  obtain ⟨ms, choice, bounded, ⟨struck, _⟩ | ⟨struck, _⟩ | ⟨_, ⟨_, responded, _⟩ | ⟨_, _, responded, rest⟩⟩⟩ :=
    disrupted.perform_cases
  · cases struck
  · cases struck
  · cases responded
  · cases responded
    exact ⟨ms, bounded, rest⟩

theorem Disrupted.randomString {α : Type} {next : String → Gateway α} {ending : Option (Except Thrown α)}
    (disrupted : Disrupted env failure within (Gateway.randomString >>= next) before ending after) :
    ∃ ms value, within ms ∧ value ∉ before.drawn ∧
      Disrupted env failure within (next value)
        { elapsed ms before with drawn := value :: before.drawn } ending after := by
  obtain ⟨ms, choice, bounded, ⟨struck, _⟩ | ⟨struck, _⟩ | ⟨_, ⟨_, responded, _⟩ | ⟨_, _, responded, rest⟩⟩⟩ :=
    disrupted.perform_cases
  · cases struck
  · cases struck
  all_goals
    simp only [respond] at responded
    split at responded
    · cases responded
    rename_i fresh
    cases responded
  exact ⟨ms, _, bounded, fresh, rest⟩

theorem Disrupted.rows {α : Type} {program : Gateway α} {ending : Option (Except Thrown α)}
    (disrupted : Disrupted env failure within program before ending after) (uses : program.Uses KeepsRows) :
    after.refreshTokens = before.refreshTokens := by
  apply disrupted.invariant uses
  · rfl
  · intro effect choice reply start later keeps _ same executed
    have step : TableStep (elapsed choice.1 start) later effect := exec_tableStep executed
    exact (step.keeps_rows keeps).trans same

theorem select_disrupted {α : Type} {tokenHash : String} {next : Option RefreshTokenRow → Gateway α}
    {ending : Option (Except Thrown α)}
    (disrupted : Disrupted env failure within (Gateway.selectRefreshTokenByHash tokenHash >>= next) before ending after)
    :
    (failure.statement = .selectRefreshTokenByHash ∧ after.refreshTokens = before.refreshTokens ∧ Failed ending) ∨
    failure.statement ≠ .selectRefreshTokenByHash ∧ ∃ ms, within ms ∧ Disrupted env failure within
      (next (before.refreshTokens.find? (·.tokenHash = tokenHash))) (elapsed ms before) ending after := by
  obtain ⟨ms, _, bounded, ⟨struck, _, rfl, failed⟩ | ⟨struck, _, ⟨_, responded⟩, failed⟩ |
    ⟨spared, ⟨_, responded, _⟩ | ⟨_, _, responded, rest⟩⟩⟩ := disrupted.perform_cases
  · exact .inl ⟨(Option.some.inj struck).symm, rfl, failed⟩
  · cases responded
    exact .inl ⟨(Option.some.inj struck).symm, rfl, failed⟩
  · cases responded
  · cases responded
    exact .inr ⟨fun same => spared (congrArg some same.symm), ms, bounded, rest⟩

theorem cacheRefreshTokenRevocation_bind {α : Type} (tokenHash : String) (expiresAt : Nat) (next : Unit → Gateway α) :
    (cacheRefreshTokenRevocation tokenHash expiresAt >>= next) = Gateway.dateNow >>= fun now =>
      (if ttlSeconds expiresAt now = 0 then pure ()
        else Gateway.redisSet (.revokedRefresh tokenHash) .flag (ttlSeconds expiresAt now)) >>= next := by
  unfold cacheRefreshTokenRevocation ttlSecondsUntil
  simp only [Program.bind_eq, Program.bind_assoc, Program.pure_eq, Program.done_ok_bind]

structure SameTable (before after : GatewayState) : Prop where
  rows : after.refreshTokens = before.refreshTokens
  users : after.users = before.users
  drawn : after.drawn = before.drawn

theorem mirror_disrupted {α : Type} {tokenHash : String} {expiresAt : Nat} {next : Unit → Gateway α}
    {ending : Option (Except Thrown α)}
    (disrupted : Disrupted env failure within (cacheRefreshTokenRevocation tokenHash expiresAt >>= next) before
      ending after) :
    (failure.statement = .redisSet (.revokedRefresh tokenHash) ∧ before.clock < expiresAt ∧
      after.refreshTokens = before.refreshTokens ∧ Failed ending) ∨
    ∃ middle, SameTable before middle ∧ Disrupted env failure within (next ()) middle ending after ∧
      (failure.statement = .redisSet (.revokedRefresh tokenHash) →
        ∃ now, Reads within before.clock now ∧ expiresAt ≤ now) := by
  rw [cacheRefreshTokenRevocation_bind] at disrupted
  obtain ⟨ms, bounded, rest⟩ := disrupted.dateNow
  split at rest
  · rename_i expired
    exact .inr ⟨elapsed ms before, ⟨rfl, rfl, rfl⟩, rest, fun _ =>
      ⟨_, .wait .start bounded, ttlSeconds_zero.mp expired⟩⟩
  rename_i unexpired
  have live : before.clock < expiresAt :=
    Nat.lt_of_le_of_lt (Nat.le_add_right _ _) (Nat.lt_of_not_le fun late => unexpired (ttlSeconds_zero.mpr late))
  obtain ⟨_, _, _, ⟨struck, _, rfl, failed⟩ | ⟨struck, _, ⟨_, responded⟩, failed⟩ |
    ⟨spared, ⟨_, responded, _⟩ | ⟨_, _, responded, rest⟩⟩⟩ := rest.perform_cases
  · exact .inl ⟨(Option.some.inj struck).symm, live, rfl, failed⟩
  · cases responded
    exact .inl ⟨(Option.some.inj struck).symm, live, rfl, failed⟩
  · cases responded
  · cases responded
    refine .inr ⟨_, ?_, rest, fun same => absurd (congrArg some same.symm) spared⟩
    exact ⟨rfl, rfl, rfl⟩

def Prompt : Effect → Prop
  | .sleepUntil _ => False
  | _ => True

theorem respond_possible (env : Env) (state : GatewayState) (effect : Effect) (prompt : Prompt effect) :
    ∃ random pick, ∀ fault, ∃ reply after,
      respond env { fault, random, pick } state effect = some (reply, after) := by
  obtain ⟨random, fresh, _⟩ := exists_fresh Function.injective_id state.drawn []
  refine ⟨random, 0, fun fault => ?_⟩
  cases effect with
  | selectLatestActiveByUser userId =>
    simp only [respond]
    cases latestOfUser state.refreshTokens userId with
    | nil => exact ⟨_, _, rfl⟩
    | cons row rows => exact ⟨_, _, rfl⟩
  | insertRefreshToken values =>
    simp only [respond, fresh, if_false]
    exact ⟨_, _, rfl⟩
  | randomString =>
    simp only [respond, fresh, if_false]
    exact ⟨_, _, rfl⟩
  | decryptEmail encoded tenantId =>
    simp only [respond]
    split
    · exact ⟨_, _, rfl⟩
    · exact ⟨_, _, rfl⟩
  | sleepUntil wakeAt => exact prompt.elim
  | _ => exact ⟨_, _, rfl⟩

theorem Disrupted.exists_still {α : Type} {program : Gateway α} (failure : Failure) (uses : program.Uses Prompt)
    (state : GatewayState) : ∃ ending after, Disrupted env failure Still program state ending after := by
  apply Interrupted.exists uses
  intro effect start prompt
  obtain ⟨random, pick, possible⟩ := respond_possible env (elapsed 0 start) effect prompt
  obtain ⟨reply, after, responded⟩ := possible (failure.fault effect)
  refine ⟨(0, { fault := failure.fault effect, random, pick }), ?_⟩
  by_cases struck : failure.strikes effect
  · have remote : ¬ effect.isLocal = true := by simp [statement_remote struck]
    cases effects : failure.takesEffect with
    | false =>
      refine ⟨.error .stepFailed, elapsed 0 start, ⟨rfl, rfl⟩, ?_⟩
      rw [execLater, exec_lost (by simp [Failure.fault, struck, effects]), if_neg remote]
    | true =>
      refine ⟨.error .stepFailed, after, ⟨rfl, rfl⟩, ?_⟩
      rw [execLater, exec_unacknowledged (by simp [Failure.fault, struck, effects]), if_neg remote, responded]
      rfl
  · refine ⟨reply, after, ⟨rfl, rfl⟩, ?_⟩
    rw [execLater, exec_plain (by simp [Failure.fault, struck])]
    exact responded

theorem Disrupted.clock {α : Type} {program : Gateway α} {ending : Option (Except Thrown α)}
    (disrupted : Disrupted env failure Still program before ending after) : after.clock = before.clock := by
  have any : program.Uses fun _ => True := (Program.obeys_grow program []).uses fun _ _ permit => permit
  apply disrupted.invariant any
  · rfl
  · intro effect choice reply start later _ good same executed
    have step : TableStep (elapsed choice.1 start) later effect := exec_tableStep executed
    have waited : (elapsed choice.1 start).clock = start.clock := congrArg (start.clock + ·) good.1
    exact step.clock.trans (waited.trans same)

theorem respond_fault (fault : Fault) (random : String) (pick : Nat) (state : GatewayState) (effect : Effect) :
    respond env { fault, random, pick } state effect = respond env { random, pick } state effect := by
  cases effect <;> rfl

theorem Disrupted.waits {α : Type} {effect : Effect} {next : effect.Reply → Gateway α}
    {ending : Option (Except Thrown α)} {random : String} {pick : Nat} {value : effect.Reply} {middle : GatewayState}
    (ms : Nat) (bounded : within ms) (spared : ¬ failure.strikes effect)
    (responded : respond env { random, pick } (elapsed ms before) effect = some (.ok value, middle))
    (rest : Disrupted env failure within (next value) middle ending after) :
    Disrupted env failure within (Gateway.perform effect >>= next) before ending after := by
  have executed : execLater env effect (ms, { random, pick }) before = some (.ok value, middle) := by
    rw [execLater, exec_plain rfl]
    exact responded
  exact .await (ms, { random, pick }) (fun killed => spared killed.1)
    ⟨bounded, by simp [Failure.fault, spared]⟩ executed rest

theorem Disrupted.spared {α : Type} {effect : Effect} {next : effect.Reply → Gateway α}
    {ending : Option (Except Thrown α)} {random : String} {pick : Nat} {value : effect.Reply} {middle : GatewayState}
    (prompt : within 0) (spared : ¬ failure.strikes effect)
    (responded : respond env { random, pick } before effect = some (.ok value, middle))
    (rest : Disrupted env failure within (next value) middle ending after) :
    Disrupted env failure within (Gateway.perform effect >>= next) before ending after :=
  .waits 0 prompt spared responded rest

theorem Disrupted.struck {α : Type} {effect : Effect} (next : effect.Reply → Gateway α) {random : String} {pick : Nat}
    {reply : Except Thrown effect.Reply} {middle : GatewayState} (prompt : within 0) (struck : failure.strikes effect)
    (responded : respond env { random, pick } before effect = some (reply, middle)) :
    ∃ ending, Failed ending ∧ Disrupted env failure within (Gateway.perform effect >>= next) before ending
      (if failure.takesEffect then middle else before) := by
  have remote : ¬ effect.isLocal = true := by simp [statement_remote struck]
  have executed : execLater env effect (0, { fault := failure.fault effect, random, pick }) before =
      some (.error .stepFailed, if failure.takesEffect then middle else before) := by
    cases effects : failure.takesEffect with
    | false =>
      rw [execLater, exec_lost (by simp [Failure.fault, struck, effects]), if_neg remote]
      rfl
    | true =>
      rw [execLater, exec_unacknowledged (by simp [Failure.fault, struck, effects]), if_neg remote, respond_fault]
      exact congrArg _ responded
  by_cases crashes : failure.crashes = true
  · exact ⟨none, nofun, .died _ ⟨struck, crashes⟩ ⟨prompt, rfl⟩ executed⟩
  · exact ⟨some (.error .stepFailed), nofun,
      .await _ (fun killed => crashes killed.2) ⟨prompt, rfl⟩ executed (.done _ _)⟩

theorem Disrupted.breaks {α : Type} {effect : Effect} {next : effect.Reply → Gateway α} (value : α) {random : String}
    {pick : Nat} {reply : Except Thrown effect.Reply} {middle : GatewayState} (struck : failure.strikes effect)
    (responded : respond env { random, pick } before effect = some (reply, middle)) :
    ∃ ending after, ending ≠ some (.ok value) ∧
      Disrupted env failure Still (Gateway.perform effect >>= next) before ending after := by
  have prompt : Still 0 := rfl
  obtain ⟨ending, failed, disrupted⟩ := Disrupted.struck next prompt struck responded
  exact ⟨ending, _, failed value, disrupted⟩

end Rules

end GatewayProof
