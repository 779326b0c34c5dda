import AppGateway.Handlers.Failures
import AppGateway.Handlers.TokenHashes

namespace GatewayProof

open Async GatewayModel
open Async.System (Reaches)

def Replaced (row : RefreshTokenRow) (before after : List RefreshTokenRow) : Prop :=
  ∃ revokedAt reason successor, after = setRevoked before (·.id = row.id) revokedAt reason ++ [successor] ∧
    successor.sessionFamily = row.sessionFamily ∧ successor.revokedAt = none

def AllOrNothing (tokenHash : String) (before after : List RefreshTokenRow) : Prop :=
  after = before ∨ ∃ row ∈ before, row.tokenHash = tokenHash ∧ Replaced row before after

/-- The failure of a rotation that leaves no trace or is made up for: the UPDATE has no effect, the
    mirror is written, and the INSERT takes effect. -/
def SparesRotation (failure : Failure) (tokenHash : String) : Prop :=
  (failure.statement = .updateRevokedById → failure.takesEffect = false) ∧
  failure.statement ≠ .redisSet (.revokedRefresh tokenHash) ∧
  (failure.statement = .insertRefreshToken → failure.takesEffect = true)

def StopsRevocation (failure : Failure) : Prop :=
  failure.statement = .selectRefreshTokenByHash ∨ failure.statement = .selectActiveByFamily ∨
    failure.statement = .updateRevokedByFamily ∧ failure.takesEffect = false

def RotatesWhole (failure : Failure) (tokenHash : String) (state : GatewayState) : Prop :=
  match state.refreshTokens.find? (·.tokenHash = tokenHash) with
  | none => True
  | some row =>
    if row.revokedAt.isSome then
      activeInFamily state.refreshTokens row.sessionFamily = [] ∨ StopsRevocation failure
    else row.expiresAt ≤ state.clock ∨ SparesRotation failure tokenHash

theorem insert_succeeds {state : GatewayState} {values : NewRefreshToken} (id : String)
    (user : ∃ user ∈ state.users, user.id = values.userId)
    (unused : ∀ row ∈ state.refreshTokens, row.tokenHash ≠ values.tokenHash) :
    state.insert values id = (.ok (), { state with
      refreshTokens := state.refreshTokens ++ [values.row id state.clock]
      drawn := id :: state.drawn }) := by
  have known : state.users.any (·.id = values.userId) = true := by simpa using user
  have unique : ¬ state.refreshTokens.any (·.tokenHash = values.tokenHash) = true := by simpa using unused
  unfold GatewayState.insert
  rw [if_pos known, if_neg unique]

section Rotation

variable {env : Env} {failure : Failure} {within : Nat → Prop} {before after : GatewayState}

theorem issue_disrupted {α : Type} (distinct : Function.Injective env.sha256Hex) {userId sessionFamily : String}
    {metadata : RefreshTokenMetadata} {next : IssuedRefreshToken → Gateway α} {ending : Option (Except Thrown α)}
    (user : ∃ user ∈ before.users, user.id = userId) (hashed : RowsHashed env before)
    (disrupted : Disrupted env failure within
      (issueRefreshToken env userId metadata (some sessionFamily) >>= next) before ending after)
    (quiet : ∀ issued, (next issued).Uses KeepsRows) :
    (failure.statement = .insertRefreshToken ∧ failure.takesEffect = false ∧
      after.refreshTokens = before.refreshTokens) ∨
    (failure.statement = .insertRefreshToken → failure.takesEffect = true) ∧
      ∃ successor, after.refreshTokens = before.refreshTokens ++ [successor] ∧
        successor.sessionFamily = sessionFamily ∧ successor.revokedAt = none := by
  have unfolded : (issueRefreshToken env userId metadata (some sessionFamily) >>= next) =
      Gateway.randomString >>= fun plaintext => Gateway.dateNow >>= fun now =>
        Gateway.insertRefreshToken
          { userId, tokenHash := env.sha256Hex plaintext, sessionFamily, clientId := metadata.clientId
            ipAddress := metadata.ipAddress, userAgent := metadata.userAgent
            expiresAt := now + env.refreshTokenTtlSeconds * 1000 } >>= fun _ =>
        next { plaintext, tokenHash := env.sha256Hex plaintext, sessionFamily
               expiresAt := now + env.refreshTokenTtlSeconds * 1000 } := by
    unfold issueRefreshToken generatePlaintext secondsFromNow hashRefreshToken
    simp only [Program.bind_eq, Program.bind_assoc, Program.pure_eq, Program.done_ok_bind]
  rw [unfolded] at disrupted
  obtain ⟨_, plaintext, _, fresh, rest⟩ := disrupted.randomString
  obtain ⟨_, _, rest⟩ := rest.dateNow
  have unused : ∀ row ∈ before.refreshTokens, row.tokenHash ≠ env.sha256Hex plaintext := by
    intro row member same
    obtain ⟨other, drawn, hash⟩ := hashed row member
    exact fresh (distinct (same.symm.trans hash) ▸ drawn)
  obtain ⟨_, choice, _, ⟨struck, lost, rfl, _⟩ | ⟨struck, effect, ⟨_, responded⟩, _⟩ |
    ⟨spared, ⟨_, responded, _⟩ | ⟨_, _, responded, rest⟩⟩⟩ := rest.perform_cases
  · exact .inl ⟨(Option.some.inj struck).symm, lost, rfl⟩
  all_goals
    simp only [respond] at responded
    split at responded
    · cases responded
    rw [insert_succeeds choice.random user unused] at responded
    cases responded
  · exact .inr ⟨fun _ => effect, _, rfl, rfl, rfl⟩
  · refine .inr ⟨fun same => absurd (congrArg some same.symm) spared, ?_⟩
    have kept := rest.rows (quiet _)
    exact ⟨_, kept, rfl, rfl⟩

theorem unknown_disrupted {plaintextToken : String} {metadata : RefreshTokenMetadata}
    {ending : Option (Except Thrown (Except AppError RotationResult))}
    (missing : before.refreshTokens.find? (·.tokenHash = env.sha256Hex plaintextToken) = none)
    (disrupted : Disrupted env failure within (rotateRefreshToken env plaintextToken metadata) before ending after) :
    after.refreshTokens = before.refreshTokens := by
  rcases select_disrupted disrupted with ⟨_, kept, _⟩ | ⟨_, _, _, rest⟩
  · exact kept
  · unfold hashRefreshToken at rest
    rw [missing] at rest
    have kept := Disrupted.rows rest trivial
    exact kept

/-- What one failing statement can leave of the rotation of an active row. -/
inductive Remains (failure : Failure) (within : Nat → Prop) (tokenHash : String) (row : RefreshTokenRow)
    (before after : GatewayState) : Prop where
  | untouched (rows : after.refreshTokens = before.refreshTokens)
      (early : failure.statement = .selectRefreshTokenByHash ∨
        failure.statement = .updateRevokedById ∧ failure.takesEffect = false ∨
        ∃ now, Reads within before.clock now ∧ row.expiresAt ≤ now)
  | consumed (revokedAt : Nat) (unexpired : before.clock < row.expiresAt)
      (rows : after.refreshTokens = setRevoked before.refreshTokens (·.id = row.id) revokedAt "rotation")
      (torn : ¬ SparesRotation failure tokenHash)
  | replaced (unexpired : before.clock < row.expiresAt)
      (rows : Replaced row before.refreshTokens after.refreshTokens)
      (spared : SparesRotation failure tokenHash ∨ ∃ now, Reads within before.clock now ∧ row.expiresAt ≤ now)

theorem active_disrupted (distinct : Function.Injective env.sha256Hex) (valid : TableValid before)
    (hashed : RowsHashed env before) {plaintextToken : String} {metadata : RefreshTokenMetadata}
    {ending : Option (Except Thrown (Except AppError RotationResult))} {row : RefreshTokenRow}
    (found : before.refreshTokens.find? (·.tokenHash = env.sha256Hex plaintextToken) = some row)
    (active : row.revokedAt = none)
    (disrupted : Disrupted env failure within (rotateRefreshToken env plaintextToken metadata) before ending after) :
    Remains failure within (env.sha256Hex plaintextToken) row before after := by
  have member := List.mem_of_find?_eq_some found
  rcases select_disrupted disrupted with ⟨struck, kept, _⟩ | ⟨_, _, bounded, rest⟩
  · exact .untouched kept (.inl struck)
  unfold hashRefreshToken at rest
  rw [found] at rest
  simp only [active, Option.isSome_none, Bool.false_eq_true, if_false] at rest
  obtain ⟨_, bounded', rest⟩ := Disrupted.dateNow rest
  have read : Reads within before.clock _ := (Reads.start.wait bounded).wait bounded'
  split at rest
  · rename_i expired
    have kept := Disrupted.rows rest trivial
    exact .untouched kept (.inr (.inr ⟨_, read, expired⟩))
  rename_i unexpired
  have live : before.clock < row.expiresAt := Nat.lt_of_le_of_lt read.le (Nat.lt_of_not_le unexpired)
  obtain ⟨_, bounded, rest⟩ := Disrupted.dateNow rest
  have read := read.wait bounded
  obtain ⟨_, _, bounded, ⟨struck, lost, rfl, _⟩ | ⟨struck, effect, ⟨_, responded⟩, _⟩ |
    ⟨spared, ⟨_, responded, _⟩ | ⟨_, _, responded, rest⟩⟩⟩ := Disrupted.perform_cases rest
  · exact .untouched rfl (.inr (.inl ⟨(Option.some.inj struck).symm, lost⟩))
  · cases responded
    refine .consumed _ live rfl fun spares => ?_
    exact absurd (spares.1 (Option.some.inj struck).symm) (by simp [effect])
  · cases responded
  cases responded
  have updated : failure.statement ≠ .updateRevokedById := fun same => spared (congrArg some same.symm)
  have read := read.wait bounded
  rcases mirror_disrupted rest with ⟨struck, _, kept, _⟩ | ⟨middle, same, rest, skipped⟩
  · exact .consumed _ live kept fun spares => spares.2.1 struck
  have user : ∃ user ∈ middle.users, user.id = row.userId := same.users ▸ valid.users row member
  have hashes : RowsHashed env middle := by
    intro later stored
    rw [same.rows] at stored
    obtain ⟨old, held, version⟩ := later_of_mem_setRevoked stored
    obtain ⟨plaintext, drawn, hash⟩ := hashed old held
    exact ⟨plaintext, same.drawn ▸ drawn, version.tokenHash.trans hash⟩
  rcases issue_disrupted distinct user hashes rest (fun _ => trivial) with ⟨struck, lost, kept⟩ |
    ⟨taken, successor, rows, family, fresh⟩
  · refine .consumed _ live (kept.trans same.rows) fun spares => ?_
    exact absurd (spares.2.2 struck) (by simp [lost])
  refine .replaced live ⟨_, _, successor, rows.trans (congrArg (· ++ [successor]) same.rows), family, fresh⟩ ?_
  by_cases mirrored : failure.statement = .redisSet (.revokedRefresh (env.sha256Hex plaintextToken))
  · obtain ⟨now, later, expired⟩ := skipped mirrored
    exact .inr ⟨now, read.trans later, expired⟩
  · exact .inl ⟨fun same => absurd same updated, mirrored, taken⟩

theorem replay_disrupted {plaintextToken : String} {metadata : RefreshTokenMetadata}
    {ending : Option (Except Thrown (Except AppError RotationResult))} {row : RefreshTokenRow}
    (found : before.refreshTokens.find? (·.tokenHash = env.sha256Hex plaintextToken) = some row)
    (revoked : row.revokedAt.isSome)
    (disrupted : Disrupted env failure within (rotateRefreshToken env plaintextToken metadata) before ending after) :
    (after.refreshTokens = before.refreshTokens ∧
      (activeInFamily before.refreshTokens row.sessionFamily = [] ∨ StopsRevocation failure)) ∨
    ¬ StopsRevocation failure ∧ activeInFamily before.refreshTokens row.sessionFamily ≠ [] ∧ ∃ revokedAt,
      after.refreshTokens = revokedFamily before.refreshTokens row.sessionFamily revokedAt "reuse_detected" := by
  rcases select_disrupted disrupted with ⟨struck, kept, _⟩ | ⟨selectSpared, _, _, rest⟩
  · exact .inl ⟨kept, .inr (.inl struck)⟩
  unfold hashRefreshToken at rest
  rw [found] at rest
  simp only [revoked, if_true] at rest
  unfold revokeSessionFamily at rest
  simp only [Program.bind_eq, Program.bind_assoc] at rest
  obtain ⟨_, _, _, ⟨struck, _, rfl, _⟩ | ⟨struck, _, ⟨_, responded⟩, _⟩ |
    ⟨readSpared, ⟨_, responded, _⟩ | ⟨rows, _, responded, rest⟩⟩⟩ := Disrupted.perform_cases rest
  · exact .inl ⟨rfl, .inr (.inr (.inl (Option.some.inj struck).symm))⟩
  · cases responded
    exact .inl ⟨rfl, .inr (.inr (.inl (Option.some.inj struck).symm))⟩
  · cases responded
  have audits : ∀ entry (answer : Except AppError RotationResult),
      ((writeAuditEvent entry).bind fun _ => pure answer).Uses KeepsRows := fun entry _ =>
    ((writeAuditEvent_incidental entry).weaken fun _ incidental => incidental.keepsRows).bind fun _ => trivial
  cases responded
  split at rest
  · rename_i empty
    have kept := Disrupted.rows rest (audits _ _)
    exact .inl ⟨kept, .inl (List.isEmpty_iff.mp empty)⟩
  rename_i some_active
  simp only [Program.bind_assoc] at rest
  obtain ⟨_, _, rest⟩ := Disrupted.dateNow rest
  obtain ⟨_, _, _, ⟨struck, lost, rfl, _⟩ | ⟨struck, effect, ⟨_, responded⟩, _⟩ |
    ⟨updateSpared, ⟨_, responded, _⟩ | ⟨_, _, responded, rest⟩⟩⟩ := Disrupted.perform_cases rest
  · exact .inl ⟨rfl, .inr (.inr (.inr ⟨(Option.some.inj struck).symm, lost⟩))⟩
  · cases responded
    refine .inr ⟨?_, fun none_active => some_active (List.isEmpty_iff.mpr none_active), _, rfl⟩
    rintro (first | second | ⟨_, lost⟩)
    · exact selectSpared first
    · exact readSpared (congrArg some second.symm)
    · rw [effect] at lost
      cases lost
  · cases responded
  cases responded
  have mirrors := (mirrors_uses (activeInFamily before.refreshTokens row.sessionFamily)).weaken
    fun _ mirrors => mirrors.incidental.keepsRows
  have kept := Disrupted.rows rest (mirrors.bind fun _ => audits _ _)
  refine .inr ⟨?_, fun none_active => some_active (List.isEmpty_iff.mpr none_active), _, kept⟩
  rintro (first | second | ⟨third, _⟩)
  · exact selectSpared first
  · exact readSpared (congrArg some second.symm)
  · exact updateSpared (congrArg some third.symm)

end Rotation

theorem setRevoked_length (rows : List RefreshTokenRow) (selects : RefreshTokenRow → Bool) (revokedAt : Nat)
    (reason : String) : (setRevoked rows selects revokedAt reason).length = rows.length := List.length_map _

theorem not_allOrNothing {tokenHash reason : String} {revokedAt : Nat} {before after : List RefreshTokenRow}
    {selects : RefreshTokenRow → Bool} {row : RefreshTokenRow} (stored : row ∈ before) (active : row.revokedAt = none)
    (selected : selects row = true) (rows : after = setRevoked before selects revokedAt reason) :
    ¬ AllOrNothing tokenHash before after := by
  rintro (same | ⟨presented, _, _, at', reason', successor, replaced, _⟩)
  · have changed : (setRevoked before selects revokedAt reason).map (·.revokedAt) = before.map (·.revokedAt) := by
      rw [← rows, same]
    rw [setRevoked, List.map_map, List.map_inj_left] at changed
    have kept := changed row stored
    simp [selected, active] at kept
  · have lengths := congrArg List.length (rows.symm.trans replaced)
    simp [setRevoked_length] at lengths

section Law

variable {env : Env} {failure : Failure} {state : GatewayState} {plaintextToken : String}
    {metadata : RefreshTokenMetadata}

theorem whole_rotation (distinct : Function.Injective env.sha256Hex) (valid : TableValid state)
    (hashed : RowsHashed env state) (whole : RotatesWhole failure (env.sha256Hex plaintextToken) state)
    {ending : Option (Except Thrown (Except AppError RotationResult))} {after : GatewayState}
    (disrupted : Disrupted env failure (fun _ => True) (rotateRefreshToken env plaintextToken metadata) state ending
      after) : AllOrNothing (env.sha256Hex plaintextToken) state.refreshTokens after.refreshTokens := by
  unfold RotatesWhole at whole
  split at whole
  · rename_i missing
    exact .inl (unknown_disrupted missing disrupted)
  rename_i row found
  have member := List.mem_of_find?_eq_some found
  have presented : row.tokenHash = env.sha256Hex plaintextToken := by
    have named := List.find?_some found
    simpa using named
  split at whole
  · rename_i revoked
    rcases replay_disrupted found revoked disrupted with ⟨rows, _⟩ | ⟨proceeds, active, _⟩
    · exact .inl rows
    · exact absurd whole (not_or.mpr ⟨active, proceeds⟩)
  · rename_i unrevoked
    have active : row.revokedAt = none := by simpa using unrevoked
    cases active_disrupted distinct valid hashed found active disrupted with
    | untouched rows early => exact .inl rows
    | consumed revokedAt unexpired rows torn => exact absurd whole (not_or.mpr ⟨Nat.not_le_of_lt unexpired, torn⟩)
    | replaced unexpired rows spared => exact .inr ⟨row, member, presented, rows⟩

theorem Routine.prompt {effect : Effect} (routine : Routine effect) : Prompt effect := by
  cases effect <;> trivial

theorem torn_rotation (distinct : Function.Injective env.sha256Hex) (valid : TableValid state)
    (hashed : RowsHashed env state) (torn : ¬ RotatesWhole failure (env.sha256Hex plaintextToken) state) :
    ∃ ending after,
      Disrupted env failure (fun _ => True) (rotateRefreshToken env plaintextToken metadata) state ending after ∧
      ¬ AllOrNothing (env.sha256Hex plaintextToken) state.refreshTokens after.refreshTokens := by
  have prompt := (rotateRefreshToken_routine env plaintextToken metadata).weaken fun _ routine => routine.prompt
  obtain ⟨ending, after, still⟩ := Disrupted.exists_still failure prompt state
  refine ⟨ending, after, still.weaken fun _ _ good => ⟨trivial, good.2⟩, ?_⟩
  unfold RotatesWhole at torn
  split at torn
  · exact absurd trivial torn
  rename_i row found
  have member := List.mem_of_find?_eq_some found
  split at torn
  · rename_i revoked
    obtain ⟨active, proceeds⟩ := not_or.mp torn
    rcases replay_disrupted found revoked still with ⟨_, stopped⟩ | ⟨_, _, revokedAt, rows⟩
    · exact absurd stopped torn
    · obtain ⟨other, held⟩ := List.exists_mem_of_ne_nil _ active
      obtain ⟨stored, family, unrevoked⟩ : other ∈ state.refreshTokens ∧
          other.sessionFamily = row.sessionFamily ∧ other.revokedAt = none := by simpa [activeInFamily] using held
      exact not_allOrNothing stored unrevoked (by simp [family, unrevoked]) rows
  · rename_i unrevoked
    have active : row.revokedAt = none := by simpa using unrevoked
    obtain ⟨unexpired, fatal⟩ := not_or.mp torn
    cases active_disrupted distinct valid hashed found active still with
    | untouched rows early =>
      rcases early with first | ⟨second, lost⟩ | ⟨now, read, expired⟩
      · exact absurd ⟨by simp [first], by simp [first], by simp [first]⟩ fatal
      · exact absurd ⟨fun _ => lost, by simp [second], by simp [second]⟩ fatal
      · exact absurd (read.still ▸ expired) unexpired
    | consumed revokedAt live rows torn => exact not_allOrNothing member active (by simp) rows
    | replaced live rows spared =>
      rcases spared with spared | ⟨now, read, expired⟩
      · exact absurd spared fatal
      · exact absurd (read.still ▸ expired) unexpired

end Law

/-- Whatever one statement of a rotation fails, the table is left whole if and only if the failure is
    one of those it spares. -/
theorem rotation_all_or_nothing (env : Env) (distinct : Function.Injective env.sha256Hex) (config : HandlerConfig)
    (reachable : HandlersReachable env System.anyStep config) (plaintextToken : String)
    (metadata : RefreshTokenMetadata) (failure : Failure) :
    (∀ ending after,
      Disrupted env failure (fun _ => True) (rotateRefreshToken env plaintextToken metadata) config.state ending after →
      AllOrNothing (env.sha256Hex plaintextToken) config.state.refreshTokens after.refreshTokens) ↔
    RotatesWhole failure (env.sha256Hex plaintextToken) config.state := by
  have valid := (handlers_valid reachable).1
  have hashed := reachable.hashed
  constructor
  · intro always
    by_contra torn
    obtain ⟨ending, after, disrupted, broken⟩ := torn_rotation distinct valid hashed torn
    exact broken (always ending after disrupted)
  · intro whole ending after disrupted
    exact whole_rotation distinct valid hashed whole disrupted

def oneSession : List HandlerLabel := logIn 0 "j0" "f" "t0" "r0"

theorem oneSession_reached : ∃ config row, HandlersReachable sampleEnv System.anyStep config ∧
    config.state.refreshTokens.find? (·.tokenHash = sampleEnv.sha256Hex "t0") = some row ∧
    row.revokedAt = none ∧ config.state.clock < row.expiresAt := by
  have passed : ((handlers sampleEnv).run oneSession (freshGateway 0 [sampleUser "u" "u@example.com"])).any
      (fun config => (config.state.refreshTokens.find? (·.tokenHash = sampleEnv.sha256Hex "t0")).any
        fun row => decide (row.revokedAt = none ∧ config.state.clock < row.expiresAt)) = true := by decide
  obtain ⟨config, reached, checked⟩ := Reaches.of_check passed
  obtain ⟨row, found, live⟩ := Option.any_eq_true _ _ |>.mp checked
  exact ⟨config, row, ⟨_, _, reached⟩, found, of_decide_eq_true live⟩

theorem rotation_survives_late_crash : ∃ config, HandlersReachable sampleEnv System.anyStep config ∧
    ∀ ending after, Disrupted sampleEnv ⟨.insertRefreshToken, true, true⟩ (fun _ => True)
      (rotateRefreshToken sampleEnv "t0" {}) config.state ending after →
      AllOrNothing (sampleEnv.sha256Hex "t0") config.state.refreshTokens after.refreshTokens := by
  obtain ⟨config, row, reachable, found, active, _⟩ := oneSession_reached
  refine ⟨config, reachable, ?_⟩
  apply (rotation_all_or_nothing sampleEnv sampleSha256_injective config reachable "t0" {} _).mpr
  unfold RotatesWhole
  rw [found]
  simp [active, SparesRotation]

theorem rotation_torn_by_lost_insert : ∃ config ending after, HandlersReachable sampleEnv System.anyStep config ∧
    Disrupted sampleEnv ⟨.insertRefreshToken, false, false⟩ (fun _ => True)
      (rotateRefreshToken sampleEnv "t0" {}) config.state ending after ∧
    ¬ AllOrNothing (sampleEnv.sha256Hex "t0") config.state.refreshTokens after.refreshTokens := by
  obtain ⟨config, row, reachable, found, active, live⟩ := oneSession_reached
  have torn : ¬ RotatesWhole ⟨.insertRefreshToken, false, false⟩ (sampleEnv.sha256Hex "t0") config.state := by
    unfold RotatesWhole
    rw [found]
    simp [active, SparesRotation, Nat.not_le_of_lt live]
  obtain ⟨ending, after, disrupted, broken⟩ :=
    torn_rotation sampleSha256_injective (handlers_valid reachable).1 reachable.hashed torn
  exact ⟨config, ending, after, reachable, disrupted, broken⟩

end GatewayProof
