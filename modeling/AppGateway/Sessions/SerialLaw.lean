import AppGateway.Sessions.Calls
import AppGateway.Sessions.Refinement
import Mathlib.Data.Set.Finite.Basic

namespace GatewayProof

open Async GatewayModel
open Async.Program (Completes completes_done completes_perform)

theorem exists_fresh {hash : String → String} (distinct : Function.Injective hash)
    (used hashes : List String) : ∃ plaintext, plaintext ∉ used ∧ hash plaintext ∉ hashes := by
  have taken : {plaintext | plaintext ∈ used ∨ hash plaintext ∈ hashes}.Finite :=
    (List.finite_toSet used).union ((List.finite_toSet hashes).preimage distinct.injOn)
  obtain ⟨plaintext, fresh⟩ := taken.infinite_compl.nonempty
  simp only [Set.mem_compl_iff, Set.mem_ofPred_eq, not_or] at fresh
  exact ⟨plaintext, fresh⟩

section Progress

variable {env : Env}

theorem perform_alone {effect : Effect} {before after : GatewayState} {outcome : Except Thrown effect.Reply}
    (choice : Choice) (good : choice.fault = .none)
    (responded : respond env choice before effect = some (outcome, after)) :
    Alone env (Gateway.perform effect) before outcome after := by
  refine completes_perform.mpr ⟨choice, good, ?_⟩
  unfold exec
  rw [good]
  exact responded

theorem cacheRefreshTokenRevocation_resolves (env : Env) (tokenHash : String) (expiresAt : Nat)
    (before : GatewayState) :
    ∃ after, Alone env (cacheRefreshTokenRevocation tokenHash expiresAt) before (.ok ()) after := by
  have read : Alone env (ttlSecondsUntil expiresAt) before (.ok (ttlSeconds expiresAt before.clock)) before :=
    (perform_alone {} rfl rfl).bind (.done _ _)
  by_cases past : ttlSeconds expiresAt before.clock = 0
  · refine ⟨before, read.bind ?_⟩
    rw [if_pos past]
    exact .done _ _
  · have write : Alone env
        (Gateway.redisSet (.revokedRefresh tokenHash) .flag (ttlSeconds expiresAt before.clock)) before
        (.ok ()) _ := perform_alone {} rfl rfl
    have branch : (if ttlSeconds expiresAt before.clock = 0 then pure () else
        Gateway.redisSet (.revokedRefresh tokenHash) .flag (ttlSeconds expiresAt before.clock)) =
      Gateway.redisSet (.revokedRefresh tokenHash) .flag (ttlSeconds expiresAt before.clock) := if_neg past
    rw [← branch] at write
    exact ⟨_, read.bind write⟩

theorem writeAuditEvent_resolves (env : Env) (entry : AuditLogEntry) (before : GatewayState) :
    ∃ after, Alone env (writeAuditEvent entry) before (.ok ()) after :=
  ⟨_, (perform_alone {} rfl rfl : Alone env (Gateway.insertAuditLog entry) before _ _).handle⟩

theorem revokeSessionFamily_resolves (env : Env) (sessionFamily reason : String) (before : GatewayState) :
    ∃ after, Alone env (revokeSessionFamily sessionFamily reason) before (.ok ()) after := by
  have select : Alone env (Gateway.selectActiveByFamily sessionFamily) before
      (.ok (activeInFamily before.refreshTokens sessionFamily)) before := perform_alone {} rfl rfl
  by_cases empty : (activeInFamily before.refreshTokens sessionFamily).isEmpty = true
  · refine ⟨before, select.bind ?_⟩
    rw [if_pos empty]
    exact .done _ _
  have read : Alone env Gateway.dateNow before (.ok before.clock) before := perform_alone {} rfl rfl
  have update : Alone env (Gateway.updateRevokedByFamily sessionFamily before.clock reason) before (.ok ()) _ :=
    perform_alone {} rfl rfl
  obtain ⟨after, mirrors⟩ : ∃ after, Alone env (Program.all
      ((activeInFamily before.refreshTokens sessionFamily).map fun row =>
        cacheRefreshTokenRevocation row.tokenHash row.expiresAt)) _ (.ok ()) after := by
    refine Completes.all ?_ (before.updateRevoked
      (fun row => row.sessionFamily = sessionFamily ∧ row.revokedAt = none) before.clock reason)
    intro program member start
    obtain ⟨row, _, rfl⟩ := List.mem_map.mp member
    exact cacheRefreshTokenRevocation_resolves env _ _ start
  refine ⟨after, select.bind ?_⟩
  rw [if_neg empty]
  exact read.bind (update.bind mirrors)

theorem randomString_resolves {before : GatewayState} {value : String} (fresh : value ∉ before.drawn) :
    Alone env Gateway.randomString before (.ok value) { before with drawn := value :: before.drawn } :=
  perform_alone { random := value } rfl (by simp [respond, fresh])

theorem insertRefreshToken_resolves {before : GatewayState} {values : NewRefreshToken} {id : String}
    (fresh : id ∉ before.drawn) (user : ∃ user ∈ before.users, user.id = values.userId)
    (unused : values.tokenHash ∉ before.refreshTokens.map (·.tokenHash)) :
    ∃ after, Alone env (Gateway.insertRefreshToken values) before (.ok ()) after := by
  have known : before.users.any (·.id = values.userId) = true := by simpa using user
  have unique : ¬ before.refreshTokens.any (·.tokenHash = values.tokenHash) = true := by simpa using unused
  have inserted : before.insert values id = (.ok (), { before with
      refreshTokens := before.refreshTokens ++ [values.row id before.clock]
      drawn := id :: before.drawn }) := by
    unfold GatewayState.insert
    rw [if_pos known, if_neg unique]
  have responded : respond env { random := id } before (.insertRefreshToken values) =
      some (before.insert values id) := if_neg fresh
  rw [inserted] at responded
  exact ⟨_, perform_alone { random := id } rfl responded⟩

theorem issueRefreshToken_resolves (distinct : Function.Injective env.sha256Hex) {userId : String}
    (metadata : RefreshTokenMetadata) (sessionFamily : String) {before : GatewayState}
    (user : ∃ user ∈ before.users, user.id = userId) :
    ∃ issued after,
      Alone env (issueRefreshToken env userId metadata (some sessionFamily)) before (.ok issued) after := by
  obtain ⟨plaintext, fresh, unused⟩ :=
    exists_fresh distinct before.drawn (before.refreshTokens.map (·.tokenHash))
  obtain ⟨id, new, _⟩ := exists_fresh distinct (plaintext :: before.drawn) []
  have draw : Alone env Gateway.randomString before (.ok plaintext) _ := randomString_resolves fresh
  have expiry : Alone env (secondsFromNow env.refreshTokenTtlSeconds)
      { before with drawn := plaintext :: before.drawn } (.ok _) _ :=
    (perform_alone {} rfl rfl).bind (.done _ _)
  obtain ⟨after, insert⟩ : ∃ after, Alone env (Gateway.insertRefreshToken
      { userId, tokenHash := hashRefreshToken env plaintext, sessionFamily, clientId := metadata.clientId
        ipAddress := metadata.ipAddress, userAgent := metadata.userAgent
        expiresAt := before.clock + env.refreshTokenTtlSeconds * 1000 })
      { before with drawn := plaintext :: before.drawn } (.ok ()) after :=
    insertRefreshToken_resolves new user unused
  exact ⟨_, after, Completes.bind (.done (.ok sessionFamily) before)
    (draw.bind (expiry.bind (insert.bind (.done _ _))))⟩

theorem rotateRefreshToken_resolves (distinct : Function.Injective env.sha256Hex) (plaintextToken : String)
    (metadata : RefreshTokenMetadata) {before : GatewayState} (valid : TableValid before) :
    ∃ answer after,
      Alone env (rotateRefreshToken env plaintextToken metadata) before (.ok answer) after := by
  have select : Alone env (Gateway.selectRefreshTokenByHash (hashRefreshToken env plaintextToken)) before
      (.ok (before.refreshTokens.find? (·.tokenHash = hashRefreshToken env plaintextToken))) before :=
    perform_alone {} rfl rfl
  have read : Alone env Gateway.dateNow before (.ok before.clock) before := perform_alone {} rfl rfl
  cases found : before.refreshTokens.find? (·.tokenHash = hashRefreshToken env plaintextToken) with
  | none =>
    rw [found] at select
    exact ⟨_, before, select.bind (.done _ _)⟩
  | some row =>
    rw [found] at select
    by_cases revoked : row.revokedAt.isSome = true
    · obtain ⟨middle, close⟩ := revokeSessionFamily_resolves env row.sessionFamily "reuse_detected" before
      obtain ⟨after, audit⟩ := writeAuditEvent_resolves env
        { event_type := "auth.token_refresh_failed", user_id := row.userId, outcome := .denied
          failure_reason := "token_reuse_detected", metadata := [("session_family", row.sessionFamily)] } middle
      refine ⟨.error tokenReuseDetectedError, after, select.bind ?_⟩
      simp only [revoked, if_true]
      exact close.bind (audit.bind (.done _ _))
    by_cases late : row.expiresAt ≤ before.clock
    · refine ⟨.error (unauthorizedError "Refresh token has expired"), before, select.bind ?_⟩
      simp only [revoked]
      refine read.bind ?_
      rw [if_pos late]
      exact .done _ _
    have update : Alone env (Gateway.updateRevokedById row.id before.clock "rotation") before (.ok ()) _ :=
      perform_alone {} rfl rfl
    obtain ⟨middle, mirror⟩ := cacheRefreshTokenRevocation_resolves env
      (hashRefreshToken env plaintextToken) row.expiresAt
      (before.updateRevoked (·.id = row.id) before.clock "rotation")
    have untouched := cacheRefreshTokenRevocation_alone mirror
    have user : ∃ user ∈ middle.users, user.id = row.userId :=
      user_of_ids untouched.steady.users (valid.users row (List.mem_of_find?_eq_some found))
    obtain ⟨issued, after, issue⟩ := issueRefreshToken_resolves distinct metadata row.sessionFamily user
    refine ⟨.ok ⟨row.userId, issued⟩, after, select.bind ?_⟩
    simp only [revoked]
    refine read.bind ?_
    rw [if_neg late]
    exact read.bind (update.bind (mirror.bind (issue.bind (.done _ _))))

end Progress

def Newest (state : GatewayState) (row : RefreshTokenRow) : Prop :=
  (familyRows state.refreshTokens row.sessionFamily).getLast? = some row

/-- What holds of the table between calls, and of the next call. -/
structure SerialLaw (env : Env) (state : GatewayState) : Prop where
  current : ∀ sessionFamily, ∀ row ∈ (familyRows state.refreshTokens sessionFamily).dropLast,
    row.revokedAt.isSome
  answers : ∀ plaintextToken, ∃ answer after, SerialStep env state (.rotate plaintextToken answer) after
  ok : ∀ plaintextToken answer after, SerialStep env state (.rotate plaintextToken answer) after →
    ((∃ result, answer = .ok result) ↔ ∃ row, Newest state row ∧ row.revokedAt = none ∧
      row.tokenHash = env.sha256Hex plaintextToken ∧ state.clock < row.expiresAt)
  appends : ∀ plaintextToken result after, SerialStep env state (.rotate plaintextToken (.ok result)) after →
    ∃ row new, row ∈ state.refreshTokens ∧ row.tokenHash = env.sha256Hex plaintextToken ∧
      after.refreshTokens = setRevoked state.refreshTokens (·.id = row.id) state.clock "rotation" ++ [new] ∧
      new.userId = row.userId ∧ new.sessionFamily = row.sessionFamily
  reuse : ∀ plaintextToken answer after, SerialStep env state (.rotate plaintextToken answer) after →
    (answer = .error tokenReuseDetectedError ↔ ∃ row ∈ state.refreshTokens,
      row.tokenHash = env.sha256Hex plaintextToken ∧ row.revokedAt.isSome)
  closes : ∀ plaintextToken after row acts later,
    SerialStep env state (.rotate plaintextToken (.error tokenReuseDetectedError)) after →
    row ∈ state.refreshTokens → row.tokenHash = env.sha256Hex plaintextToken →
    (serialSessions env).Runs after acts later →
    ∀ other ∈ familyRows later.refreshTokens row.sessionFamily, other.revokedAt.isSome
  refuses : ∀ plaintextToken answer after, SerialStep env state (.rotate plaintextToken answer) after →
    (∀ row ∈ state.refreshTokens, row.tokenHash ≠ env.sha256Hex plaintextToken) ∨
      (∃ row ∈ state.refreshTokens, row.tokenHash = env.sha256Hex plaintextToken ∧ row.revokedAt = none ∧
        row.expiresAt ≤ state.clock) →
    (∃ message, answer = .error (unauthorizedError message)) ∧ after.refreshTokens = state.refreshTokens

section Law

variable {env : Env} {state after : GatewayState} {automaton : SessionAutomaton}

theorem rotate_step {plaintextToken : String} {answer : Except AppError RotationResult}
    (step : SerialStep env state (.rotate plaintextToken answer) after) :
    Rotation env plaintextToken state answer after := by
  cases step with
  | rotate _ metadata _ ran => exact rotateRefreshToken_alone ran

theorem FamilyOrdered.getLast? {rows : List RefreshTokenRow} (ordered : FamilyOrdered rows)
    {row : RefreshTokenRow} (member : row ∈ rows) (active : row.revokedAt = none) :
    rows.getLast? = some row := by
  rw [← ordered.newest member active]
  simp

theorem rotation_ok (table : TableOrdered state) {plaintextToken : String}
    {answer : Except AppError RotationResult} (rotation : Rotation env plaintextToken state answer after) :
    (∃ result, answer = .ok result) ↔ ∃ row, Newest state row ∧ row.revokedAt = none ∧
      row.tokenHash = env.sha256Hex plaintextToken ∧ state.clock < row.expiresAt := by
  constructor
  · rintro ⟨result, rfl⟩
    cases rotation with
    | rotated row _ middle member presented active unexpired user steady rows made =>
      have held := mem_familyRows.mpr ⟨member, rfl⟩
      exact ⟨row, (table.ordered row.sessionFamily).getLast? held active, active, presented, unexpired⟩
  · rintro ⟨row, newest, active, presented, unexpired⟩
    have member := (mem_familyRows.mp (List.mem_of_getLast? newest)).1
    cases rotation with
    | unknown unknown untouched => exact absurd presented (unknown row member)
    | reused other member' presented' revoked steady rows =>
      obtain rfl := table.valid.same_hash member member' (presented.trans presented'.symm)
      rw [active] at revoked
      cases revoked
    | expired other member' presented' active' late untouched =>
      obtain rfl := table.valid.same_hash member member' (presented.trans presented'.symm)
      exact absurd unexpired (Nat.not_lt.mpr late)
    | rotated _ result => exact ⟨result, rfl⟩

theorem unauthorized_ne_reuse (message : String) : unauthorizedError message ≠ tokenReuseDetectedError := by
  intro same
  have code : "unauthorized" = "token_reuse_detected" := congrArg AppError.code same
  exact absurd code (by decide)

theorem rotation_reuse (table : TableOrdered state) {plaintextToken : String}
    {answer : Except AppError RotationResult} (rotation : Rotation env plaintextToken state answer after) :
    answer = .error tokenReuseDetectedError ↔ ∃ row ∈ state.refreshTokens,
      row.tokenHash = env.sha256Hex plaintextToken ∧ row.revokedAt.isSome := by
  constructor
  · intro same
    cases rotation with
    | unknown => exact absurd (Except.error.inj same) (unauthorized_ne_reuse _)
    | reused row member presented revoked => exact ⟨row, member, presented, revoked⟩
    | expired => exact absurd (Except.error.inj same) (unauthorized_ne_reuse _)
    | rotated => cases same
  · rintro ⟨row, member, presented, revoked⟩
    have active_not : ∀ other ∈ state.refreshTokens, other.tokenHash = env.sha256Hex plaintextToken →
        other.revokedAt ≠ none := by
      intro other member' presented' active
      obtain rfl := table.valid.same_hash member member' (presented.trans presented'.symm)
      rw [active] at revoked
      cases revoked
    cases rotation with
    | unknown unknown untouched => exact absurd presented (unknown row member)
    | reused => rfl
    | expired other member' presented' active' => exact absurd active' (active_not other member' presented')
    | rotated other _ _ member' presented' active' => exact absurd active' (active_not other member' presented')

theorem rotation_refuses (table : TableOrdered state) {plaintextToken : String}
    {answer : Except AppError RotationResult} (rotation : Rotation env plaintextToken state answer after)
    (refused : (∀ row ∈ state.refreshTokens, row.tokenHash ≠ env.sha256Hex plaintextToken) ∨
      ∃ row ∈ state.refreshTokens, row.tokenHash = env.sha256Hex plaintextToken ∧ row.revokedAt = none ∧
        row.expiresAt ≤ state.clock) :
    (∃ message, answer = .error (unauthorizedError message)) ∧ after.refreshTokens = state.refreshTokens := by
  cases rotation with
  | unknown unknown untouched => exact ⟨⟨_, rfl⟩, untouched.rows⟩
  | expired other member' presented' active' late untouched => exact ⟨⟨_, rfl⟩, untouched.rows⟩
  | reused other member' presented' revoked =>
    rcases refused with unknown | ⟨row, member, presented, active, _⟩
    · exact absurd presented' (unknown other member')
    · obtain rfl := table.valid.same_hash member member' (presented.trans presented'.symm)
      rw [active] at revoked
      cases revoked
  | rotated other _ _ member' presented' _ unexpired =>
    rcases refused with unknown | ⟨row, member, presented, _, late⟩
    · exact absurd presented' (unknown other member')
    · obtain rfl := table.valid.same_hash member member' (presented.trans presented'.symm)
      exact absurd unexpired (Nat.not_lt.mpr late)

theorem reuse_closes (refines : Refines state automaton) {plaintextToken : String}
    (step : SerialStep env state (.rotate plaintextToken (.error tokenReuseDetectedError)) after)
    {row : RefreshTokenRow} (member : row ∈ state.refreshTokens)
    (presented : row.tokenHash = env.sha256Hex plaintextToken) {acts : List SessionAct}
    {later : GatewayState} (runs : (serialSessions env).Runs after acts later) :
    ∀ other ∈ familyRows later.refreshTokens row.sessionFamily, other.revokedAt.isSome := by
  have table := refines.table
  obtain ⟨middle, _, refined⟩ := serial_step_refines refines step
  obtain ⟨last, ran, final⟩ := (serial_simulation env).runs refined runs
  have rotation := rotate_step step
  obtain ⟨revoked, member', presented', gone⟩ := (rotation_reuse table rotation).mp rfl
  obtain rfl := table.valid.same_hash member member' (presented.trans presented'.symm)
  obtain ⟨session, _, _, found⟩ := refines.stale member gone
  have closed : ∃ session, middle.sessions row.sessionFamily = some session ∧ session.closed = true := by
    refine ⟨session.close, ?_, rfl⟩
    generalize same : (Except.error tokenReuseDetectedError : Except AppError RotationResult) = answer at rotation
    cases rotation with
    | reused other held shown _ steady rows =>
      obtain rfl := table.valid.same_hash member held (presented.trans shown.symm)
      have closing := revokeFamily_closing state.refreshTokens row.sessionFamily state.clock "reuse_detected"
      rw [← rows] at closing
      rw [refined.sessions, closing.sessions found]
      exact if_pos rfl
    | unknown => exact absurd (Except.error.inj same).symm (unauthorized_ne_reuse _)
    | expired => exact absurd (Except.error.inj same).symm (unauthorized_ne_reuse _)
    | rotated => cases same
  obtain ⟨final', held, shut⟩ := closed_runs ran closed
  rw [final.sessions] at held
  have stands := sessionOf_eq_some held
  rw [stands.closed] at shut
  exact List.all_eq_true.mp shut

theorem Refines.law (distinct : Function.Injective env.sha256Hex) (refines : Refines state automaton) :
    SerialLaw env state where
  current := fun sessionFamily => (refines.table.ordered sessionFamily).older
  answers := by
    intro plaintextToken
    obtain ⟨answer, after, ran⟩ := rotateRefreshToken_resolves distinct plaintextToken {} refines.table.valid
    exact ⟨answer, after, .rotate plaintextToken {} answer ran⟩
  ok := fun _ _ _ step => rotation_ok refines.table (rotate_step step)
  appends := by
    intro plaintextToken result after step
    cases rotate_step step with
    | rotated row _ middle member presented active unexpired user steady rows made =>
      obtain ⟨new, appended, owner, family, _⟩ := made.rows
      exact ⟨row, new, member, presented, rows ▸ appended, owner, family⟩
  reuse := fun _ _ _ step => rotation_reuse refines.table (rotate_step step)
  closes := fun _ _ _ _ _ step member presented runs => reuse_closes refines step member presented runs
  refuses := fun _ _ _ step refused => rotation_refuses refines.table (rotate_step step) refused

end Law

/-- Calls that run one at a time refine the session automaton, and obey its law after every history. -/
theorem refresh_tokens_refine_automaton (env : Env) (distinct : Function.Injective env.sha256Hex)
    (first state : GatewayState) (acts : List SessionAct) (start : (serialSessions env).start first)
    (runs : (serialSessions env).Runs first acts state) :
    SerialLaw env state ∧ ∃ initial automaton, (sessionAutomaton env.sha256Hex).start initial ∧
      (sessionAutomaton env.sha256Hex).Runs initial acts automaton ∧ Refines state automaton := by
  obtain ⟨initial, automaton, begins, ran, refines⟩ := (serial_simulation env).histories start runs
  exact ⟨refines.law distinct, initial, automaton, begins, ran, refines⟩

theorem serial_step_reaches {env : Env} {config : SessionConfig} {act : SessionAct} {after : GatewayState}
    (step : SerialStep env config.state act after) :
    ∃ later, System.Reaches (sessions env) System.anyStep config later ∧ later.state = after := by
  have called : ∀ (call : SessionCall) (result : SessionResult),
      Alone env (call.code env) config.state (.ok result) after →
      ∃ later, System.Reaches (sessions env) System.anyStep config later ∧ later.state = after := by
    intro call result ran
    have completes : Completes (sessions env).exec (fun choice => choice.fault = .none)
        ((sessions env).code call) config.state (.ok result) after := ran
    have performs : ∀ op choice before reply after, (sessions env).exec op choice before = some (reply, after) →
        ∃ events choice', (sessions env).exec op choice' ((sessions env).externals events before) =
          some (reply, after) := fun _ choice _ _ _ executed => ⟨[], choice, executed⟩
    obtain ⟨thread, reached, _⟩ := System.Reaches.of_completes performs completes
    exact ⟨_, reached, rfl⟩
  cases step with
  | login userId metadata issued ran => exact called (.issue userId metadata) _ (ran.bind (.done _ _))
  | rotate plaintextToken metadata answer ran =>
    exact called (.rotate plaintextToken metadata) _ (ran.bind (.done _ _))
  | revokeByHash tokenHash reason ran => exact called (.revokeByHash tokenHash reason) _ (ran.bind (.done _ _))
  | revokeMostRecent userId reason ran =>
    exact called (.revokeMostRecent userId reason) _ (ran.bind (.done _ _))
  | elapse ms =>
    have moved : (sessions env).next config (.external (.elapse ms)) =
        some { config with state := external (.elapse ms) config.state } := rfl
    exact ⟨_, System.Reaches.refl.step trivial moved, rfl⟩

theorem serial_runs_reach {env : Env} {config : SessionConfig} {acts : List SessionAct} {state : GatewayState}
    (runs : (serialSessions env).Runs config.state acts state) :
    ∃ later, System.Reaches (sessions env) System.anyStep config later ∧ later.state = state := by
  induction runs with
  | refl => exact ⟨config, .refl, rfl⟩
  | snoc _ moved ih =>
    obtain ⟨middle, reached, same⟩ := ih
    obtain ⟨later, onward, equal⟩ := serial_step_reaches (same.symm ▸ moved)
    exact ⟨later, reached.trans onward, equal⟩

def freshState : GatewayState := (freshGateway 0 [sampleUser "u" "u@example.com"] : SessionConfig).state

theorem alone_of_check {env : Env} {α : Type} {choices : List Choice} {program : Gateway α}
    {before : GatewayState} {check : Except Thrown α × GatewayState → Bool}
    (passed : (Program.evaluate (exec env) choices program before).any check = true)
    (good : ∀ choice ∈ choices, choice.fault = .none) :
    ∃ outcome after, Alone env program before outcome after ∧ check (outcome, after) = true :=
  Completes.of_check good passed

def answersOk : Except Thrown (Except AppError RotationResult) → Bool
  | .ok (.ok _) => true
  | _ => false

def answersReuse : Except Thrown (Except AppError RotationResult) → Bool
  | .ok (.error error) => error = tokenReuseDetectedError
  | _ => false

theorem isOk_cases {α : Type} {outcome : Except Thrown α} (ok : outcome.isOk = true) : ∃ value,
    outcome = .ok value := by
  cases outcome with
  | ok value => exact ⟨value, rfl⟩
  | error thrown => cases ok

theorem answersOk_cases {outcome : Except Thrown (Except AppError RotationResult)} (ok : answersOk outcome = true) :
    ∃ result, outcome = .ok (.ok result) := by
  unfold answersOk at ok
  split at ok
  · exact ⟨_, rfl⟩
  · cases ok

theorem answersReuse_cases {outcome : Except Thrown (Except AppError RotationResult)}
    (reused : answersReuse outcome = true) : outcome = .ok (.error tokenReuseDetectedError) := by
  unfold answersReuse at reused
  split at reused
  · rw [of_decide_eq_true reused]
  · cases reused

theorem replay_serial_law : ∃ issued result state,
    (serialSessions sampleEnv).Runs freshState [.login "u" issued, .rotate "t0" (.ok result),
      .rotate "t0" (.error tokenReuseDetectedError)] state ∧ SerialLaw sampleEnv state := by
  have passed : (Program.evaluate (exec sampleEnv) [drawing "f", drawing "t0", {}, drawing "r0"]
      (issueRefreshToken sampleEnv "u" {} none) freshState).any (fun issued => issued.1.isOk &&
        (Program.evaluate (exec sampleEnv) [{}, {}, {}, {}, {}, {}, drawing "t1", {}, drawing "r1"]
          (rotateRefreshToken sampleEnv "t0" {}) issued.2).any fun rotated => answersOk rotated.1 &&
            (Program.evaluate (exec sampleEnv) [{}, {}, {}, {}, {}, {}, {}]
              (rotateRefreshToken sampleEnv "t0" {}) rotated.2).any fun replayed =>
                answersReuse replayed.1) = true := by decide +kernel
  obtain ⟨answer, first, login, passed⟩ := alone_of_check passed (by decide)
  rw [Bool.and_eq_true] at passed
  obtain ⟨second, third, rotate, passed'⟩ := alone_of_check passed.2 (by decide)
  rw [Bool.and_eq_true] at passed'
  obtain ⟨last, state, replay, checked⟩ := alone_of_check passed'.2 (by decide)
  obtain ⟨issued, rfl⟩ := isOk_cases passed.1
  obtain ⟨result, rfl⟩ := answersOk_cases passed'.1
  obtain rfl := answersReuse_cases checked
  have one : (serialSessions sampleEnv).step freshState _ first := SerialStep.login "u" {} issued login
  have two : (serialSessions sampleEnv).step first _ third := SerialStep.rotate "t0" {} (.ok result) rotate
  have three : (serialSessions sampleEnv).step third _ state := SerialStep.rotate "t0" {} _ replay
  have runs : (serialSessions sampleEnv).Runs freshState [.login "u" issued, .rotate "t0" (.ok result),
      .rotate "t0" (.error tokenReuseDetectedError)] state :=
    ((Refinement.Machine.Runs.refl.snoc one).snoc two).snoc three
  exact ⟨issued, result, state, runs, (refresh_tokens_refine_automaton sampleEnv sampleSha256_injective
    freshState state _ rfl runs).1⟩

end GatewayProof
