import AppGateway.Sessions.Lineage
import AppGateway.Sessions.SingleUse

namespace GatewayProof

open Async GatewayModel
open Async.System (Reaches advance_cases next_threads next_cases)

def Issues (call : SessionCall) : Prop := ∃ userId metadata, call = .issue userId metadata

def TokenOf (env : Env) (config : SessionConfig) (token sessionFamily : String) : Prop :=
  ∃ row ∈ config.state.refreshTokens, row.tokenHash = env.sha256Hex token ∧
    row.sessionFamily = sessionFamily

def AnsweredReuse (thread : SessionThread) : Prop :=
  ∃ error, thread.answered (.ok (.rotated (.error error))) ∧ error.code = "token_reuse_detected"

def ReuseDetected (env : Env) (config : SessionConfig) (sessionFamily : String) : Prop :=
  ∃ thread ∈ config.threads, ∃ token, Rotates token thread ∧ AnsweredReuse thread ∧
    TokenOf env config token sessionFamily

def ReadActive (thread : SessionThread) (sessionFamily : String) : Prop :=
  ∃ tokenHash row, Selected thread.past tokenHash row ∧ row.sessionFamily = sessionFamily ∧
    row.revokedAt = none

def Closes (config : SessionConfig) (thread : SessionThread) (sessionFamily : String) : Prop :=
  (∃ revokedAt reason, thread.program.pending =
      some (.updateRevokedByFamily sessionFamily revokedAt reason)) ∨
    (thread.program.pending = some (.selectActiveByFamily sessionFamily) ∧
      activeInFamily config.state.refreshTokens sessionFamily = [])

/-- A rotation closes the family only when no other rotation that runs has read an active row of it. -/
def ClosesQuietly (sessionFamily : String) (config : SessionConfig) (label : SessionLabel) : Prop :=
  ∀ index choice thread token, label = .step index choice →
    config.threads[index]? = some thread → Rotates token thread → Closes config thread sessionFamily →
    ∀ other two token', config.threads[other]? = some two → other ≠ index → two.running = true →
      Rotates token' two → ¬ ReadActive two sessionFamily

structure FamilyClosed (config : SessionConfig) (sessionFamily : String) : Prop where
  rows : ∀ row ∈ config.state.refreshTokens, row.sessionFamily = sessionFamily → row.revokedAt.isSome
  readers : ∀ thread ∈ config.threads, ∀ token, Rotates token thread → thread.running = true →
    ¬ ReadActive thread sessionFamily
  known : ∃ row ∈ config.state.refreshTokens, row.sessionFamily = sessionFamily

def ClosingsFinal (sessionFamily : String) (config : SessionConfig) : Prop :=
  ∀ thread ∈ config.threads, ∀ token, Rotates token thread →
    Closed thread.past sessionFamily → FamilyClosed config sessionFamily

theorem selected_snoc {past : List SessionEvent} {effect : Effect} {reply : Except Thrown effect.Reply}
    {tokenHash : String} {row : RefreshTokenRow} (selected : Selected (past ++ [⟨effect, reply⟩]) tokenHash row) :
    Selected past tokenHash row ∨
      (⟨effect, reply⟩ : SessionEvent) = ⟨.selectRefreshTokenByHash tokenHash, .ok (some row)⟩ := by
  rcases List.mem_append.mp selected with earlier | now
  · exact .inl earlier
  · exact .inr (List.mem_singleton.mp now).symm

theorem closed_snoc {past : List SessionEvent} {effect : Effect} {reply : Except Thrown effect.Reply}
    {sessionFamily : String} (closed : Closed (past ++ [⟨effect, reply⟩]) sessionFamily) :
    Closed past sessionFamily ∨
      (⟨effect, reply⟩ : SessionEvent) = ⟨.selectActiveByFamily sessionFamily, .ok []⟩ ∨
      ∃ revokedAt, (⟨effect, reply⟩ : SessionEvent) =
        ⟨.updateRevokedByFamily sessionFamily revokedAt "reuse_detected", .ok ()⟩ := by
  rcases closed with member | ⟨revokedAt, member⟩
  · rcases List.mem_append.mp member with earlier | now
    · exact .inl (.inl earlier)
    · exact .inr (.inl (List.mem_singleton.mp now).symm)
  · rcases List.mem_append.mp member with earlier | now
    · exact .inl (.inr ⟨revokedAt, earlier⟩)
    · exact .inr (.inr ⟨revokedAt, (List.mem_singleton.mp now).symm⟩)

theorem closing_revokes {env : Env} {choice : Choice} {before after : GatewayState} {effect : Effect}
    {reply : Except Thrown effect.Reply} {sessionFamily : String}
    (executed : exec env effect choice before = some (reply, after))
    (closing : (⟨effect, reply⟩ : SessionEvent) = ⟨.selectActiveByFamily sessionFamily, .ok []⟩ ∨
      ∃ revokedAt, (⟨effect, reply⟩ : SessionEvent) =
        ⟨.updateRevokedByFamily sessionFamily revokedAt "reuse_detected", .ok ()⟩) :
    ∀ row ∈ after.refreshTokens, row.sessionFamily = sessionFamily → row.revokedAt.isSome := by
  intro row member family
  rcases closing with same | ⟨revokedAt, same⟩
  · cases same
    have responded := exec_ok executed
    simp only [respond, Option.some.injEq, Prod.mk.injEq, Except.ok.injEq] at responded
    obtain ⟨none_active, rfl⟩ := responded
    have inactive := List.filter_eq_nil_iff.mp none_active row member
    rw [Option.isSome_iff_ne_none]
    intro active
    exact inactive (by simp [family, active])
  · cases same
    cases exec_ok executed
    obtain ⟨old, _, rfl⟩ := mem_setRevoked.mp member
    split
    · rfl
    · rename_i skipped
      rw [if_neg skipped] at family
      rw [Option.isSome_iff_ne_none]
      intro active
      exact skipped (by simp [family, active])

theorem ReadActive.not_start {env : Env} {call : SessionCall} {sessionFamily : String} :
    ¬ ReadActive (Thread.start (sessions env) call) sessionFamily := by
  rintro ⟨tokenHash, row, selected, _⟩
  simp [Selected, Thread.start] at selected

theorem readActive_next {env : Env} {config after : SessionConfig} {label : SessionLabel}
    (moved : (sessions env).next config label = some after) {index : Nat} {thread : SessionThread}
    (found : after.threads[index]? = some thread) {sessionFamily : String}
    (read : ReadActive thread sessionFamily) :
    (∃ old, config.threads[index]? = some old ∧ old.call = thread.call ∧ ReadActive old sessionFamily ∧
      (thread.running = true → old.running = true)) ∨
    ∃ row ∈ config.state.refreshTokens, row.sessionFamily = sessionFamily ∧ row.revokedAt = none := by
  rcases next_threads moved found with kept | ⟨call, _, _, rfl⟩ | ⟨choice, old, rfl, there, advanced⟩ |
    ⟨old, _, there, rfl⟩
  · exact .inl ⟨thread, kept, rfl, read, fun running => running⟩
  · exact (ReadActive.not_start read).elim
  · obtain ⟨effect, resume, reply, alive, program, executed, rfl⟩ := advance_cases advanced
    obtain ⟨tokenHash, row, selected, family, active⟩ := read
    rcases selected_snoc selected with earlier | same
    · exact .inl ⟨old, there, rfl, ⟨tokenHash, row, earlier, family, active⟩,
        fun _ => by simp [Thread.running, Program.running, alive, program]⟩
    · cases same
      exact .inr ⟨row, (select_by_hash_some executed).1, family, active⟩
  · exact .inl ⟨old, there, rfl, read, fun running => by simp [Thread.running] at running⟩

theorem FamilyClosed.next {env : Env} {config after : SessionConfig} {label : SessionLabel}
    {sessionFamily : String} (closed : FamilyClosed config sessionFamily)
    (valid : SessionsValid env config) (lineage : Lineage Issues config)
    (moved : (sessions env).next config label = some after) : FamilyClosed after sessionFamily where
  rows := by
    intro row member family
    rcases row_next moved member with ⟨old, stored, later⟩ |
      ⟨index, choice, thread, later, values, id, resume, _, found, alive, program, _, _, _, _, rfl⟩
    · exact later.revoked (closed.rows old stored (later.sessionFamily ▸ family))
    · have member := List.mem_of_getElem? found
      have permit := (valid.2 thread member).1.permitted program
      have running : thread.running = true := by simp [Thread.running, Program.running, alive, program]
      cases call : thread.call with
      | rotate token metadata =>
        rw [call] at permit
        obtain ⟨_, read, selected, active, _, _, same⟩ := permit
        exact (closed.readers thread member token ⟨metadata, call⟩ running
          ⟨_, read, selected, same.symm.trans family, active⟩).elim
      | issue userId metadata =>
        rw [call] at permit
        obtain ⟨unsent, drew⟩ := permit
        obtain ⟨known, stored, same⟩ := closed.known
        obtain ⟨founder, first, values', found', _, sent, drew', family', _⟩ := lineage.founded known stored
        have named : values'.sessionFamily = values.sessionFamily :=
          family'.trans (same.trans family.symm)
        rw [named] at drew'
        obtain rfl : founder = index := lineage.draws.apart _ _ _ _ _ found' found drew' drew
        obtain rfl := Option.some.inj (found'.symm.trans found)
        exact (unsent values' sent).elim
      | revokeFamily family' reason => rw [call] at permit; exact permit.elim
      | revokeByHash tokenHash reason => rw [call] at permit; exact permit.elim
      | revokeMostRecent userId reason => rw [call] at permit; exact permit.elim
  readers := by
    rintro thread member token ⟨metadata, call⟩ running read
    obtain ⟨index, found⟩ := List.getElem?_of_mem member
    rcases readActive_next moved found read with ⟨old, there, same, earlier, ran⟩ |
      ⟨row, stored, family, active⟩
    · exact closed.readers old (List.mem_of_getElem? there) token ⟨metadata, same.trans call⟩
        (ran running) earlier
    · have revoked := closed.rows row stored family
      rw [active] at revoked
      cases revoked
  known := by
    obtain ⟨row, stored, family⟩ := closed.known
    obtain ⟨later, member, version⟩ := (processes_grow moved).rows row stored
    exact ⟨later, member, version.sessionFamily.trans family⟩

theorem ClosingsFinal.next {env : Env} {config after : SessionConfig} {label : SessionLabel}
    {sessionFamily : String} (finals : ClosingsFinal sessionFamily config) (valid : SessionsValid env config)
    (lineage : Lineage Issues config) (quiet : ClosesQuietly sessionFamily config label)
    (moved : (sessions env).next config label = some after) : ClosingsFinal sessionFamily after := by
  rintro thread member token ⟨metadata, call⟩ closed
  obtain ⟨index, found⟩ := List.getElem?_of_mem member
  rcases next_threads moved found with kept | ⟨started, _, _, rfl⟩ | ⟨choice, old, rfl, there, advanced⟩ |
    ⟨old, _, there, rfl⟩
  · exact (finals thread (List.mem_of_getElem? kept) token ⟨metadata, call⟩ closed).next valid
      lineage moved
  · simp [Closed, Thread.start] at closed
  · have present := List.mem_of_getElem? there
    obtain ⟨effect, resume, reply, alive, program, executed, rfl⟩ := advance_cases advanced
    have call : old.call = .rotate token metadata := call
    rcases closed_snoc closed with earlier | closing
    · exact (finals old present token ⟨metadata, call⟩ earlier).next valid lineage moved
    have lawful := (valid.2 old present).1.1
    have permit := (valid.2 old present).1.permitted program
    rw [call] at lawful permit
    obtain ⟨row, selected, revoked, inFamily⟩ : ∃ row, Selected old.past (env.sha256Hex token) row ∧
        row.revokedAt.isSome ∧ row.sessionFamily = sessionFamily := by
      rcases closing with same | ⟨revokedAt, same⟩
      · cases same
        exact permit
      · cases same
        exact permit.2
    have closes : Closes config old sessionFamily := by
      rcases closing with same | ⟨revokedAt, same⟩
      · cases same
        have responded := exec_ok executed
        simp only [respond, Option.some.injEq, Prod.mk.injEq, Except.ok.injEq] at responded
        exact .inr ⟨by rw [program]; rfl, responded.1⟩
      · cases same
        exact .inl ⟨revokedAt, _, by rw [program]; rfl⟩
    have alone := quiet index choice old token rfl there ⟨metadata, call⟩ closes
    have inactive := closing_revokes executed closing
    refine ⟨inactive, ?_, ?_⟩
    · rintro reader stored token' ⟨metadata', call'⟩ running read
      obtain ⟨place, where_⟩ := List.getElem?_of_mem stored
      by_cases same : place = index
      · subst same
        obtain rfl := Option.some.inj (where_.symm.trans found)
        obtain ⟨tokenHash, other, selected', _, active⟩ := read
        rcases selected_snoc selected' with earlier | now
        · have single := selected_once lawful selected earlier
          subst single
          rw [active] at revoked
          cases revoked
        · rcases closing with same | ⟨_, same⟩ <;> rw [same] at now <;> cases now
      · have kept : config.threads[place]? = some reader := by
          rcases next_threads moved where_ with kept | ⟨_, label, _⟩ | ⟨_, _, label, _⟩ | ⟨_, label, _⟩
          · exact kept
          · cases label
          · cases label
            exact (same rfl).elim
          · cases label
        exact alone place reader token' kept same running ⟨metadata', call'⟩ read
    · obtain ⟨stored, held, version⟩ := ((valid.2 old present).2.selected _ row selected).2
      obtain ⟨later, held', version'⟩ := (processes_grow moved).rows stored held
      exact ⟨later, held', version'.sessionFamily.trans (version.sessionFamily.trans inFamily)⟩
  · exact (finals old (List.mem_of_getElem? there) token ⟨metadata, call⟩ closed).next valid
      lineage moved

theorem sessions_lineal (env : Env) : InsertsLineal Issues (SessionCall.Permits env) := by
  intro call past values permit
  cases call with
  | issue userId metadata => exact .inl ⟨⟨userId, metadata, rfl⟩, permit.2, permit.1⟩
  | rotate token metadata =>
    obtain ⟨_, row, selected, _, _, user, family⟩ := permit
    refine .inr ⟨?_, _, row, selected, family, user⟩
    rintro ⟨_, _, same⟩
    cases same
  | revokeFamily family reason => exact permit.elim
  | revokeByHash tokenHash reason => exact permit.elim
  | revokeMostRecent userId reason => exact permit.elim

structure ReuseInvariant (env : Env) (sessionFamily : String) (config : SessionConfig) : Prop where
  valid : SessionsValid env config
  lineage : Lineage Issues config
  finals : ClosingsFinal sessionFamily config

theorem ReuseInvariant.next {env : Env} {config after : SessionConfig} {label : SessionLabel} {sessionFamily : String}
    (holds : ReuseInvariant env sessionFamily config) (quiet : ClosesQuietly sessionFamily config label)
    (moved : (sessions env).next config label = some after) : ReuseInvariant env sessionFamily after where
  valid := processes_next (SessionCall.code_obeys env) holds.valid moved
  lineage := holds.lineage.next (sessions_lineal env) holds.valid moved
  finals := holds.finals.next holds.valid holds.lineage quiet moved

theorem Reachable.reuse {env : Env} {config : SessionConfig} {sessionFamily : String}
    (reachable : SessionsReachable env (ClosesQuietly sessionFamily) config) :
    ReuseInvariant env sessionFamily config := by
  obtain ⟨clock, users, reached⟩ := reachable
  have initial : ReuseInvariant env sessionFamily (freshGateway clock users) :=
    ⟨freshGateway_valid clock users, freshGateway_lineage clock users,
      fun thread member => by simp [freshGateway] at member⟩
  exact reached.invariant initial fun _ _ _ holds quiet moved => holds.next quiet moved

theorem ReuseInvariant.detected {env : Env} {config : SessionConfig} {sessionFamily : String}
    (holds : ReuseInvariant env sessionFamily config) (detected : ReuseDetected env config sessionFamily) :
    FamilyClosed config sessionFamily := by
  obtain ⟨thread, member, token, ⟨metadata, call⟩, ⟨error, answered, code⟩, held⟩ := detected
  obtain ⟨stored, present, hash, family⟩ := held
  have ended := (holds.valid.2 thread member).1.ended answered
  rw [call] at ended
  obtain ⟨row, selected, _, closed⟩ := ended code
  obtain ⟨hash', other, present', version⟩ := (holds.valid.2 thread member).2.selected _ row selected
  have same : other = stored := holds.valid.1.same_hash present' present
    (version.tokenHash.trans (hash'.trans hash.symm))
  subst same
  rw [← version.sessionFamily, family] at closed
  exact holds.finals thread member token ⟨metadata, call⟩ closed

def ReadersEnded (config later : SessionConfig) (sessionFamily : String) : Prop :=
  ∀ (index : Nat) (thread : SessionThread) (token : String), later.threads[index]? = some thread →
    Rotates token thread → ReadActive thread sessionFamily →
    ∃ old, config.threads[index]? = some old ∧ old.running = false

theorem FamilyClosed.readers_ended {config : SessionConfig} {sessionFamily : String}
    (closed : FamilyClosed config sessionFamily) : ReadersEnded config config sessionFamily := by
  intro index thread token found rotates read
  refine ⟨thread, found, ?_⟩
  cases running : thread.running with
  | false => rfl
  | true => exact (closed.readers thread (List.mem_of_getElem? found) token rotates running read).elim

theorem ReadersEnded.next {env : Env} {config later after : SessionConfig} {label : SessionLabel}
    {sessionFamily : String} (ended : ReadersEnded config later sessionFamily)
    (closed : FamilyClosed later sessionFamily)
    (moved : (sessions env).next later label = some after) :
    ReadersEnded config after sessionFamily := by
  rintro index thread token found ⟨metadata, call⟩ read
  rcases readActive_next moved found read with ⟨old, there, same, earlier, _⟩ | ⟨row, stored, family, active⟩
  · exact ended index old token there ⟨metadata, same.trans call⟩ earlier
  · have revoked := closed.rows row stored family
    rw [active] at revoked
    cases revoked

/-- What a detected reuse leaves in every later configuration. -/
structure ClosedSince (env : Env) (config : SessionConfig) (sessionFamily : String)
    (later : SessionConfig) : Prop where
  holds : ReuseInvariant env sessionFamily later
  closed : FamilyClosed later sessionFamily
  ended : ReadersEnded config later sessionFamily

theorem ClosedSince.next {env : Env} {config later after : SessionConfig} {label : SessionLabel}
    {sessionFamily : String} (since : ClosedSince env config sessionFamily later)
    (quiet : ClosesQuietly sessionFamily later label) (moved : (sessions env).next later label = some after) :
    ClosedSince env config sessionFamily after where
  holds := since.holds.next quiet moved
  closed := since.closed.next since.holds.valid since.holds.lineage moved
  ended := since.ended.next since.closed moved

structure ReuseFinal (env : Env) (config later : SessionConfig) (sessionFamily : String) : Prop where
  rows : ∀ row ∈ later.state.refreshTokens, row.sessionFamily = sessionFamily → row.revokedAt.isSome
  answers : ∀ (index : Nat) (thread : SessionThread) (token : String),
    later.threads[index]? = some thread → Rotates token thread → TokenOf env later token sessionFamily →
    AnsweredOk thread → ∃ old, config.threads[index]? = some old ∧ AnsweredOk old

/-- In every run in which the family is closed quietly, a detected reuse ends it for good. -/
theorem reuse_detection_final (env : Env) (config later : SessionConfig) (sessionFamily : String)
    (reachable : SessionsReachable env (ClosesQuietly sessionFamily) config)
    (detected : ReuseDetected env config sessionFamily)
    (onward : Reaches (sessions env) (ClosesQuietly sessionFamily) config later) :
    ReuseFinal env config later sessionFamily := by
  have closed : FamilyClosed config sessionFamily := reachable.reuse.detected detected
  have initial : ClosedSince env config sessionFamily config :=
    ⟨reachable.reuse, closed, closed.readers_ended⟩
  obtain ⟨holds, closed', ended⟩ : ClosedSince env config sessionFamily later :=
    onward.invariant initial fun _ _ _ since quiet moved => since.next quiet moved
  refine ⟨closed'.rows, ?_⟩
  rintro index thread token found ⟨metadata, call⟩ ⟨stored, present, hash, family⟩ ⟨result, answered⟩
  have member := List.mem_of_getElem? found
  have rule := (holds.valid.2 thread member).1.ended answered
  rw [call] at rule
  obtain ⟨row, _, selected, active, _⟩ := rule
  obtain ⟨hash', other, present', version⟩ := (holds.valid.2 thread member).2.selected _ row selected
  have same : other = stored := holds.valid.1.same_hash present' present
    (version.tokenHash.trans (hash'.trans hash.symm))
  subst same
  have read : ReadActive thread sessionFamily :=
    ⟨_, row, selected, version.sessionFamily.symm.trans family, active⟩
  obtain ⟨old, there, stopped⟩ := ended index thread token found ⟨metadata, call⟩ read
  obtain ⟨thread', found', ext⟩ := onward.extends there
  obtain rfl := Option.some.inj (found'.symm.trans found)
  exact ⟨old, there, result, (ext.settled stopped).1.symm.trans answered⟩

def readActive (thread : SessionThread) (sessionFamily : String) : Bool :=
  thread.past.any fun event =>
    match event with
    | ⟨.selectRefreshTokenByHash _, .ok (some row)⟩ =>
      row.sessionFamily = sessionFamily ∧ row.revokedAt = none
    | _ => false

theorem readActive_complete {thread : SessionThread} {sessionFamily : String}
    (read : ReadActive thread sessionFamily) : readActive thread sessionFamily = true := by
  obtain ⟨tokenHash, row, selected, family, active⟩ := read
  refine List.any_eq_true.mpr ⟨_, selected, ?_⟩
  simp [family, active]

def isRotation : SessionCall → Bool
  | .rotate _ _ => true
  | _ => false

def noOtherReader (config : SessionConfig) (index : Nat) (sessionFamily : String) : Bool :=
  (List.range config.threads.length).all fun other =>
    match config.threads[other]? with
    | some two =>
      other = index || !two.running || !isRotation two.call || !readActive two sessionFamily
    | none => true

theorem noOtherReader_sound {config : SessionConfig} {index : Nat} {sessionFamily : String}
    (passed : noOtherReader config index sessionFamily = true) {other : Nat} {two : SessionThread}
    {token : String} (found : config.threads[other]? = some two) (different : other ≠ index)
    (running : two.running = true) (rotates : Rotates token two) : ¬ ReadActive two sessionFamily := by
  intro read
  obtain ⟨metadata, call⟩ := rotates
  have bound := (List.getElem?_eq_some_iff.mp found).1
  have each := List.all_eq_true.mp passed other (List.mem_range.mpr bound)
  simp [found, different, running, call, isRotation, readActive_complete read] at each

def closesQuietly (sessionFamily : String) (config : SessionConfig) : SessionLabel → Bool
  | .step index _ =>
    match config.threads[index]? with
    | none => true
    | some thread =>
      match thread.program.pending with
      | some (.updateRevokedByFamily family _ _) => family ≠ sessionFamily || noOtherReader config index sessionFamily
      | some (.selectActiveByFamily family) => family ≠ sessionFamily || noOtherReader config index sessionFamily
      | _ => true
  | _ => true

theorem closesQuietly_sound (sessionFamily : String) (config : SessionConfig) (label : SessionLabel)
    (passed : closesQuietly sessionFamily config label = true) : ClosesQuietly sessionFamily config label := by
  rintro index choice thread token rfl found _ closes other two token' found' different running rotates
  have alone : noOtherReader config index sessionFamily = true := by
    rcases closes with ⟨revokedAt, reason, pending⟩ | ⟨pending, _⟩
    · simpa [closesQuietly, found, pending] using passed
    · simpa [closesQuietly, found, pending] using passed
  exact noOtherReader_sound alone found' different running rotates

theorem answeredReuse_spec {thread : SessionThread} (answered : answeredReuse thread = true) :
    AnsweredReuse thread := by
  unfold answeredReuse at answered
  split at answered
  · rename_i error program
    exact ⟨error, program, by simpa using answered⟩
  · cases answered

def reuseDetected (token sessionFamily : String) (config : SessionConfig) : Bool :=
  (config.threads.any fun thread => thread.call = .rotate token {} && answeredReuse thread) &&
    config.state.refreshTokens.any fun row =>
      row.tokenHash = sampleEnv.sha256Hex token && row.sessionFamily = sessionFamily

theorem reuseDetected_sound {token sessionFamily : String} {config : SessionConfig}
    (passed : reuseDetected token sessionFamily config = true) :
    ReuseDetected sampleEnv config sessionFamily := by
  simp only [reuseDetected, Bool.and_eq_true, List.any_eq_true, decide_eq_true_eq] at passed
  obtain ⟨⟨thread, member, call, answered⟩, row, stored, hash, family⟩ := passed
  exact ⟨thread, member, token, ⟨_, call⟩, answeredReuse_spec answered, row, stored, hash, family⟩

def lateRotation : List SessionLabel := [.call (.rotate "t1" {})] ++ steps 3 3

theorem replay_reuse_final : ∃ config later, SessionsReachable sampleEnv (ClosesQuietly "f") config ∧
    ReuseDetected sampleEnv config "f" ∧ later.threads.length = 4 ∧
    ReuseFinal sampleEnv config later "f" := by
  have passed : ((sessions sampleEnv).runChecked (closesQuietly "f") replay
      (freshGateway 0 [sampleUser "u" "u@example.com"])).any (fun config =>
        reuseDetected "t0" "f" config && ((sessions sampleEnv).runChecked (closesQuietly "f") lateRotation
          config).any fun later => later.threads.length = 4) = true := by decide
  obtain ⟨config, reached, checked⟩ := Reaches.of_checks (closesQuietly_sound "f") passed
  simp only [Bool.and_eq_true] at checked
  obtain ⟨later, onward, count⟩ := Reaches.of_checks (closesQuietly_sound "f") checked.2
  have reachable : SessionsReachable sampleEnv (ClosesQuietly "f") config := ⟨_, _, reached⟩
  have detected : ReuseDetected sampleEnv config "f" := reuseDetected_sound checked.1
  exact ⟨config, later, reachable, detected, by simpa using count,
    reuse_detection_final sampleEnv config later "f" reachable detected onward⟩

/-- A rotation of `t1` has read its row when the replay of `t0` closes the family. -/
def overtakenRotation : List SessionLabel :=
  signIn ++ [.call (.rotate "t0" {})] ++ steps 1 6 ++ [.step 1 (drawing "t1")] ++ steps 1 1 ++
  [.step 1 (drawing "r1"), .call (.rotate "t1" {})] ++ steps 2 1 ++ [.call (.rotate "t0" {})] ++ steps 3 7

def overtakenEnd : List SessionLabel :=
  steps 2 5 ++ [.step 2 (drawing "t2")] ++ steps 2 1 ++ [.step 2 (drawing "r2")]

def revived (sessionFamily : String) (config : SessionConfig) : Bool :=
  config.state.refreshTokens.any fun row => row.sessionFamily = sessionFamily && row.revokedAt.isNone

theorem revived_not_final {config later : SessionConfig} {sessionFamily : String}
    (active : revived sessionFamily later = true) :
    ¬ ReuseFinal sampleEnv config later sessionFamily := by
  intro final
  simp only [revived, List.any_eq_true, Bool.and_eq_true, decide_eq_true_eq] at active
  obtain ⟨row, member, family, none_⟩ := active
  have revoked := final.rows row member family
  rw [Option.isNone_iff_eq_none] at none_
  rw [none_] at revoked
  cases revoked

/-- A rotation that was overtaken revives the family. -/
theorem reuse_detection_revived : ∃ config later, SessionsReachable sampleEnv System.anyStep config ∧
    ReuseDetected sampleEnv config "f" ∧ Reaches (sessions sampleEnv) System.anyStep config later ∧
    ¬ ReuseFinal sampleEnv config later "f" := by
  have passed : ((sessions sampleEnv).run overtakenRotation
      (freshGateway 0 [sampleUser "u" "u@example.com"])).any (fun config =>
        reuseDetected "t0" "f" config && ((sessions sampleEnv).run overtakenEnd config).any
          (revived "f")) = true := by decide
  obtain ⟨config, reached, checked⟩ := Reaches.of_check passed
  simp only [Bool.and_eq_true] at checked
  obtain ⟨later, onward, active⟩ := Reaches.of_check checked.2
  exact ⟨config, later, ⟨_, _, reached⟩, reuseDetected_sound checked.1, onward,
    revived_not_final active⟩

end GatewayProof
