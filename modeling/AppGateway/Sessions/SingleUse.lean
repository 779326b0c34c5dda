import AppGateway.Sessions.Calls

namespace GatewayProof

open Async GatewayModel
open Async.System (Reaches advance_cases next_threads)

def Rotates (token : String) (thread : SessionThread) : Prop :=
  ∃ metadata, thread.call = .rotate token metadata

def AnsweredOk (thread : SessionThread) : Prop :=
  ∃ result, thread.answered (.ok (.rotated (.ok result)))

def SuccessorOf (config : SessionConfig) (token : String) (row : RefreshTokenRow) : Prop :=
  row ∈ config.state.refreshTokens ∧ ∃ thread ∈ config.threads, Rotates token thread ∧
    ∃ values, Sent thread.past values ∧ values.tokenHash = row.tokenHash

def ConsumesActive (config : SessionConfig) (label : SessionLabel) : Prop :=
  ∀ index choice thread token id revokedAt reason, label = .step index choice →
    config.threads[index]? = some thread → Rotates token thread →
    thread.program.pending = some (.updateRevokedById id revokedAt reason) →
    ∀ row ∈ config.state.refreshTokens, row.id = id → row.revokedAt = none

def Consumer (config : SessionConfig) (index : Nat) (id : String) : Prop :=
  ∃ thread token, config.threads[index]? = some thread ∧ Rotates token thread ∧ Consumed thread.past id

structure SingleConsumer (config : SessionConfig) : Prop where
  revoked : ∀ index id, Consumer config index id → Revoked config.state id
  unique : ∀ first second id, Consumer config first id → Consumer config second id → first = second

theorem consumed_snoc {past : List SessionEvent} {effect : Effect} {reply : Except Thrown effect.Reply}
    {id : String} (consumed : Consumed (past ++ [⟨effect, reply⟩]) id) :
    Consumed past id ∨ ∃ revokedAt, (⟨effect, reply⟩ : SessionEvent) =
      ⟨.updateRevokedById id revokedAt "rotation", .ok ()⟩ := by
  obtain ⟨revokedAt, member⟩ := consumed
  rcases List.mem_append.mp member with member | member
  · exact .inl ⟨revokedAt, member⟩
  · exact .inr ⟨revokedAt, (List.mem_singleton.mp member).symm⟩

theorem consumer_next {env : Env} {config after : SessionConfig} {label : SessionLabel}
    (valid : SessionsValid env config) (moved : (sessions env).next config label = some after)
    {index : Nat} {id : String} (consumer : Consumer after index id) :
    Consumer config index id ∨ (∃ choice thread token revokedAt, label = .step index choice ∧
      config.threads[index]? = some thread ∧ Rotates token thread ∧
      thread.program.pending = some (.updateRevokedById id revokedAt "rotation") ∧
      (∃ row ∈ config.state.refreshTokens, row.id = id) ∧ Revoked after.state id) := by
  obtain ⟨thread, token, found, rotates, consumed⟩ := consumer
  rcases next_threads moved found with kept | ⟨call, _, _, rfl⟩ | ⟨choice, old, rfl, there, advanced⟩ |
    ⟨old, _, there, rfl⟩
  · exact .inl ⟨thread, token, kept, rotates, consumed⟩
  · obtain ⟨revokedAt, member⟩ := consumed
    simp [Thread.start] at member
  · have holds := valid.2 old (List.mem_of_getElem? there)
    obtain ⟨effect, resume, reply, _, program, executed, rfl⟩ := advance_cases advanced
    rcases consumed_snoc consumed with earlier | ⟨revokedAt, same⟩
    · exact .inl ⟨old, token, there, rotates, earlier⟩
    · cases same
      obtain ⟨metadata, call⟩ := rotates
      have permit := holds.1.permitted program
      rw [show old.call = .rotate token metadata from call] at permit
      obtain ⟨_, row, selected, _, rfl⟩ := permit
      obtain ⟨stored, member, later⟩ := (holds.2.selected _ row selected).2
      have present : ∃ other ∈ config.state.refreshTokens, other.id = row.id := ⟨stored, member, later.id⟩
      exact .inr ⟨choice, old, token, revokedAt, rfl, there, ⟨metadata, call⟩, by rw [program]; rfl,
        present, update_by_id_revokes executed present⟩
  · exact .inl ⟨old, token, there, rotates, consumed⟩

theorem SingleConsumer.next {env : Env} {config after : SessionConfig} {label : SessionLabel}
    (single : SingleConsumer config) (valid : SessionsValid env config)
    (allow : ConsumesActive config label) (moved : (sessions env).next config label = some after) :
    SingleConsumer after := by
  have growth : Grows config.state after.state := processes_grow moved
  have alone : ∀ first second id choice thread token revokedAt, Consumer config first id →
      label = .step second choice → config.threads[second]? = some thread → Rotates token thread →
      thread.program.pending = some (.updateRevokedById id revokedAt "rotation") → False := by
    intro first second id choice thread token revokedAt consumer step found rotates pending
    obtain ⟨row, member, same, revoked⟩ := single.revoked first id consumer
    have active := allow second choice thread token id revokedAt _ step found rotates pending row member same
    rw [active] at revoked
    cases revoked
  constructor
  · intro index id consumer
    rcases consumer_next valid moved consumer with earlier | ⟨_, _, _, _, _, _, _, _, _, revoked⟩
    · exact (single.revoked index id earlier).grow growth
    · exact revoked
  · intro first second id one two
    rcases consumer_next valid moved one with one | ⟨choice, thread, token, at', step, found, rotates, pending, _⟩ <;>
      rcases consumer_next valid moved two with
        two | ⟨choice', thread', token', at'', step', found', rotates', pending', _⟩
    · exact single.unique first second id one two
    · exact (alone first second id choice' thread' token' at'' one step' found' rotates' pending').elim
    · exact (alone second first id choice thread token at' two step found rotates pending).elim
    · rw [step] at step'
      cases step'
      rfl

theorem freshGateway_single (clock : Nat) (users : List UserRow) :
    SingleConsumer (freshGateway clock users) := by
  constructor
  · rintro index id ⟨thread, token, found, _⟩
    simp [freshGateway] at found
  · rintro first second id ⟨thread, token, found, _⟩
    simp [freshGateway] at found

theorem Reachable.single {env : Env} {config : SessionConfig}
    (reachable : SessionsReachable env ConsumesActive config) : SingleConsumer config := by
  obtain ⟨clock, users, reached⟩ := reachable
  have preserved : ∀ config label after, (SessionsValid env config ∧ SingleConsumer config) →
      ConsumesActive config label → (sessions env).next config label = some after →
      SessionsValid env after ∧ SingleConsumer after := fun config label after holds allow moved =>
    ⟨processes_next (SessionCall.code_obeys env) holds.1 moved, holds.2.next holds.1 allow moved⟩
  exact (reached.invariant ⟨freshGateway_valid clock users, freshGateway_single clock users⟩
    preserved).2

theorem selected_same_id {env : Env} {config : SessionConfig} (valid : SessionsValid env config)
    {first second : SessionThread} (one : first ∈ config.threads) (two : second ∈ config.threads)
    {tokenHash : String} {row other : RefreshTokenRow} (selected : Selected first.past tokenHash row)
    (selected' : Selected second.past tokenHash other) : row.id = other.id := by
  obtain ⟨hash, stored, member, later⟩ := (valid.2 first one).2.selected _ _ selected
  obtain ⟨hash', stored', member', later'⟩ := (valid.2 second two).2.selected _ _ selected'
  have same : stored = stored' := valid.1.same_hash member member' (by
    rw [later.tokenHash, later'.tokenHash, hash, hash'])
  rw [← later.id, ← later'.id, same]

theorem answeredOk_consumer {env : Env} {config : SessionConfig} (valid : SessionsValid env config)
    {index : Nat} {thread : SessionThread} {token : String} (found : config.threads[index]? = some thread)
    (rotates : Rotates token thread) (answered : AnsweredOk thread) :
    ∃ row, Selected thread.past (env.sha256Hex token) row ∧ Consumer config index row.id := by
  obtain ⟨metadata, call⟩ := rotates
  obtain ⟨result, answered⟩ := answered
  have ended := (valid.2 thread (List.mem_of_getElem? found)).1.ended answered
  rw [call] at ended
  obtain ⟨row, _, selected, _, consumed, _⟩ := ended
  exact ⟨row, selected, thread, token, found, ⟨metadata, call⟩, consumed⟩

theorem sent_consumer {env : Env} {config : SessionConfig} (valid : SessionsValid env config)
    {index : Nat} {thread : SessionThread} {token : String} (found : config.threads[index]? = some thread)
    (rotates : Rotates token thread) {values : NewRefreshToken} (sent : Sent thread.past values) :
    ∃ row, Selected thread.past (env.sha256Hex token) row ∧ Consumer config index row.id := by
  obtain ⟨metadata, call⟩ := rotates
  have lawful := (valid.2 thread (List.mem_of_getElem? found)).1.1
  rw [call] at lawful
  obtain ⟨reply, member⟩ := sent
  obtain ⟨before, after, split, _, row, selected, _, consumed, _⟩ := lawful.of_mem member
  have grown : before ⊆ thread.past := by simp [split]
  exact ⟨row, selected.grow grown, thread, token, found, ⟨metadata, call⟩, consumed.grow grown⟩

def ReturnsError : Except Thrown SessionResult → Prop
  | .ok (.rotated (.error _)) | .error _ => True
  | .ok _ => False

/-- At most one call presenting the token is answered ok, it has at most one successor row, and every
    other answer is an error. -/
structure SingleUse (config : SessionConfig) (token : String) : Prop where
  answers : ∀ (first second : Nat) (one two : SessionThread), config.threads[first]? = some one →
    config.threads[second]? = some two → Rotates token one → Rotates token two →
    AnsweredOk one → AnsweredOk two → first = second
  successors : ∀ row other, SuccessorOf config token row → SuccessorOf config token other → row = other
  errors : ∀ thread ∈ config.threads, Rotates token thread → ∀ outcome, thread.answered outcome →
    AnsweredOk thread ∨ ReturnsError outcome

theorem SingleConsumer.answers {env : Env} {config : SessionConfig} (single : SingleConsumer config)
    (valid : SessionsValid env config) {token : String} {first second : Nat} {one two : SessionThread}
    (found : config.threads[first]? = some one) (found' : config.threads[second]? = some two)
    (rotates : Rotates token one) (rotates' : Rotates token two)
    (answered : AnsweredOk one) (answered' : AnsweredOk two) : first = second := by
  obtain ⟨row, selected, consumer⟩ := answeredOk_consumer valid found rotates answered
  obtain ⟨other, selected', consumer'⟩ := answeredOk_consumer valid found' rotates' answered'
  have same := selected_same_id valid (List.mem_of_getElem? found) (List.mem_of_getElem? found')
    selected selected'
  exact single.unique first second row.id consumer (same ▸ consumer')

theorem SingleConsumer.successors {env : Env} {config : SessionConfig} (single : SingleConsumer config)
    (valid : SessionsValid env config) {token : String} {row other : RefreshTokenRow}
    (successor : SuccessorOf config token row) (successor' : SuccessorOf config token other) :
    row = other := by
  obtain ⟨member, one, present, rotates, values, sent, hash⟩ := successor
  obtain ⟨member', two, present', rotates', values', sent', hash'⟩ := successor'
  obtain ⟨first, found⟩ := List.getElem?_of_mem present
  obtain ⟨second, found'⟩ := List.getElem?_of_mem present'
  obtain ⟨read, selected, consumer⟩ := sent_consumer valid found rotates sent
  obtain ⟨read', selected', consumer'⟩ := sent_consumer valid found' rotates' sent'
  have same := selected_same_id valid present present' selected selected'
  have place : first = second := single.unique first second read.id consumer (same ▸ consumer')
  subst place
  obtain rfl := Option.some.inj (found.symm.trans found')
  obtain ⟨metadata, call⟩ := rotates
  have lawful := (valid.2 one present).1.1
  rw [call] at lawful
  obtain rfl := sent_once (fun _ _ permit => permit.1) lawful sent sent'
  exact valid.1.same_hash member member' (hash.symm.trans hash')

theorem answered_ok_or_error {env : Env} {config : SessionConfig} (valid : SessionsValid env config)
    {thread : SessionThread} (member : thread ∈ config.threads) {token : String}
    (rotates : Rotates token thread) {outcome : Except Thrown SessionResult}
    (answered : thread.answered outcome) : AnsweredOk thread ∨ ReturnsError outcome := by
  obtain ⟨metadata, call⟩ := rotates
  have ended := (valid.2 thread member).1.ended answered
  rw [call] at ended
  match outcome, ended with
  | .error _, _ => exact .inr trivial
  | .ok (.rotated (.error _)), _ => exact .inr trivial
  | .ok (.rotated (.ok result)), _ => exact .inl ⟨result, answered⟩

/-- In every run whose rotations consume rows that are still active, a token is used at most once. -/
theorem rotateRefreshToken_single_use (env : Env) (config : SessionConfig)
    (reachable : SessionsReachable env ConsumesActive config) (token : String) : SingleUse config token where
  answers := fun _ _ _ _ found found' rotates rotates' answered answered' =>
    reachable.single.answers reachable.valid found found' rotates rotates' answered answered'
  successors := fun _ _ successor successor' =>
    reachable.single.successors reachable.valid successor successor'
  errors := fun _ member rotates _ answered => answered_ok_or_error reachable.valid member rotates answered

def consumesActive (config : SessionConfig) : SessionLabel → Bool
  | .step index _ =>
    match config.threads[index]? with
    | none => true
    | some thread =>
      match thread.call, thread.program.pending with
      | .rotate _ _, some (.updateRevokedById id _ _) =>
        config.state.refreshTokens.all fun row => row.id = id → row.revokedAt = none
      | _, _ => true
  | _ => true

theorem consumesActive_sound (config : SessionConfig) (label : SessionLabel)
    (passed : consumesActive config label = true) : ConsumesActive config label := by
  rintro index choice thread token id revokedAt reason rfl found ⟨metadata, call⟩ pending
  simp only [consumesActive, found, call, pending, List.all_eq_true, decide_eq_true_eq] at passed
  exact passed

def answeredOk (thread : SessionThread) : Bool :=
  match thread.program with
  | .done (.ok (.rotated (.ok _))) => true
  | _ => false

theorem answeredOk_spec {thread : SessionThread} (answered : answeredOk thread = true) :
    AnsweredOk thread := by
  unfold answeredOk at answered
  split at answered
  · rename_i result program
    exact ⟨result, program⟩
  · cases answered

def answeredReuse (thread : SessionThread) : Bool :=
  match thread.program with
  | .done (.ok (.rotated (.error error))) => error.code = "token_reuse_detected"
  | _ => false

def signIn : List SessionLabel :=
  [.call (.issue "u" {}), .step 0 (drawing "f"), .step 0 (drawing "t0")] ++ steps 0 1 ++
  [.step 0 (drawing "r0")]

def replay : List SessionLabel :=
  signIn ++ [.call (.rotate "t0" {})] ++ steps 1 6 ++ [.step 1 (drawing "t1")] ++ steps 1 1 ++
  [.step 1 (drawing "r1"), .call (.rotate "t0" {})] ++ steps 2 7

def rotatedThenRefused (config : SessionConfig) : Bool :=
  match config.threads[1]?, config.threads[2]? with
  | some one, some two =>
    one.call = .rotate "t0" {} ∧ two.call = .rotate "t0" {} ∧ answeredOk one ∧ answeredReuse two
  | _, _ => false

theorem replay_single_use : ∃ config, SessionsReachable sampleEnv ConsumesActive config ∧
    rotatedThenRefused config = true ∧ SingleUse config "t0" := by
  have passed : ((sessions sampleEnv).runChecked consumesActive replay
      (freshGateway 0 [sampleUser "u" "u@example.com"])).any rotatedThenRefused = true := by decide
  obtain ⟨config, reached, refused⟩ := Reaches.of_checks consumesActive_sound passed
  have reachable : SessionsReachable sampleEnv ConsumesActive config := ⟨_, _, reached⟩
  exact ⟨config, reachable, refused, rotateRefreshToken_single_use sampleEnv config reachable "t0"⟩

/-- Both rotations read the active row of `t0` before either UPDATE. -/
def doubleUse : List SessionLabel :=
  signIn ++ [.call (.rotate "t0" {}), .call (.rotate "t0" {})] ++ steps 1 1 ++ steps 2 1 ++
  steps 1 5 ++ [.step 1 (drawing "t1")] ++ steps 1 1 ++ [.step 1 (drawing "r1")] ++
  steps 2 5 ++ [.step 2 (drawing "t2")] ++ steps 2 1 ++ [.step 2 (drawing "r2")]

def rotatedTwice (config : SessionConfig) : Bool :=
  match config.threads[1]?, config.threads[2]? with
  | some one, some two =>
    one.call = .rotate "t0" {} ∧ two.call = .rotate "t0" {} ∧ answeredOk one ∧ answeredOk two
  | _, _ => false

theorem rotatedTwice_not_single_use {config : SessionConfig} (twice : rotatedTwice config = true) :
    ¬ SingleUse config "t0" := by
  intro single
  unfold rotatedTwice at twice
  split at twice
  · rename_i one two first second
    simp only [Bool.decide_and, Bool.and_eq_true, decide_eq_true_eq, Bool.decide_eq_true] at twice
    obtain ⟨call, call', answered, answered'⟩ := twice
    have same := single.answers 1 2 one two first second ⟨_, call⟩ ⟨_, call'⟩
      (answeredOk_spec answered) (answeredOk_spec answered')
    cases same
  · cases twice

/-- Nothing keeps two rotations from reading the same active row. -/
theorem rotateRefreshToken_double_use :
    ∃ config, SessionsReachable sampleEnv System.anyStep config ∧ ¬ SingleUse config "t0" := by
  have passed : ((sessions sampleEnv).run doubleUse
      (freshGateway 0 [sampleUser "u" "u@example.com"])).any rotatedTwice = true := by decide
  obtain ⟨config, reached, twice⟩ := Reaches.of_check passed
  exact ⟨config, ⟨_, _, reached⟩, rotatedTwice_not_single_use twice⟩

end GatewayProof
