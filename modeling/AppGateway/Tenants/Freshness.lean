import AppGateway.Tenants.Agreement

namespace GatewayProof

open Async GatewayModel
open Async.Program (Uses Once once_await once_last)
open Async.System (Reaches next_cases next_threads next_extends advance_cases)

def PointersFrom (version : Nat) (tenantKeyId : String) (state : KeyState) : Prop :=
  ∀ process keyVersion, (tenantKeyId, keyVersion) ∈ (state.caches process).activeVersionCache.store →
    version ≤ keyVersion

def SetsPointer : KeyEffect → Prop
  | .activeVersionSet .. => True
  | _ => False

/-- The call has been told of an older version, and has still to point its process to it. -/
def PointsBack (version : Nat) (tenantKeyId : String) (thread : KeyThread) : Prop :=
  thread.running = true ∧ (∀ event ∈ thread.past, ¬ SetsPointer event.op) ∧
    ∃ keyVersion, Pointed thread.past tenantKeyId keyVersion ∧ keyVersion < version

/-- Nothing points back from the version, and nothing is about to. -/
structure Forward (version : Nat) (tenantKeyId : String) (config : KeyConfig) : Prop where
  pointers : PointersFrom version tenantKeyId config.state
  calls : ∀ thread ∈ config.threads, ¬ PointsBack version tenantKeyId thread

/-- A rotation that has inserted this version of the tenant's key commits only where no pointer to an
    older version is held or about to be written. -/
def CommitsForward (version : Nat) (tenantKeyId : String) (config : KeyConfig) (label : KeyLabel) : Prop :=
  ∀ index choice thread transaction wrappedDek, label = .step index choice → config.threads[index]? = some thread →
    thread.program.pending = some (.commit transaction) →
    ⟨.insertIn transaction tenantKeyId version wrappedDek, .ok ()⟩ ∈ thread.past → Forward version tenantKeyId config

def CommittedTo (version : Nat) (tenantKeyId : String) (past : List KeyEvent) : Prop :=
  ∃ before after transaction wrappedDek, past = before ++ ⟨.commit transaction, .ok ()⟩ :: after ∧
    ⟨.insertIn transaction tenantKeyId version wrappedDek, .ok ()⟩ ∈ before

structure Fresh (version : Nat) (tenantKeyId : String) (past : List KeyEvent) : Prop where
  pointer : ∀ process keyVersion, ⟨.activeVersionGet process tenantKeyId, .ok (some keyVersion)⟩ ∈ past →
    version ≤ keyVersion
  read : ∀ keyVersion wrappedDek, ⟨.selectActive tenantKeyId, .ok (some (keyVersion, wrappedDek))⟩ ∈ past →
    version ≤ keyVersion
  provisioned : ∀ wrappedDek, ⟨.insertFirst tenantKeyId wrappedDek, .ok true⟩ ∉ past

section Code

variable (env : CryptoEnv) (process : Nat) (tenantKeyId : String)

theorem perform_unset {effect : KeyEffect} (other : ¬ SetsPointer effect) :
    (Keys.perform effect).Uses fun effect => ¬ SetsPointer effect := ⟨other, fun _ => trivial⟩

theorem encryptWithKey_unset (key plaintext : Buffer) :
    (encryptWithKey env key plaintext).Uses fun effect => ¬ SetsPointer effect :=
  Uses.bind (perform_unset not_false) fun _ => trivial

theorem LooksUp.unset {effect : KeyEffect} (looksUp : LooksUp effect) : ¬ SetsPointer effect := by
  cases effect <;> first | exact not_false | exact looksUp.elim

theorem adoptActiveRow_once (active : Nat × Buffer) :
    (adoptActiveRow env process tenantKeyId active).Once SetsPointer := by
  refine once_last fun reply => ?_
  cases reply with
  | error thrown => trivial
  | ok _ => exact (unwrapAndCache_looksUp env process tenantKeyId active.1 active.2).weaken fun _ => LooksUp.unset

theorem provisionActiveKey_once : (provisionActiveKey env process tenantKeyId).Once SetsPointer := by
  refine Uses.bind_once (perform_unset not_false) fun rawDek =>
    Uses.bind_once (encryptWithKey_unset ..) fun wrappedDek =>
    Uses.bind_once (perform_unset not_false) fun inserted => ?_
  cases inserted with
  | true => exact Uses.bind_once (perform_unset not_false) fun _ => once_last fun reply => by cases reply <;> trivial
  | false =>
    refine Uses.bind_once (perform_unset not_false) fun existing => ?_
    cases existing with
    | none => trivial
    | some active => exact adoptActiveRow_once env process tenantKeyId active

theorem getActiveDek_once (tenantId : Option String) : (getActiveDek env process tenantId).Once SetsPointer := by
  have warm : (cachedActiveDek process (resolveTenantKeyId tenantId)).Uses fun effect => ¬ SetsPointer effect := by
    refine Uses.bind (perform_unset not_false) fun cachedVersion => ?_
    cases cachedVersion with
    | none => trivial
    | some keyVersion => exact Uses.bind (perform_unset not_false) fun _ => trivial
  refine Uses.bind_once warm fun resolved => ?_
  cases resolved with
  | some resolved => trivial
  | none =>
    refine Uses.bind_once (perform_unset not_false) fun active => ?_
    cases active with
    | none => exact provisionActiveKey_once env process _
    | some active => exact adoptActiveRow_once env process _ active

theorem rotateIn_once (transaction : Nat) : (rotateIn env process tenantKeyId transaction).Once SetsPointer := by
  have next : ∀ keyVersion : Nat, (do
      let rawDek ← Keys.randomBytes dekLengthBytes
      let wrappedDek ← wrapDek env rawDek
      Keys.insertIn transaction tenantKeyId keyVersion wrappedDek
      Keys.dekSet process tenantKeyId keyVersion rawDek
      Keys.activeVersionSet process tenantKeyId keyVersion
      return { dek := rawDek, keyVersion } : Keys ResolvedDek).Once SetsPointer := fun keyVersion =>
    Uses.bind_once (perform_unset not_false) fun _ => Uses.bind_once (encryptWithKey_unset ..) fun _ =>
      Uses.bind_once (perform_unset not_false) fun _ => Uses.bind_once (perform_unset not_false) fun _ =>
        once_last fun reply => by cases reply <;> trivial
  refine Uses.bind_once (perform_unset not_false) fun active => ?_
  cases active with
  | none => exact next _
  | some keyVersion =>
    exact Uses.bind_once (perform_unset not_false) fun _ => Uses.bind_once (perform_unset not_false) fun _ => next _

theorem rotateTenantKey_once (tenantId : Option String) : (rotateTenantKey env process tenantId).Once SetsPointer := by
  refine Uses.bind_once (perform_unset not_false) fun transaction => ?_
  refine Once.handle ((rotateIn_once env process _ transaction).bind fun _ => ?_) fun _ => ?_
  · exact Uses.bind (perform_unset not_false) fun _ => trivial
  · exact Uses.bind (perform_unset not_false) fun _ => trivial

theorem keyCall_once (call : KeyCall) : (call.code env).Once SetsPointer := by
  cases call with
  | encryptEmail process plaintext tenantId =>
    refine Once.bind (Once.bind (getActiveDek_once env process tenantId) fun resolved => ?_) fun _ => trivial
    show ((Program.done (writeUInt16BE resolved.keyVersion)).bind _).Uses _
    cases writeUInt16BE resolved.keyVersion with
    | error thrown => trivial
    | ok versionPrefix => exact (encryptWithKey_unset ..).bind fun _ => trivial
  | decryptEmail process encoded tenantId =>
    have uses : (KeyCall.code env (.decryptEmail process encoded tenantId)).Uses LooksUp :=
      (decryptEmail_looksUp env process encoded tenantId).bind fun _ => trivial
    exact (uses.weaken fun _ => LooksUp.unset).once
  | getActiveDek process tenantId => exact (getActiveDek_once env process tenantId).bind fun _ => trivial
  | getDekForVersion process tenantId keyVersion =>
    have uses : (KeyCall.code env (.getDekForVersion process tenantId keyVersion)).Uses LooksUp :=
      (getDekForVersion_looksUp env process tenantId keyVersion).bind fun _ => trivial
    exact (uses.weaken fun _ => LooksUp.unset).once
  | rotateTenantKey process tenantId => exact (rotateTenantKey_once env process tenantId).bind fun _ => trivial

end Code

section Steps

variable {state later : KeyState} {version : Nat} {tenantKeyId : String} {wrappedDek : Buffer}

theorem selectActive_recent (valid : KeysValid state) {choice : KeyChoice} {keyVersion : Nat} {selected : Buffer}
    (persisted : Persisted state.rows tenantKeyId version wrappedDek)
    (executed : execKey (.selectActive tenantKeyId) choice state = some (.ok (some (keyVersion, selected)), later)) :
    version ≤ keyVersion := by
  obtain ⟨n, chain⟩ := valid.chain tenantKeyId
  obtain ⟨row, member, owned, rfl, _⟩ := persisted
  have responded := execKey_ok executed
  simp only [respondKey, Option.some.injEq, Prod.mk.injEq, Except.ok.injEq] at responded
  obtain ⟨active, found, same⟩ := Option.map_eq_some_iff.mp responded.1
  have picked := List.find?_some found
  obtain ⟨owned', status⟩ := activeFor_iff.mp picked
  have last := (chain.active active (List.mem_of_find?_eq_some found) owned').mp status
  cases same
  rw [last]
  exact (chain.bounds member owned).2

theorem insertFirst_refused (valid : KeysValid state) {choice : KeyChoice} {candidate : Buffer}
    (persisted : Persisted state.rows tenantKeyId version wrappedDek) :
    execKey (.insertFirst tenantKeyId candidate) choice state ≠ some (.ok true, later) := by
  intro executed
  obtain ⟨n, chain⟩ := valid.chain tenantKeyId
  obtain ⟨row, member, owned, _, _⟩ := persisted
  have bounds := chain.bounds member owned
  obtain ⟨first, present, owned', one⟩ := chain.exists_row (Nat.le_refl 1) (by omega)
  have responded := execKey_ok executed
  simp only [respondKey] at responded
  split at responded
  · cases responded
  · cases responded
  · cases responded
  · rename_i fits
    exact ((checkIndexes_fits fits).1 first present owned').1 one

theorem insertIn_later (valid : KeysValid state) {choice : KeyChoice} {id keyVersion : Nat} {candidate : Buffer}
    (persisted : Persisted state.rows tenantKeyId version wrappedDek) (positive : 1 ≤ keyVersion)
    (executed : execKey (.insertIn id tenantKeyId keyVersion candidate) choice state = some (.ok (), later)) :
    version ≤ keyVersion := by
  obtain ⟨n, chain⟩ := valid.chain tenantKeyId
  obtain ⟨row, member, owned, rfl, _⟩ := persisted
  have bounds := chain.bounds member owned
  have responded := execKey_ok executed
  simp only [respondKey] at responded
  split at responded
  · cases responded
  rename_i transaction _
  split at responded
  · cases responded
  · cases responded
  · cases responded
  · rename_i fits
    by_contra older
    obtain ⟨taken, present, owned', version'⟩ := chain.exists_row positive (by omega)
    have viewed : taken.retireAll transaction.retired ∈ transaction.view state.rows :=
      List.mem_append_left _ (List.mem_map_of_mem present)
    exact ((checkIndexes_fits fits).1 _ viewed (by simpa using owned')).1 (by simpa using version')

theorem pointed_snoc {past : List KeyEvent} {event : KeyEvent} {keyVersion : Nat}
    (pointed : Pointed (past ++ [event]) tenantKeyId keyVersion) :
    Pointed past tenantKeyId keyVersion ∨ Pointed [event] tenantKeyId keyVersion := by
  cases pointed with
  | read wrappedDek selected =>
    exact (List.mem_append.mp selected).imp (.read wrappedDek) (.read wrappedDek)
  | provisioned wrappedDek first inserted =>
    exact (List.mem_append.mp inserted).imp (.provisioned wrappedDek first) (.provisioned wrappedDek first)
  | rotated wrappedDek transaction inserted =>
    exact (List.mem_append.mp inserted).imp (.rotated wrappedDek transaction) (.rotated wrappedDek transaction)

theorem tells_recent {env : CryptoEnv} {call : KeyCall} {past : List KeyEvent} {effect : KeyEffect}
    {reply : Except Thrown effect.Reply} {choice : KeyChoice} {keyVersion : Nat} (valid : KeysValid state)
    (persisted : Persisted state.rows tenantKeyId version wrappedDek) (permitted : KeyPermits env call past effect)
    (executed : execKey effect choice state = some (reply, later))
    (tells : Pointed [⟨effect, reply⟩] tenantKeyId keyVersion) : version ≤ keyVersion := by
  cases tells with
  | read wrappedDek selected =>
    cases List.mem_singleton.mp selected
    exact selectActive_recent valid persisted executed
  | provisioned wrappedDek first inserted =>
    cases List.mem_singleton.mp inserted
    exact absurd executed (insertFirst_refused valid persisted)
  | rotated wrappedDek transaction inserted =>
    cases List.mem_singleton.mp inserted
    obtain ⟨_, _, _, active, _, next⟩ := permitted
    exact insertIn_later valid persisted (by omega) executed

end Steps

section Runs

variable {env : CryptoEnv} {clock version : Nat} {tenantKeyId : String} {wrappedDek : Buffer}
  {config after : KeyConfig} {label : KeyLabel}

structure KeysKnown (env : CryptoEnv) (config : KeyConfig) : Prop where
  holds : KeysHold env config
  follows : ∀ thread ∈ config.threads, (thread.call.code env).Follows thread.past thread.program

theorem keysKnown_run {allowed : KeyConfig → KeyLabel → Prop}
    (reached : Reaches (gateways env) allowed (freshGateways clock) config) : KeysKnown env config :=
  ⟨keysHold_run reached, reached.follows rfl⟩

/-- A step keeps the tenant's pointers forward unless it tells its call of an older version. -/
theorem Forward.next (forward : Forward version tenantKeyId config) (known : KeysKnown env config)
    (moved : (gateways env).next config label = some after)
    (recent : ∀ index choice thread effect reply state, label = .step index choice →
      config.threads[index]? = some thread → thread.program.pending = some effect →
      KeyPermits env thread.call thread.past effect → execKey effect choice config.state = some (reply, state) →
      ∀ keyVersion, Pointed [⟨effect, reply⟩] tenantKeyId keyVersion → version ≤ keyVersion) :
    Forward version tenantKeyId after := by
  rcases next_cases moved with ⟨call, _, rfl⟩ | ⟨index, choice, old, advanced, state, rfl, there, stepped, rfl⟩ |
    ⟨place, old, _, there, rfl⟩ | ⟨event, _, rfl⟩
  · refine ⟨forward.pointers, fun thread member => ?_⟩
    rcases List.mem_append.mp member with earlier | new
    · exact forward.calls thread earlier
    · rw [List.mem_singleton.mp new]
      rintro ⟨_, _, _, pointed, _⟩
      cases pointed <;> simp [Thread.start] at *
  · obtain ⟨effect, resume, reply, alive, program, executed, rfl⟩ := advance_cases stepped
    have present := List.mem_of_getElem? there
    have permitted := (known.holds.each index old there).disciplined.permitted program
    have running : old.running = true := by simp [Thread.running, alive, program, Program.running]
    refine ⟨fun process keyVersion cached => ?_, fun thread member => ?_⟩
    · rcases execKey_activeVersions executed cached with kept | ⟨_, _, rfl, same⟩
      · exact forward.pointers process keyVersion kept
      cases same
      -- the pointer that is written was still to be written before
      have follows := known.follows old present
      rw [program] at follows
      have unset := (keyCall_once env old.call).first follows trivial
      by_contra older
      exact forward.calls old present ⟨running, unset, keyVersion, permitted.2.2, Nat.lt_of_not_le older⟩
    · rcases List.mem_or_eq_of_mem_set member with earlier | rfl
      · exact forward.calls thread earlier
      rintro ⟨_, unset, keyVersion, pointed, older⟩
      rcases pointed_snoc pointed with before | now
      · refine forward.calls old present ⟨running, fun event past => ?_, keyVersion, before, older⟩
        exact unset event (List.mem_append_left _ past)
      · have pending : old.program.pending = some effect := by rw [program]; rfl
        have late := recent index choice old effect reply state rfl there pending permitted executed keyVersion now
        exact Nat.not_lt.mpr late older
  · refine ⟨forward.pointers, fun thread member => ?_⟩
    rcases List.mem_or_eq_of_mem_set member with earlier | rfl
    · exact forward.calls thread earlier
    · rintro ⟨running, _⟩
      simp [Thread.running] at running
  · refine ⟨?_, forward.calls⟩
    cases event <;> exact forward.pointers

theorem Forward.next_persisted (forward : Forward version tenantKeyId config) (known : KeysKnown env config)
    (persisted : Persisted config.state.rows tenantKeyId version wrappedDek)
    (moved : (gateways env).next config label = some after) : Forward version tenantKeyId after :=
  forward.next known moved fun _ _ _ _ _ _ _ _ _ permitted executed _ tells =>
    tells_recent known.holds.valid persisted permitted executed tells

theorem CommittedTo.persisted {state : KeyState} {thread : KeyThread} (ledger : Ledger env state thread)
    (committed : CommittedTo version tenantKeyId thread.past) :
    ∃ wrappedDek, Persisted state.rows tenantKeyId version wrappedDek := by
  obtain ⟨before, after, transaction, wrappedDek, whole, inserted⟩ := committed
  exact ⟨wrappedDek, ledger.committed before after transaction _ _ _ whole inserted⟩

theorem CommittedTo.snoc {past : List KeyEvent} {event : KeyEvent}
    (committed : CommittedTo version tenantKeyId (past ++ [event])) :
    CommittedTo version tenantKeyId past ∨ ∃ transaction wrappedDek, event = ⟨.commit transaction, .ok ()⟩ ∧
      ⟨.insertIn transaction tenantKeyId version wrappedDek, .ok ()⟩ ∈ past := by
  obtain ⟨before, after, transaction, wrappedDek, whole, inserted⟩ := committed
  rcases split_snoc whole with ⟨rest, earlier⟩ | ⟨rfl, last⟩
  · exact .inl ⟨before, rest, transaction, wrappedDek, earlier, inserted⟩
  · exact .inr ⟨transaction, wrappedDek, last.symm, inserted⟩

def Superseded (version : Nat) (tenantKeyId : String) (config : KeyConfig) : Prop :=
  ∀ thread ∈ config.threads, CommittedTo version tenantKeyId thread.past → Forward version tenantKeyId config

theorem Superseded.next (superseded : Superseded version tenantKeyId config) (known : KeysKnown env config)
    (alone : CommitsForward version tenantKeyId config label)
    (moved : (gateways env).next config label = some after) : Superseded version tenantKeyId after := by
  have onward : ∀ (index : Nat) thread, config.threads[index]? = some thread →
      CommittedTo version tenantKeyId thread.past → Forward version tenantKeyId after := by
    intro index thread found committed
    obtain ⟨wrappedDek, persisted⟩ := committed.persisted (known.holds.each index thread found)
    exact (superseded thread (List.mem_of_getElem? found) committed).next_persisted known persisted moved
  intro thread member committed
  obtain ⟨index, found⟩ := List.getElem?_of_mem member
  rcases next_threads moved found with same | ⟨call, _, _, rfl⟩ | ⟨choice, old, rfl, there, advanced⟩ |
    ⟨old, _, there, rfl⟩
  · exact onward index thread same committed
  · obtain ⟨_, _, _, _, whole, _⟩ := committed
    simp [Thread.start] at whole
  · obtain ⟨effect, resume, reply, _, program, executed, rfl⟩ := advance_cases advanced
    rcases committed.snoc with earlier | ⟨transaction, wrappedDek, commits, inserted⟩
    · exact onward index old there earlier
    cases commits
    have pending : old.program.pending = some (.commit transaction) := by rw [program]; rfl
    refine (alone index choice old transaction wrappedDek rfl there pending inserted).next known moved ?_
    intro place choice' thread effect reply' state same found' awaits _ _ keyVersion tells
    cases same
    rw [there] at found'
    cases found'
    rw [pending] at awaits
    cases awaits
    cases tells with
    | read _ told | provisioned _ _ told | rotated _ _ told => cases List.mem_singleton.mp told
  · exact onward index old there committed

theorem superseded_run
    (reached : Reaches (gateways env) (CommitsForward version tenantKeyId) (freshGateways clock) config) :
    Superseded version tenantKeyId config := by
  have initial : Superseded version tenantKeyId (freshGateways clock) := fun _ absent => nomatch absent
  exact (reached.along fun _ => keysKnown_run).invariant initial fun _ _ _ superseded allowed moved =>
    superseded.next allowed.2 allowed.1 moved

theorem Fresh.nil : Fresh version tenantKeyId [] := ⟨by simp, by simp, by simp⟩

theorem Fresh.step {state later : KeyState} {thread moved : KeyThread} {choice : KeyChoice}
    (fresh : Fresh version tenantKeyId thread.past) (valid : KeysValid state)
    (persisted : Persisted state.rows tenantKeyId version wrappedDek)
    (pointers : PointersFrom version tenantKeyId state)
    (advanced : (gateways env).advance choice state thread = some (moved, later)) :
    Fresh version tenantKeyId moved.past := by
  obtain ⟨effect, resume, reply, _, _, executed, rfl⟩ := advance_cases advanced
  refine ⟨fun process keyVersion read => ?_, fun keyVersion wrappedDek read => ?_, fun wrappedDek inserted => ?_⟩
  · rcases List.mem_append.mp read with earlier | last
    · exact fresh.pointer process keyVersion earlier
    · cases List.mem_singleton.mp last
      exact pointers process keyVersion (execKey_activeVersionGet executed)
  · rcases List.mem_append.mp read with earlier | last
    · exact fresh.read keyVersion wrappedDek earlier
    · cases List.mem_singleton.mp last
      exact selectActive_recent valid persisted executed
  · rcases List.mem_append.mp inserted with earlier | last
    · exact fresh.provisioned wrappedDek earlier
    · cases List.mem_singleton.mp last
      exact insertFirst_refused valid persisted executed

def ReadsFresh (first version : Nat) (tenantKeyId : String) (config : KeyConfig) : Prop :=
  ∀ (index : Nat) thread, first ≤ index → config.threads[index]? = some thread → Fresh version tenantKeyId thread.past

theorem readsFresh_run {final : KeyConfig} (known : ∀ middle,
      Reaches (gateways env) (CommitsForward version tenantKeyId) config middle → KeysValid middle.state ∧
      Persisted middle.state.rows tenantKeyId version wrappedDek ∧ PointersFrom version tenantKeyId middle.state)
    (since : Reaches (gateways env) (CommitsForward version tenantKeyId) config final) :
    ReadsFresh config.threads.length version tenantKeyId final := by
  have initial : ReadsFresh config.threads.length version tenantKeyId config := fun _ _ begun found =>
    absurd (List.getElem?_eq_some_iff.mp found).1 (Nat.not_lt.mpr begun)
  refine (since.along known).invariant initial ?_
  intro middle label after fresh allowed moved index thread begun found
  obtain ⟨_, valid, persisted, pointers⟩ := allowed
  rcases next_threads moved found with same | ⟨call, _, _, rfl⟩ | ⟨choice, old, _, there, advanced⟩ |
    ⟨old, _, there, rfl⟩
  · exact fresh index thread begun same
  · exact .nil
  · exact (fresh index old begun there).step valid persisted pointers advanced
  · exact fresh index old begun there

theorem rotation_committed {state : KeyState} {thread : KeyThread} (ledger : Ledger env state thread)
    {process : Nat} {tenantId : Option String} {resolved : ResolvedDek}
    (call : thread.call = .rotateTenantKey process tenantId) (answered : thread.answered (.ok (.resolved resolved))) :
    CommittedTo resolved.keyVersion (resolveTenantKeyId tenantId) thread.past := by
  have ended := ledger.disciplined.ended answered
  rw [call] at ended
  obtain ⟨before, transaction, wrappedDek, _, inserted, whole⟩ := ended
  exact ⟨before, [], transaction, wrappedDek, whole, inserted⟩

end Runs

/-- When a rotation commits where nothing points back, or is about to, a call of `getActiveDek` that starts
    after it has resolved returns its version or a later one. -/
theorem rotated_key_not_reactivated {env : CryptoEnv} {clock : Nat} {tenantId : Option String} {rotated : ResolvedDek}
    {config final : KeyConfig}
    (before : Reaches (gateways env) (CommitsForward rotated.keyVersion (resolveTenantKeyId tenantId))
      (freshGateways clock) config) {rotation : KeyThread} (member : rotation ∈ config.threads) {process : Nat}
    (rotates : rotation.call = .rotateTenantKey process tenantId) (ended : rotation.answered (.ok (.resolved rotated)))
    (since : Reaches (gateways env) (CommitsForward rotated.keyVersion (resolveTenantKeyId tenantId)) config final)
    {index : Nat} (begun : config.threads.length ≤ index) {thread : KeyThread}
    (found : final.threads[index]? = some thread) {process' : Nat} {tenantId' : Option String}
    (call : thread.call = .getActiveDek process' tenantId')
    (same : resolveTenantKeyId tenantId' = resolveTenantKeyId tenantId) {resolved : ResolvedDek}
    (answered : thread.answered (.ok (.resolved resolved))) : rotated.keyVersion ≤ resolved.keyVersion := by
  obtain ⟨place, there⟩ := List.getElem?_of_mem member
  have committed := rotation_committed ((keysHold_run before).each place rotation there) rotates ended
  obtain ⟨wrappedDek, persisted⟩ := committed.persisted ((keysHold_run before).each place rotation there)
  have known : ∀ middle, Reaches (gateways env) (CommitsForward rotated.keyVersion (resolveTenantKeyId tenantId)) config
      middle → KeysValid middle.state ∧ Persisted middle.state.rows (resolveTenantKeyId tenantId) rotated.keyVersion
      wrappedDek ∧ PointersFrom rotated.keyVersion (resolveTenantKeyId tenantId) middle.state := by
    intro middle between
    obtain ⟨later, there', extended⟩ := between.extends there
    obtain ⟨events, longer⟩ := extended.past
    have still : CommittedTo rotated.keyVersion (resolveTenantKeyId tenantId) later.past := by
      obtain ⟨front, after, transaction, wrappedDek, whole, inserted⟩ := committed
      exact ⟨front, after ++ events, transaction, wrappedDek, by rw [← longer, whole]; simp, inserted⟩
    have forward := superseded_run (before.trans between) later (List.mem_of_getElem? there') still
    exact ⟨(keysHold_run (before.trans between)).valid, keysGrow_run between _ _ _ persisted, forward.pointers⟩
  have fresh := readsFresh_run known since index thread begun found
  have ledger := (keysHold_run (before.trans since)).each index thread found
  have resolves := ledger.disciplined.ended answered
  rw [call] at resolves
  change Resolves env process' thread.past (resolveTenantKeyId tenantId') resolved at resolves
  rw [same] at resolves
  cases resolves with
  | warm began => exact fresh.pointer process' _ (began.subset (List.mem_cons_self ..))
  | cold pointed =>
    cases pointed with
    | read selected read => exact fresh.read _ selected read
    | provisioned candidate _ inserted => exact absurd inserted (fresh.provisioned candidate)
    | rotated candidate id inserted =>
      obtain ⟨_, _, rotates'⟩ := ledger.began_rotates (ledger.inserts_began inserted)
      rw [call] at rotates'
      cases rotates'

def PointersOwned (config : KeyConfig) : Prop :=
  ∀ process, ∀ entry ∈ (config.state.caches process).activeVersionCache.store,
    ∃ thread ∈ config.threads, thread.call.process = process

theorem pointersOwned_run {env : CryptoEnv} {clock : Nat} {allowed : KeyConfig → KeyLabel → Prop} {config : KeyConfig}
    (reached : Reaches (gateways env) allowed (freshGateways clock) config) : PointersOwned config := by
  have initial : PointersOwned (freshGateways clock) := fun _ _ absent => nomatch absent
  refine (reached.along fun _ => keysHold_run).invariant initial ?_
  intro config label after owned allowed moved process entry cached
  have kept : entry ∈ (config.state.caches process).activeVersionCache.store →
      ∃ thread ∈ after.threads, thread.call.process = process := by
    intro before
    obtain ⟨thread, member, own⟩ := owned process entry before
    obtain ⟨index, found⟩ := List.getElem?_of_mem member
    obtain ⟨later, there, extended⟩ := next_extends moved found
    exact ⟨later, List.mem_of_getElem? there, by rw [extended.call, own]⟩
  rcases next_cases moved with ⟨call, _, rfl⟩ | ⟨index, choice, old, advanced, state, rfl, there, stepped, rfl⟩ |
    ⟨_, _, _, _, rfl⟩ | ⟨event, _, rfl⟩
  · exact kept cached
  · obtain ⟨effect, resume, reply, _, program, executed, rfl⟩ := advance_cases stepped
    rcases execKey_activeVersions executed cached with before | ⟨tenantKeyId, keyVersion, rfl, _⟩
    · exact kept before
    · have permitted := (allowed.2.each index old there).disciplined.permitted program
      exact ⟨_, List.mem_set (List.getElem?_eq_some_iff.mp there).1 _, permitted.1.symm⟩
  · exact kept cached
  · refine kept ?_
    cases event <;> exact cached

def setsPointer : KeyEffect → Bool
  | .activeVersionSet .. => true
  | _ => false

def commitsForward (version : Nat) (tenantKeyId : String) (config : KeyConfig) : KeyLabel → Bool
  | .step place _ =>
    match config.threads[place]?.bind fun thread => thread.program.pending with
    | some (.commit _) => config.threads.all fun thread =>
      ((config.state.caches thread.call.process).activeVersionCache.store.all fun entry =>
        entry.1 ≠ tenantKeyId || version ≤ entry.2) &&
      (!thread.running || thread.past.any fun event => setsPointer event.op)
    | _ => true
  | _ => true

theorem commitsForward_sound {version : Nat} {tenantKeyId : String} {config : KeyConfig} {label : KeyLabel}
    (owned : PointersOwned config) (checked : commitsForward version tenantKeyId config label = true) :
    CommitsForward version tenantKeyId config label := by
  rintro index choice thread transaction wrappedDek rfl found pending _
  simp only [commitsForward, found, Option.bind_some, pending, List.all_eq_true, Bool.and_eq_true] at checked
  refine ⟨fun process keyVersion cached => ?_, fun other member => ?_⟩
  · obtain ⟨caller, member, rfl⟩ := owned process _ cached
    simpa using (checked caller member).1 _ cached
  · rintro ⟨running, unset, _⟩
    have sets := (checked other member).2
    rw [running, Bool.not_true, Bool.false_or, List.any_eq_true] at sets
    obtain ⟨event, past, pointer⟩ := sets
    refine unset event past ?_
    cases op : event.op with
    | activeVersionSet => trivial
    | _ => simp [op, setsPointer] at pointer

def rotateThenResolve : List KeyLabel :=
  .call (.getActiveDek 0 none) :: onThread 0 (provisioning 1 2) ++
    .call (.rotateTenantKey 0 none) :: onThread 1 (rotating 3 4 ++ calmly 1)

theorem call_after_rotation_resolves_new_key : ∃ config final : KeyConfig,
    Reaches (gateways idealCipher) (CommitsForward 2 defaultTenantKeyId) (freshGateways 0) config ∧
    config.results[1]? = some (.rotateTenantKey 0 none, some (.ok (.resolved ⟨List.replicate dekLengthBytes 3, 2⟩))) ∧
    ∃ resolved : ResolvedDek, final.results[2]? = some (.getActiveDek 0 none, some (.ok (.resolved resolved))) ∧
      2 ≤ resolved.keyVersion := by
  have passed : ((gateways idealCipher).runChecked (commitsForward 2 defaultTenantKeyId) rotateThenResolve
      (freshGateways 0)).any (fun config =>
      decide (config.threads.length = 2) &&
      decide (config.results[1]? = some (.rotateTenantKey 0 none,
        some (.ok (.resolved ⟨List.replicate dekLengthBytes 3, 2⟩)))) &&
      ((gateways idealCipher).runChecked (commitsForward 2 defaultTenantKeyId)
          (.call (.getActiveDek 0 none) :: onThread 2 (calmly 2)) config).any fun final =>
          decide (final.results[2]? = some (.getActiveDek 0 none,
            some (.ok (.resolved ⟨List.replicate dekLengthBytes 3, 2⟩))))) = true := by decide +kernel
  obtain ⟨config, before, checked⟩ := Reaches.of_checks (fun _ _ => id) passed
  simp only [Bool.and_eq_true, decide_eq_true_eq] at checked
  obtain ⟨⟨two, rotated⟩, rest⟩ := checked
  obtain ⟨final, since, resolves⟩ := Reaches.of_checks (fun _ _ => id) rest
  obtain ⟨rotation, found, rotates, ended⟩ := Config.of_results rotated
  have result := of_decide_eq_true resolves
  obtain ⟨thread, found', call, answered⟩ := Config.of_results result
  have forward : Reaches (gateways idealCipher) (CommitsForward 2 defaultTenantKeyId) (freshGateways 0) config :=
    (before.along fun _ => pointersOwned_run).weaken fun _ _ taken => commitsForward_sound taken.2 taken.1
  have onward : Reaches (gateways idealCipher) (CommitsForward 2 defaultTenantKeyId) config final :=
    (since.along fun _ between => pointersOwned_run (before.trans between)).weaken fun _ _ taken =>
      commitsForward_sound taken.2 taken.1
  exact ⟨config, final, forward, rotated, _, result, rotated_key_not_reactivated forward (List.mem_of_getElem? found)
    rotates ended onward (Nat.le_of_eq two) found' call rfl answered⟩

def Undisturbed (_ : KeyConfig) : KeyLabel → Prop
  | .call _ | .external (.elapse _) => True
  | .step _ choice => choice.fault = .none
  | .crash _ | .external (.terminate _) => False

def undisturbed (_ : KeyConfig) : KeyLabel → Bool
  | .call _ | .external (.elapse _) => true
  | .step _ choice => choice.fault = .none
  | .crash _ | .external (.terminate _) => false

theorem undisturbed_sound (config : KeyConfig) (label : KeyLabel) (checked : undisturbed config label = true) :
    Undisturbed config label := by
  cases label with
  | call => trivial
  | step index choice =>
    show choice.fault = .none
    exact of_decide_eq_true checked
  | crash => cases checked
  | external event =>
    cases event with
    | elapse => trivial
    | terminate => cases checked

/-- Another process has the first key in its caches when this one rotates. -/
def resolveThenRotateElsewhere : List KeyLabel :=
  .call (.getActiveDek 1 none) :: onThread 0 (provisioning 1 2) ++
    .call (.rotateTenantKey 0 none) :: onThread 1 (rotating 3 4 ++ calmly 1)

/-- It goes on with the retired key. -/
theorem retired_key_resolved_elsewhere : ¬ ∀ env clock config,
    Reaches (gateways env) Undisturbed (freshGateways clock) config → ∀ rotation ∈ config.threads,
    ∀ process tenantId rotated, rotation.call = .rotateTenantKey process tenantId →
      rotation.answered (.ok (.resolved rotated)) → ∀ process' tenantId',
      resolveTenantKeyId tenantId' = resolveTenantKeyId tenantId → ∀ started,
      (gateways env).next config (.call (.getActiveDek process' tenantId')) = some started → ∀ final,
      Reaches (gateways env) Undisturbed started final → ∀ thread, final.threads[config.threads.length]? = some thread →
      ∀ resolved, thread.answered (.ok (.resolved resolved)) → rotated.keyVersion ≤ resolved.keyVersion := by
  intro claim
  have passed : ((gateways idealCipher).runChecked undisturbed resolveThenRotateElsewhere (freshGateways 0)).any
      (fun config => decide (config.threads.length = 2) &&
      decide (config.results[1]? = some (.rotateTenantKey 0 none,
        some (.ok (.resolved ⟨List.replicate dekLengthBytes 3, 2⟩)))) &&
      ((gateways idealCipher).next config (.call (.getActiveDek 1 none))).any fun started =>
        ((gateways idealCipher).runChecked undisturbed (onThread 2 (calmly 2)) started).any fun final =>
          decide (final.results[2]? = some (.getActiveDek 1 none,
            some (.ok (.resolved ⟨List.replicate dekLengthBytes 1, 1⟩))))) = true := by decide +kernel
  obtain ⟨config, before, checked⟩ := Reaches.of_checks undisturbed_sound passed
  simp only [Bool.and_eq_true, decide_eq_true_eq] at checked
  obtain ⟨⟨two, rotated⟩, rest⟩ := checked
  obtain ⟨started, starts, later⟩ := (Option.any_eq_true _ _).mp rest
  obtain ⟨final, reached, resolves⟩ := Reaches.of_checks undisturbed_sound later
  obtain ⟨rotation, found, rotates, ended⟩ := Config.of_results rotated
  obtain ⟨thread, found', _, answered⟩ := Config.of_results (of_decide_eq_true resolves)
  rw [← two] at found'
  have bound := claim idealCipher 0 config before rotation (List.mem_of_getElem? found) 0 none _
    rotates ended 1 none rfl
    started starts final reached thread found' _ answered
  exact absurd bound (by decide)

end GatewayProof
