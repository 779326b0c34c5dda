import AppGateway.Tenants.Locking
import Mathlib.Data.List.Induction

namespace GatewayProof

open Async GatewayModel
open Async.System (Disciplined Separated Reaches advance_cases)

def Told (rows : List TenantKeyRow) : KeyEvent → Prop
  | ⟨.selectActive tenantKeyId, .ok (some (keyVersion, wrappedDek))⟩ =>
    Persisted rows tenantKeyId keyVersion wrappedDek
  | ⟨.selectVersion tenantKeyId keyVersion, .ok (some wrappedDek)⟩ =>
    Persisted rows tenantKeyId keyVersion wrappedDek
  | ⟨.insertFirst tenantKeyId wrappedDek, .ok true⟩ => Persisted rows tenantKeyId 1 wrappedDek
  | ⟨.insertFirst tenantKeyId _, .ok false⟩ => ∃ wrappedDek, Persisted rows tenantKeyId 1 wrappedDek
  | ⟨.insertFirst _ _, .error thrown⟩ => thrown ≠ activeIndexViolation
  | ⟨.selectActiveIn _ tenantKeyId, .ok (some keyVersion)⟩ =>
    ∃ wrappedDek, Persisted rows tenantKeyId keyVersion wrappedDek
  | ⟨.randomBytes size, .ok bytes⟩ => bytes.length = size
  | _ => True

theorem Told.grow {before after : KeyState} {event : KeyEvent} (told : Told before.rows event)
    (growth : KeysGrow before after) : Told after.rows event := by
  unfold Told at told ⊢
  split at told
  · exact growth _ _ _ told
  · exact growth _ _ _ told
  · exact growth _ _ _ told
  · obtain ⟨wrappedDek, persisted⟩ := told
    exact ⟨wrappedDek, growth _ _ _ persisted⟩
  · exact told
  · obtain ⟨wrappedDek, persisted⟩ := told
    exact ⟨wrappedDek, growth _ _ _ persisted⟩
  · exact told
  · trivial

section Statements

variable {rows : List TenantKeyRow} {tenantKeyId : String} {keyVersion : Nat} {wrappedDek : Buffer}

theorem find_active_persisted {row : TenantKeyRow}
    (found : rows.find? (fun row => row.activeFor tenantKeyId) = some row) :
    Persisted rows tenantKeyId row.keyVersion row.wrappedDek := by
  have owned := List.find?_some found
  exact ⟨row, List.mem_of_find?_eq_some found, (activeFor_iff.mp owned).1, rfl, rfl⟩

theorem find_named_persisted {row : TenantKeyRow}
    (found : rows.find? (fun row => row.named tenantKeyId keyVersion) = some row) :
    Persisted rows tenantKeyId keyVersion row.wrappedDek := by
  have named := List.find?_some found
  obtain ⟨owned, version⟩ := named_iff.mp named
  exact ⟨row, List.mem_of_find?_eq_some found, owned, version, rfl⟩

theorem Chain.find_active {n : Nat} (chain : Chain rows tenantKeyId n)
    (persisted : Persisted rows tenantKeyId keyVersion wrappedDek) :
    ∃ row, rows.find? (fun row => row.activeFor tenantKeyId) = some row := by
  obtain ⟨row, member, owned, version, _⟩ := persisted
  have bounds := chain.bounds member owned
  obtain ⟨last, present, owned', version'⟩ := chain.exists_row (by omega) (Nat.le_refl n)
  have active : last.activeFor tenantKeyId = true :=
    activeFor_iff.mpr ⟨owned', (chain.active last present owned').mpr version'⟩
  exact Option.isSome_iff_exists.mp (List.find?_isSome.mpr ⟨last, present, active⟩)

theorem checkIndexes_primaryKey {view : List TenantKeyRow} {others : List KeyTransaction}
    (check : checkIndexes view others tenantKeyId keyVersion = .primaryKey) :
    ∃ wrappedDek, Persisted view tenantKeyId keyVersion wrappedDek := by
  unfold checkIndexes at check
  split at check
  · rename_i present
    obtain ⟨row, member, named⟩ := List.any_eq_true.mp present
    obtain ⟨owned, version⟩ := named_iff.mp named
    exact ⟨row.wrappedDek, row, member, owned, version, rfl⟩
  · split at check
    · cases check
    · split at check
      · split at check <;> cases check
      · cases check

theorem Chain.first_check {n : Nat} (chain : Chain rows tenantKeyId n) (others : List KeyTransaction) :
    checkIndexes rows others tenantKeyId 1 ≠ .activeIndex := by
  intro check
  unfold checkIndexes at check
  split at check
  · cases check
  rename_i absent
  split at check
  · cases check
  split at check
  · rename_i row found
    obtain ⟨_, member, owned, _, _⟩ := find_active_persisted found
    have bounds := chain.bounds member owned
    obtain ⟨first, present, owned', version⟩ := chain.exists_row (Nat.le_refl 1) (by omega)
    exact absent (List.any_eq_true.mpr ⟨first, present, named_iff.mpr ⟨owned', version⟩⟩)
  · cases check

theorem view_persisted {transaction : KeyTransaction} (empty : transaction.inserted = []) {row : TenantKeyRow}
    (viewed : row ∈ transaction.view rows) : Persisted rows row.tenantId row.keyVersion row.wrappedDek := by
  rw [KeyTransaction.view, empty, List.append_nil] at viewed
  obtain ⟨stored, member, rfl⟩ := List.mem_map.mp viewed
  exact ⟨stored, member, by simp, by simp, by simp⟩

end Statements

theorem told_error (rows : List TenantKeyRow) (effect : KeyEffect) {thrown : Thrown}
    (other : thrown ≠ activeIndexViolation) : Told rows ⟨effect, .error thrown⟩ := by
  cases effect with
  | insertFirst => exact other
  | _ => trivial

theorem respondKey_told {choice : KeyChoice} {before after : KeyState} {effect : KeyEffect}
    {reply : Except Thrown effect.Reply} (valid : KeysValid before)
    (empty : ∀ id tenantKeyId transaction, effect = .selectActiveIn id tenantKeyId →
      before.transaction id = some transaction → transaction.inserted = [])
    (responded : respondKey choice before effect = some (reply, after)) : Told after.rows ⟨effect, reply⟩ := by
  cases effect with
  | activeVersionGet | activeVersionSet | dekGet | dekSet | dateNow | begin | rollback | retireIn | insertIn |
    commit => trivial
  | randomBytes size =>
    simp only [respondKey] at responded
    split at responded
    · rename_i drawn
      cases responded
      exact drawn.1
    · cases responded
  | selectActive tenantKeyId =>
    cases responded
    cases found : before.rows.find? fun row => row.activeFor tenantKeyId with
    | none => trivial
    | some row => exact find_active_persisted found
  | selectVersion tenantKeyId keyVersion =>
    cases responded
    cases found : before.rows.find? fun row => row.named tenantKeyId keyVersion with
    | none => trivial
    | some row => exact find_named_persisted found
  | insertFirst tenantKeyId wrappedDek =>
    simp only [respondKey] at responded
    split at responded
    · cases responded
    · rename_i present
      cases responded
      exact checkIndexes_primaryKey present
    · rename_i taken
      obtain ⟨n, chain⟩ := valid.chain tenantKeyId
      exact absurd taken (chain.first_check _)
    · cases responded
      exact ⟨activeRow tenantKeyId 1 wrappedDek, List.mem_append_right _ (List.mem_singleton_self _), rfl, rfl, rfl⟩
  | selectActiveIn id tenantKeyId =>
    simp only [respondKey] at responded
    split at responded
    · cases responded
      trivial
    rename_i transaction found
    cases responded
    have clean := empty id tenantKeyId transaction rfl found
    cases highest : (((transaction.view before.rows).filter fun row => row.activeFor tenantKeyId).map
        (·.keyVersion)).max? with
    | none => trivial
    | some keyVersion =>
      obtain ⟨row, member, version⟩ := List.mem_map.mp (List.max?_mem highest)
      obtain ⟨viewed, active⟩ := List.mem_filter.mp member
      have persisted := view_persisted clean viewed
      rw [(activeFor_iff.mp active).1, version] at persisted
      exact ⟨row.wrappedDek, persisted⟩

theorem execKey_told {choice : KeyChoice} {before after : KeyState} {effect : KeyEffect}
    {reply : Except Thrown effect.Reply} (valid : KeysValid before)
    (empty : ∀ id tenantKeyId transaction, effect = .selectActiveIn id tenantKeyId →
      before.transaction id = some transaction → transaction.inserted = [])
    (executed : execKey effect choice before = some (reply, after)) : Told after.rows ⟨effect, reply⟩ := by
  unfold execKey at executed
  split at executed
  · exact respondKey_told valid empty executed
  · split at executed
    · cases executed
    · cases executed
      exact told_error _ effect nofun
  · split at executed
    · cases executed
    · obtain ⟨⟨reply', after'⟩, _, same⟩ := Option.map_eq_some_iff.mp executed
      cases same
      exact told_error _ effect nofun

section Ownership

variable {before after : KeyState} {effect : KeyEffect} {id : Nat}

theorem transaction_others_self (state : KeyState) (id : Nat) (transactions : after.transactions = state.others id) :
    after.transaction id = none := by
  rw [KeyState.transaction, transactions, List.find?_eq_none]
  intro transaction member
  simpa using (mem_others.mp member).2

theorem find_others (state : KeyState) {other : Nat} (differs : id ≠ other) :
    ((state.others other).find? fun transaction => transaction.id = id) = state.transaction id := by
  rw [KeyState.others, List.find?_filter]
  refine congrArg (List.find? · state.transactions) ?_
  funext transaction
  by_cases same : transaction.id = id
  · simp [same, differs]
  · simp [same]

theorem transaction_others (state : KeyState) {other : Nat} (differs : id ≠ other)
    (transactions : after.transactions = state.others other) : after.transaction id = state.transaction id := by
  rw [KeyState.transaction, transactions]
  exact find_others state differs

theorem transaction_cons_self {transaction : KeyTransaction} {rest : List KeyTransaction} (own : transaction.id = id)
    (transactions : after.transactions = transaction :: rest) : after.transaction id = some transaction := by
  rw [KeyState.transaction, transactions, List.find?_cons_of_pos (by simpa using own)]

theorem transaction_cons {transaction : KeyTransaction} {other : Nat} (own : transaction.id = other)
    (differs : other ≠ id) (transactions : after.transactions = transaction :: before.others other) :
    after.transaction id = before.transaction id := by
  rw [KeyState.transaction, transactions, List.find?_cons_of_neg (by simpa [own] using differs)]
  exact find_others before (Ne.symm differs)

def WritesIn (id : Nat) : KeyEffect → Prop
  | .retireIn other .. | .insertIn other .. => other = id
  | _ => False

theorem KeyStep.frame (step : KeyStep before after effect) (older : id < before.nextTransaction)
    (elsewhere : ¬ WritesIn id effect) :
    after.transaction id = before.transaction id ∨ after.transaction id = none := by
  cases step with
  | keep _ transactions | first _ _ _ _ transactions =>
    rw [KeyState.transaction, transactions]
    exact .inl rfl
  | abort other _ transactions | @commit other _ _ _ transactions =>
    by_cases same : id = other
    · subst same
      exact .inr (transaction_others_self _ _ transactions)
    · exact .inl (transaction_others _ same transactions)
  | begin _ transactions =>
    rw [KeyState.transaction, transactions, List.find?_cons_of_neg (by simpa using Nat.ne_of_gt older)]
    exact .inl rfl
  | @retire other transaction tenantKeyId keyVersion retiredAt found _ _ transactions =>
    have own : (transaction.retire tenantKeyId keyVersion retiredAt).id = other := (transaction_found found).2
    exact .inl (transaction_cons own elsewhere transactions)
  | @insert other transaction tenantKeyId keyVersion wrappedDek found _ _ transactions =>
    have own : (transaction.insert (activeRow tenantKeyId keyVersion wrappedDek)).id = other :=
      (transaction_found found).2
    exact .inl (transaction_cons own elsewhere transactions)

theorem KeyStep.next_le (step : KeyStep before after effect) : before.nextTransaction ≤ after.nextTransaction := by
  cases step <;> omega

end Ownership

/-- What is known of a call: it keeps to its rules, its events still tell the truth, and the transaction
    it has begun holds what it has written. -/
structure Ledger (env : CryptoEnv) (state : KeyState) (thread : KeyThread) : Prop where
  disciplined : Disciplined (KeyPermits env) (KeyEnds env) thread
  told : ∀ event ∈ thread.past, Told state.rows event
  known : ∀ id, Began thread.past id → id < state.nextTransaction
  tied : ∀ id transaction, Began thread.past id → Clean thread.past → state.transaction id = some transaction →
    transaction = written id thread.past
  committed : ∀ before after id tenantKeyId keyVersion wrappedDek,
    thread.past = before ++ ⟨.commit id, .ok ()⟩ :: after →
    ⟨.insertIn id tenantKeyId keyVersion wrappedDek, .ok ()⟩ ∈ before →
    Persisted state.rows tenantKeyId keyVersion wrappedDek
  provisioned : ∀ before after tenantKeyId wrappedDek,
    thread.past = before ++ ⟨.selectActive tenantKeyId, .ok none⟩ :: after →
    ⟨.insertFirst tenantKeyId wrappedDek, .ok false⟩ ∉ before

def NoSharedTransaction (first second : KeyThread) : Prop := ∀ id, Began first.past id → ¬ Began second.past id

section Histories

variable {past : List KeyEvent} {event : KeyEvent} {id : Nat}

theorem began_snoc (began : Began (past ++ [event]) id) :
    past = [] ∧ event = ⟨.begin, .ok id⟩ ∨ Began past id := by
  cases past with
  | nil => exact .inl ⟨rfl, Option.some.inj began⟩
  | cons first rest => exact .inr began

theorem Began.unique {other : Nat} (began : Began past id) (began' : Began past other) : id = other := by
  have same : (⟨.begin, .ok id⟩ : KeyEvent) = ⟨.begin, .ok other⟩ := Option.some.inj (began.symm.trans began')
  cases same
  rfl

theorem split_snoc {before after : List KeyEvent} {other : KeyEvent}
    (split : past ++ [event] = before ++ other :: after) :
    (∃ rest, past = before ++ other :: rest) ∨ before = past ∧ other = event := by
  rcases List.eq_nil_or_concat after with rfl | ⟨front, last, rfl⟩
  · obtain ⟨rfl, same⟩ := List.append_inj' split rfl
    exact .inr ⟨rfl, (List.cons.inj same).1.symm⟩
  · rw [List.concat_eq_append, ← List.cons_append, ← List.append_assoc] at split
    exact .inl ⟨front, (List.append_inj' split rfl).1⟩

theorem written_snoc : written id (past ++ [event]) = KeyTransaction.after (written id past) event := by
  rw [written_append]
  rfl

theorem written_inserted {tenantKeyId : String} {keyVersion : Nat} {wrappedDek : Buffer}
    (inserted : ⟨.insertIn id tenantKeyId keyVersion wrappedDek, .ok ()⟩ ∈ past) :
    Persisted (written id past).inserted tenantKeyId keyVersion wrappedDek := by
  induction past using List.reverseRecOn with
  | nil => cases inserted
  | append_singleton past event ih =>
    rw [written_snoc]
    rcases List.mem_append.mp inserted with earlier | last
    · obtain ⟨row, member, found⟩ := ih earlier
      unfold KeyTransaction.after
      split
      · refine ⟨_, List.mem_map_of_mem member, ?_⟩
        simpa using found
      · exact ⟨row, List.mem_append_left _ member, found⟩
      · exact ⟨row, member, found⟩
    · rw [← List.mem_singleton.mp last]
      exact ⟨_, List.mem_append_right _ (List.mem_singleton_self _), rfl, rfl, rfl⟩

end Histories

namespace Ledger

variable {env : CryptoEnv} {state later : KeyState} {thread : KeyThread} {effect : KeyEffect} {choice : KeyChoice}
  {reply : Except Thrown effect.Reply}

theorem grounded (ledger : Ledger env state thread) (permitted : KeyPermits env thread.call thread.past effect) :
    Grounded state effect := by
  cases effect with
  | insertIn id tenantKeyId keyVersion wrappedDek =>
    obtain ⟨_, _, _, active, read, version⟩ := permitted
    refine ⟨by omega, fun some => ?_⟩
    cases active with
    | none => simp only [Option.getD_none] at version; omega
    | some last =>
      obtain ⟨_, row, member, owned, same, _⟩ := ledger.told _ read
      exact ⟨row, member, owned, by rw [same, version]; rfl⟩
  | commit id =>
    obtain ⟨began, clean, complete⟩ := permitted
    intro transaction found
    rw [ledger.tied id transaction began clean found]
    exact ⟨_, complete⟩
  | _ => trivial

theorem fresh_transaction (ledger : Ledger env state thread)
    (permitted : KeyPermits env thread.call thread.past effect) {id : Nat} {tenantKeyId : String}
    {transaction : KeyTransaction} (reads : effect = .selectActiveIn id tenantKeyId)
    (found : state.transaction id = some transaction) : transaction.inserted = [] := by
  subst reads
  have past : thread.past = [⟨.begin, .ok id⟩] := permitted.2
  have began : Began thread.past id := by rw [past]; rfl
  have clean : Clean thread.past := by rw [past]; simp [Clean, Except.isOk, Except.toBool]
  rw [ledger.tied id transaction began clean found, past]
  rfl

theorem tied_step (ledger : Ledger env state thread) (permitted : KeyPermits env thread.call thread.past effect)
    (executed : execKey effect choice state = some (reply, later)) {id : Nat} {transaction : KeyTransaction}
    (began : Began (thread.past ++ [⟨effect, reply⟩]) id) (clean : Clean (thread.past ++ [⟨effect, reply⟩]))
    (found : later.transaction id = some transaction) :
    transaction = written id (thread.past ++ [⟨effect, reply⟩]) := by
  have earlier : Clean thread.past := fun event member => clean event (List.mem_append_left _ member)
  have returned : reply.isOk = true := clean ⟨effect, reply⟩ (by simp)
  cases reply with
  | error thrown => cases returned
  | ok value =>
  have responded := execKey_ok executed
  rcases began_snoc began with ⟨first, begins⟩ | already
  · cases begins
    cases responded
    have fresh := found.symm.trans (transaction_cons_self rfl rfl)
    rw [first, Option.some.inj fresh]
    rfl
  have older : id < state.nextTransaction := ledger.known id already
  rw [written_snoc]
  cases effect with
  | retireIn other tenantKeyId keyVersion retiredAt =>
    obtain ⟨_, began', read⟩ := permitted
    obtain rfl : other = id := began'.unique already
    simp only [respondKey] at responded
    split at responded
    · cases responded
    rename_i before was
    have same := ledger.tied _ before already earlier was
    have own := (transaction_found was).2
    split at responded
    · cases responded
    split at responded
    · cases responded
      have put : (before.retire tenantKeyId keyVersion retiredAt).id = other := own
      rw [transaction_cons_self put rfl] at found
      rw [← Option.some.inj found, same]
      rfl
    · -- the row that the transaction has read is there to be retired
      rename_i absent
      obtain ⟨_, row, member, owned, version, _⟩ := ledger.told _ read
      refine absurd (List.any_eq_true.mpr ⟨row.retireAll before.retired, ?_, ?_⟩) absent
      · exact List.mem_append_left _ (List.mem_map_of_mem member)
      · simpa using And.intro owned version
  | insertIn other tenantKeyId keyVersion wrappedDek =>
    obtain ⟨_, began', _⟩ := permitted
    obtain rfl : other = id := began'.unique already
    simp only [respondKey] at responded
    split at responded
    · cases responded
    rename_i before was
    have same := ledger.tied _ before already earlier was
    have own := (transaction_found was).2
    split at responded
    · cases responded
    · cases responded
    · cases responded
    · cases responded
      have put : (before.insert (activeRow tenantKeyId keyVersion wrappedDek)).id = other := own
      rw [transaction_cons_self put rfl] at found
      rw [← Option.some.inj found, same]
      rfl
  | _ =>
    rcases (execKey_step executed).frame older (fun writes => by cases writes) with same | gone
    · exact ledger.tied id transaction already earlier (same.symm.trans found)
    · rw [gone] at found
      cases found

theorem committed_step (ledger : Ledger env state thread) (permitted : KeyPermits env thread.call thread.past effect)
    (executed : execKey effect choice state = some (reply, later)) {before after : List KeyEvent} {id : Nat}
    {tenantKeyId : String} {keyVersion : Nat} {wrappedDek : Buffer}
    (split : thread.past ++ [⟨effect, reply⟩] = before ++ ⟨.commit id, .ok ()⟩ :: after)
    (inserted : ⟨.insertIn id tenantKeyId keyVersion wrappedDek, .ok ()⟩ ∈ before) :
    Persisted later.rows tenantKeyId keyVersion wrappedDek := by
  rcases split_snoc split with ⟨rest, earlier⟩ | ⟨rfl, last⟩
  · exact (execKey_step executed).grow _ _ _ (ledger.committed _ _ _ _ _ _ earlier inserted)
  cases last
  obtain ⟨began, clean, _⟩ := permitted
  have responded := execKey_ok executed
  simp only [respondKey] at responded
  split at responded
  · cases responded
  rename_i transaction found
  cases responded
  have same := ledger.tied id transaction began clean found
  obtain ⟨row, member, held⟩ := written_inserted inserted
  rw [← same] at member
  exact ⟨row, List.mem_append_right _ member, held⟩

theorem provisioned_step (ledger : Ledger env state thread) (valid : KeysValid state)
    (executed : execKey effect choice state = some (reply, later)) {before after : List KeyEvent}
    {tenantKeyId : String} {wrappedDek : Buffer}
    (split : thread.past ++ [⟨effect, reply⟩] = before ++ ⟨.selectActive tenantKeyId, .ok none⟩ :: after) :
    ⟨.insertFirst tenantKeyId wrappedDek, .ok false⟩ ∉ before := by
  rcases split_snoc split with ⟨rest, earlier⟩ | ⟨rfl, last⟩
  · exact ledger.provisioned _ _ _ _ earlier
  cases last
  intro lost
  obtain ⟨_, persisted⟩ := ledger.told _ lost
  obtain ⟨n, chain⟩ := valid.chain tenantKeyId
  obtain ⟨row, active⟩ := chain.find_active persisted
  have responded := execKey_ok executed
  simp [respondKey, active] at responded

theorem frame (ledger : Ledger env state thread) (step : KeyStep state later effect)
    (elsewhere : ∀ id, Began thread.past id → ¬ WritesIn id effect) : Ledger env later thread where
  disciplined := ledger.disciplined
  told := fun event member => (ledger.told event member).grow step.grow
  known := fun id began => Nat.lt_of_lt_of_le (ledger.known id began) step.next_le
  tied := by
    intro id transaction began clean found
    rcases step.frame (ledger.known id began) (elsewhere id began) with same | gone
    · exact ledger.tied id transaction began clean (same.symm.trans found)
    · rw [gone] at found
      cases found
  committed := fun _ _ _ _ _ _ split inserted => step.grow _ _ _ (ledger.committed _ _ _ _ _ _ split inserted)
  provisioned := ledger.provisioned

theorem writesIn_began {call : KeyCall} {past : List KeyEvent} (permitted : KeyPermits env call past effect) {id : Nat}
    (writes : WritesIn id effect) : Began past id := by
  cases effect with
  | retireIn | insertIn =>
    obtain rfl := writes
    exact permitted.2.1
  | _ => cases writes

theorem start (env : CryptoEnv) (state : KeyState) (call : KeyCall) :
    Ledger env state (Thread.start (gateways env) call) where
  disciplined := .of_code (keyCall_obeys env call)
  told := by simp [Thread.start]
  known := nofun
  tied := nofun
  committed := by simp [Thread.start]
  provisioned := by simp [Thread.start]

theorem own_step (ledger : Ledger env state thread) (valid : KeysValid state) {moved : KeyThread}
    (advanced : (gateways env).advance choice state thread = some (moved, later)) : Ledger env later moved := by
  obtain ⟨effect, resume, reply, _, program, executed, rfl⟩ := advance_cases advanced
  have permitted := ledger.disciplined.permitted program
  have step : KeyStep state later effect := execKey_step executed
  refine ⟨ledger.disciplined.advance advanced, ?_, ?_, ?_, ?_, ?_⟩
  · intro event member
    rcases List.mem_append.mp member with earlier | last
    · exact (ledger.told event earlier).grow step.grow
    · rw [List.mem_singleton.mp last]
      exact execKey_told valid (fun _ _ _ reads found => ledger.fresh_transaction permitted reads found) executed
  · intro id began
    rcases began_snoc began with ⟨_, begins⟩ | already
    · cases begins
      cases execKey_ok executed
      exact Nat.lt_succ_self _
    · exact Nat.lt_of_lt_of_le (ledger.known id already) step.next_le
  · intro id transaction began clean found
    exact ledger.tied_step permitted executed began clean found
  · intro before after id tenantKeyId keyVersion wrappedDek split inserted
    exact ledger.committed_step permitted executed split inserted
  · intro before after tenantKeyId wrappedDek split
    exact ledger.provisioned_step valid executed split

end Ledger

theorem keys_separated (env : CryptoEnv) :
    Separated (gateways env) (fun _ _ => True) KeysValid (Ledger env) NoSharedTransaction where
  symm := fun _ _ apart id began began' => apart id began' began
  call := fun state call _ => ⟨.start env state call, fun _ _ _ => nofun⟩
  step := by
    intro choice state thread moved later _ valid ledger advanced
    obtain ⟨effect, resume, reply, _, program, executed, same⟩ := advance_cases advanced
    have permitted := ledger.disciplined.permitted program
    have step : KeyStep state later effect := execKey_step executed
    refine ⟨valid.step step (ledger.grounded permitted), ledger.own_step valid advanced, fun other known apart => ?_⟩
    have elsewhere : ∀ id, Began other.past id → ¬ WritesIn id effect := fun id began writes =>
      apart id (Ledger.writesIn_began permitted writes) began
    refine ⟨known.frame step elsewhere, fun id began already => ?_⟩
    rw [same] at began
    rcases began_snoc began with ⟨_, begins⟩ | began
    · cases begins
      cases execKey_ok executed
      exact absurd (known.known _ already) (Nat.lt_irrefl _)
    · exact apart id began already
  external := by
    intro event state valid
    have step : KeyStep state (externalKey event state) .dateNow := externalKey_step event state .dateNow
    exact ⟨valid.step step trivial, fun thread ledger => ledger.frame step fun _ _ => nofun⟩
  crash := fun state thread ledger => ⟨⟨ledger.disciplined, ledger.told, ledger.known, ledger.tied, ledger.committed,
    ledger.provisioned⟩, fun _ apart => apart⟩

def freshGateways (clock : Nat) : KeyConfig := { state := freshKeys clock, threads := [] }

abbrev KeysHold (env : CryptoEnv) : KeyConfig → Prop := Separated.Holds KeysValid (Ledger env) NoSharedTransaction

theorem keysHold_fresh (env : CryptoEnv) (clock : Nat) : KeysHold env (freshGateways clock) :=
  .initial ⟨fun _ => ⟨0, .nil⟩, nofun, nofun, nofun, nofun⟩ rfl

theorem keysHold_run {env : CryptoEnv} {clock : Nat} {allowed : KeyConfig → KeyLabel → Prop} {config : KeyConfig}
    (reached : Reaches (gateways env) allowed (freshGateways clock) config) : KeysHold env config :=
  (keys_separated env).run (fun _ _ _ _ _ _ _ _ => trivial) reached (keysHold_fresh env clock)

theorem keysGrow_run {env : CryptoEnv} {allowed : KeyConfig → KeyLabel → Prop} {config later : KeyConfig}
    (reached : Reaches (gateways env) allowed config later) : KeysGrow config.state later.state := by
  refine Reaches.monotone ?_ ?_ ?_ ?_ reached
  · exact fun _ _ _ _ persisted => persisted
  · exact fun _ _ _ first second _ _ _ persisted => second _ _ _ (first _ _ _ persisted)
  · exact fun _ _ _ _ _ executed => (execKey_step executed).grow
  · exact fun event state => (externalKey_step event state .dateNow).grow

end GatewayProof
