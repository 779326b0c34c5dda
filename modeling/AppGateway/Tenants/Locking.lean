import AppGateway.Tenants.KeyTable

namespace GatewayProof

open Async GatewayModel

/-- Everything an effect can do to the table and to the open transactions. -/
inductive KeyStep (before after : KeyState) : KeyEffect → Prop where
  | keep {effect : KeyEffect} (rows : after.rows = before.rows)
    (transactions : after.transactions = before.transactions)
      (next : after.nextTransaction = before.nextTransaction) : KeyStep before after effect
  | abort {effect : KeyEffect} (id : Nat) (rows : after.rows = before.rows)
      (transactions : after.transactions = before.others id)
      (next : after.nextTransaction = before.nextTransaction) : KeyStep before after effect
  | first (tenantKeyId : String) (wrappedDek : Buffer)
      (fits : checkIndexes before.rows before.transactions tenantKeyId 1 = .fits)
      (rows : after.rows = before.rows ++ [activeRow tenantKeyId 1 wrappedDek])
      (transactions : after.transactions = before.transactions)
      (next : after.nextTransaction = before.nextTransaction) :
      KeyStep before after (.insertFirst tenantKeyId wrappedDek)
  | begin (rows : after.rows = before.rows)
      (transactions : after.transactions = { id := before.nextTransaction, retired := [], inserted := [] } ::
        before.transactions)
      (next : after.nextTransaction = before.nextTransaction + 1) : KeyStep before after .begin
  | retire {id : Nat} {transaction : KeyTransaction} (tenantKeyId : String) (keyVersion retiredAt : Nat)
      (found : before.transaction id = some transaction)
      (free : ∀ other ∈ before.others id, other.retires tenantKeyId keyVersion = false)
      (rows : after.rows = before.rows)
      (transactions : after.transactions = transaction.retire tenantKeyId keyVersion retiredAt :: before.others id)
      (next : after.nextTransaction = before.nextTransaction) :
      KeyStep before after (.retireIn id tenantKeyId keyVersion retiredAt)
  | insert {id : Nat} {transaction : KeyTransaction} (tenantKeyId : String) (keyVersion : Nat) (wrappedDek : Buffer)
      (found : before.transaction id = some transaction)
      (fits : checkIndexes (transaction.view before.rows) (before.others id) tenantKeyId keyVersion = .fits)
      (rows : after.rows = before.rows)
      (transactions : after.transactions =
        transaction.insert (activeRow tenantKeyId keyVersion wrappedDek) :: before.others id)
      (next : after.nextTransaction = before.nextTransaction) :
      KeyStep before after (.insertIn id tenantKeyId keyVersion wrappedDek)
  | commit {id : Nat} {transaction : KeyTransaction} (found : before.transaction id = some transaction)
      (rows : after.rows = transaction.view before.rows) (transactions : after.transactions = before.others id)
      (next : after.nextTransaction = before.nextTransaction) : KeyStep before after (.commit id)

section Execution

variable {choice : KeyChoice} {before after : KeyState} {effect : KeyEffect}

theorem transaction_found {id : Nat} {transaction : KeyTransaction}
    (found : before.transaction id = some transaction) : transaction ∈ before.transactions ∧ transaction.id = id :=
  ⟨List.mem_of_find?_eq_some found, by simpa using List.find?_some found⟩

theorem respondKey_step {reply : Except Thrown effect.Reply}
    (responded : respondKey choice before effect = some (reply, after)) : KeyStep before after effect := by
  cases effect with
  | activeVersionGet | activeVersionSet | dekGet | dekSet | dateNow | selectActive | selectVersion =>
    cases responded
    exact .keep rfl rfl rfl
  | randomBytes size =>
    simp only [respondKey] at responded
    split at responded
    · cases responded
      exact .keep rfl rfl rfl
    · cases responded
  | insertFirst tenantKeyId wrappedDek =>
    simp only [respondKey] at responded
    split at responded
    · cases responded
    · cases responded
      exact .keep rfl rfl rfl
    · cases responded
      exact .keep rfl rfl rfl
    · rename_i fits
      cases responded
      exact .first tenantKeyId wrappedDek fits rfl rfl rfl
  | begin =>
    cases responded
    exact .begin rfl rfl rfl
  | selectActiveIn id tenantKeyId =>
    simp only [respondKey] at responded
    split at responded <;> cases responded <;> exact .keep rfl rfl rfl
  | retireIn id tenantKeyId keyVersion retiredAt =>
    simp only [respondKey] at responded
    split at responded
    · cases responded
      exact .keep rfl rfl rfl
    rename_i transaction found
    split at responded
    · cases responded
    rename_i free
    split at responded
    · cases responded
      have own : (transaction.retire tenantKeyId keyVersion retiredAt).id = id := (transaction_found found).2
      refine .retire tenantKeyId keyVersion retiredAt found (by simpa using free) rfl ?_ rfl
      rw [KeyState.put, own]
    · cases responded
      exact .keep rfl rfl rfl
  | insertIn id tenantKeyId keyVersion wrappedDek =>
    simp only [respondKey] at responded
    split at responded
    · cases responded
      exact .keep rfl rfl rfl
    rename_i transaction found
    split at responded
    · cases responded
    · cases responded
      exact .abort id rfl rfl rfl
    · cases responded
      exact .abort id rfl rfl rfl
    · rename_i fits
      cases responded
      have own : (transaction.insert (activeRow tenantKeyId keyVersion wrappedDek)).id = id :=
        (transaction_found found).2
      refine .insert tenantKeyId keyVersion wrappedDek found fits rfl ?_ rfl
      rw [KeyState.put, own]
  | commit id =>
    simp only [respondKey] at responded
    split at responded
    · cases responded
      exact .keep rfl rfl rfl
    · rename_i transaction found
      cases responded
      exact .commit found rfl rfl rfl
  | rollback id =>
    cases responded
    exact .abort id rfl rfl rfl

theorem execKey_step {reply : Except Thrown effect.Reply}
    (executed : execKey effect choice before = some (reply, after)) : KeyStep before after effect := by
  unfold execKey at executed
  split at executed
  · exact respondKey_step executed
  · split at executed
    · cases executed
    · cases executed
      split
      · rename_i id _
        exact .abort id rfl rfl rfl
      · exact .keep rfl rfl rfl
  · split at executed
    · cases executed
    · obtain ⟨⟨reply', after'⟩, responded, same⟩ := Option.map_eq_some_iff.mp executed
      cases same
      exact respondKey_step responded

theorem execKey_ok {value : effect.Reply} (executed : execKey effect choice before = some (.ok value, after)) :
    respondKey choice before effect = some (.ok value, after) := by
  unfold execKey at executed
  split at executed
  · exact executed
  · split at executed <;> cases executed
  · split at executed
    · cases executed
    · obtain ⟨_, _, same⟩ := Option.map_eq_some_iff.mp executed
      cases same

theorem externalKey_step (event : KeyExternal) (state : KeyState) (effect : KeyEffect) :
    KeyStep state (externalKey event state) effect := by
  cases event with
  | elapse ms => exact .keep rfl rfl rfl
  | terminate id => exact .abort id rfl rfl rfl

end Execution

theorem checkIndexes_fits {view : List TenantKeyRow} {others : List KeyTransaction} {tenantKeyId : String}
    {keyVersion : Nat} (fits : checkIndexes view others tenantKeyId keyVersion = .fits) :
    (∀ row ∈ view, row.tenantId = tenantKeyId → row.keyVersion ≠ keyVersion ∧ row.status ≠ .active) ∧
    ∀ other ∈ others, ∀ row ∈ other.inserted, row.tenantId = tenantKeyId → row.status ≠ .active := by
  unfold checkIndexes at fits
  split at fits
  · cases fits
  rename_i absent
  split at fits
  · cases fits
  rename_i alone
  split at fits
  · split at fits <;> cases fits
  rename_i inactive
  simp only [List.any_eq_true, not_exists, not_and, named_iff] at absent
  simp only [List.any_eq_true, not_exists, not_and, Bool.or_eq_true, not_or, named_iff, activeFor_iff] at alone
  simp only [List.find?_eq_none, activeFor_iff, not_and] at inactive
  exact ⟨fun row member owned => ⟨absent row member owned, inactive row member owned⟩,
    fun other present row member owned => (alone other present row member).2 owned⟩

/-- The locks and the unique indexes at work: what holds of the table and of the open transactions. -/
structure KeysValid (state : KeyState) : Prop where
  chain : ∀ tenantKeyId, ∃ n, Chain state.rows tenantKeyId n
  fresh : ∀ transaction ∈ state.transactions, transaction.id < state.nextTransaction
  locks : ∀ first ∈ state.transactions, ∀ second ∈ state.transactions, first.id ≠ second.id →
    ∀ tenantKeyId keyVersion, first.retires tenantKeyId keyVersion = true →
      second.retires tenantKeyId keyVersion = false
  alone : ∀ first ∈ state.transactions, ∀ second ∈ state.transactions, first.id ≠ second.id →
    ∀ row ∈ first.inserted, row.status = .active → ∀ other ∈ second.inserted, other.tenantId = row.tenantId →
      other.status ≠ .active
  pending : ∀ transaction ∈ state.transactions, ∀ row ∈ transaction.inserted, row.status = .active →
    ∀ n, Chain state.rows row.tenantId n → row.keyVersion = n + 1 ∧
      (0 < n → transaction.retires row.tenantId n = true)

def KeysGrow (before after : KeyState) : Prop := ∀ tenantKeyId keyVersion wrappedDek,
  Persisted before.rows tenantKeyId keyVersion wrappedDek → Persisted after.rows tenantKeyId keyVersion wrappedDek

/-- What is known of an effect when it is executed: an INSERT follows a version the table has, and a
    COMMIT ends a whole rotation. -/
def Grounded (state : KeyState) : KeyEffect → Prop
  | .insertIn _ tenantKeyId keyVersion _ => 1 ≤ keyVersion ∧
      (1 < keyVersion → ∃ row ∈ state.rows, row.tenantId = tenantKeyId ∧ row.keyVersion = keyVersion - 1)
  | .commit id => ∀ transaction, state.transaction id = some transaction →
      ∃ tenantKeyId, Complete transaction tenantKeyId
  | _ => True

theorem mem_others {state : KeyState} {id : Nat} {transaction : KeyTransaction} :
    transaction ∈ state.others id ↔ transaction ∈ state.transactions ∧ transaction.id ≠ id := by
  simp [KeyState.others]

theorem KeyStep.grow {before after : KeyState} {effect : KeyEffect} (step : KeyStep before after effect) :
    KeysGrow before after := by
  intro tenantKeyId keyVersion wrappedDek persisted
  cases step with
  | keep rows | abort _ rows | begin rows | retire _ _ _ _ _ rows | insert _ _ _ _ _ rows => rw [rows]; exact persisted
  | first _ _ _ rows => rw [rows]; exact persisted.append _
  | commit _ rows => rw [rows]; exact (persisted_retireAll persisted _).append _

section Transactions

variable {transaction other : KeyTransaction} {tenantKeyId : String} {keyVersion : Nat}

theorem retire_retires (retiredAt : Nat) {tenantKeyId' : String} {keyVersion' : Nat} :
    (transaction.retire tenantKeyId keyVersion retiredAt).retires tenantKeyId' keyVersion' = true ↔
      transaction.retires tenantKeyId' keyVersion' = true ∨ tenantKeyId = tenantKeyId' ∧ keyVersion = keyVersion' := by
  simp [KeyTransaction.retires, KeyTransaction.retire]

theorem retire_inserted {retiredAt : Nat} {row : TenantKeyRow}
    (member : row ∈ (transaction.retire tenantKeyId keyVersion retiredAt).inserted) (active : row.status = .active) :
    row ∈ transaction.inserted := by
  obtain ⟨old, present, rfl⟩ := List.mem_map.mp member
  have same : old.retire tenantKeyId keyVersion retiredAt = old := by
    rw [retire_status] at active
    by_cases here : old.named tenantKeyId keyVersion = true
    · rw [if_pos here] at active
      cases active
    · exact if_neg here
  rw [same]
  exact present

theorem view_elsewhere (rows : List TenantKeyRow) {wrappedDek : Buffer}
    (inserted : transaction.inserted = [activeRow tenantKeyId keyVersion wrappedDek])
    (retired : ∀ write ∈ transaction.retired, write.1 = tenantKeyId) {owner : String} (differs : owner ≠ tenantKeyId) :
    (transaction.view rows).filter (fun row => row.tenantId = owner) = rows.filter fun row => row.tenantId = owner := by
  have tail : (transaction.inserted.filter fun row => row.tenantId = owner) = [] := by
    simp [inserted, activeRow, Ne.symm differs]
  unfold KeyTransaction.view
  rw [List.filter_append, tail, List.append_nil]
  induction rows with
  | nil => rfl
  | cons row rows ih =>
    rw [List.map_cons, List.filter_cons, List.filter_cons, ih, retireAll_tenantId]
    by_cases owned : row.tenantId = owner
    · have same : row.retireAll transaction.retired = row := by
        apply retireAll_elsewhere
        intro write member
        rw [retired write member, owned]
        exact Ne.symm differs
      rw [same]
    · simp [owned]

end Transactions

namespace KeysValid

variable {before after : KeyState}

theorem shrink (valid : KeysValid before) (rows : after.rows = before.rows)
    (fewer : ∀ transaction ∈ after.transactions, transaction ∈ before.transactions)
    (next : after.nextTransaction = before.nextTransaction) : KeysValid after where
  chain := by
    rw [rows]
    exact valid.chain
  fresh := by
    rw [next]
    exact fun transaction member => valid.fresh transaction (fewer _ member)
  locks := fun first member second member' => valid.locks first (fewer _ member) second (fewer _ member')
  alone := fun first member second member' => valid.alone first (fewer _ member) second (fewer _ member')
  pending := by
    rw [rows]
    exact fun transaction member => valid.pending transaction (fewer _ member)

theorem begin (valid : KeysValid before) (rows : after.rows = before.rows)
    (transactions : after.transactions = { id := before.nextTransaction, retired := [], inserted := [] } ::
      before.transactions)
    (next : after.nextTransaction = before.nextTransaction + 1) : KeysValid after := by
  have cases : ∀ transaction ∈ after.transactions,
      transaction = { id := before.nextTransaction, retired := [], inserted := [] } ∨
        transaction ∈ before.transactions := by
    rw [transactions]
    exact fun transaction member => List.mem_cons.mp member
  refine ⟨rows ▸ valid.chain, ?_, ?_, ?_, ?_⟩
  · intro transaction member
    rw [next]
    rcases cases transaction member with rfl | old
    · exact Nat.lt_succ_self _
    · exact Nat.lt_succ_of_lt (valid.fresh transaction old)
  · intro first member second member' differs tenantKeyId keyVersion held
    rcases cases first member with rfl | old
    · cases held
    rcases cases second member' with rfl | old'
    · rfl
    · exact valid.locks first old second old' differs tenantKeyId keyVersion held
  · intro first member second member' differs row inserted active
    rcases cases first member with rfl | old
    · cases inserted
    rcases cases second member' with rfl | old'
    · exact nofun
    · exact valid.alone first old second old' differs row inserted active
  · intro transaction member row inserted
    rcases cases transaction member with rfl | old
    · cases inserted
    · rw [rows]
      exact valid.pending transaction old row inserted

theorem replace (valid : KeysValid before) {id : Nat} {transaction : KeyTransaction} (own : transaction.id = id)
    (known : ∃ old ∈ before.transactions, old.id = id) (rows : after.rows = before.rows)
    (transactions : after.transactions = transaction :: before.others id)
    (next : after.nextTransaction = before.nextTransaction)
    (locks : ∀ other ∈ before.others id, ∀ tenantKeyId keyVersion,
      transaction.retires tenantKeyId keyVersion = true → other.retires tenantKeyId keyVersion = false)
    (alone : ∀ other ∈ before.others id, ∀ row ∈ transaction.inserted, row.status = .active →
      ∀ row' ∈ other.inserted, row'.tenantId = row.tenantId → row'.status ≠ .active)
    (pending : ∀ row ∈ transaction.inserted, row.status = .active → ∀ n, Chain before.rows row.tenantId n →
      row.keyVersion = n + 1 ∧ (0 < n → transaction.retires row.tenantId n = true)) : KeysValid after := by
  have cases : ∀ other ∈ after.transactions, other = transaction ∨ other ∈ before.others id := by
    rw [transactions]
    exact fun other member => List.mem_cons.mp member
  refine ⟨rows ▸ valid.chain, ?_, ?_, ?_, ?_⟩
  · intro other member
    rw [next]
    rcases cases other member with rfl | old
    · obtain ⟨old, present, same⟩ := known
      rw [own, ← same]
      exact valid.fresh old present
    · exact valid.fresh other (mem_others.mp old).1
  · intro first member second member' differs tenantKeyId keyVersion held
    rcases cases first member with rfl | old <;> rcases cases second member' with rfl | old'
    · exact absurd rfl differs
    · exact locks second old' tenantKeyId keyVersion held
    · cases held' : second.retires tenantKeyId keyVersion with
      | false => rfl
      | true =>
        rw [locks first old tenantKeyId keyVersion held'] at held
        cases held
    · exact valid.locks first (mem_others.mp old).1 second (mem_others.mp old').1 differs tenantKeyId keyVersion held
  · intro first member second member' differs row inserted active row' inserted' same
    rcases cases first member with rfl | old <;> rcases cases second member' with rfl | old'
    · exact absurd rfl differs
    · exact alone second old' row inserted active row' inserted' same
    · intro active'
      exact alone first old row' inserted' active' row inserted same.symm active
    · exact valid.alone first (mem_others.mp old).1 second (mem_others.mp old').1 differs row inserted active row'
        inserted' same
  · intro other member row inserted active
    rw [rows]
    rcases cases other member with rfl | old
    · exact pending row inserted active
    · exact valid.pending other (mem_others.mp old).1 row inserted active

theorem retire (valid : KeysValid before) {id : Nat} {transaction : KeyTransaction} {tenantKeyId : String}
    {keyVersion retiredAt : Nat} (found : before.transaction id = some transaction)
    (free : ∀ other ∈ before.others id, other.retires tenantKeyId keyVersion = false)
    (rows : after.rows = before.rows)
    (transactions : after.transactions = transaction.retire tenantKeyId keyVersion retiredAt :: before.others id)
    (next : after.nextTransaction = before.nextTransaction) : KeysValid after := by
  obtain ⟨present, own⟩ := transaction_found found
  have apart : ∀ other ∈ before.others id, other ∈ before.transactions ∧ transaction.id ≠ other.id := by
    intro other member
    obtain ⟨there, differs⟩ := mem_others.mp member
    exact ⟨there, fun same => differs (same.symm.trans own)⟩
  have own' : (transaction.retire tenantKeyId keyVersion retiredAt).id = id := own
  refine valid.replace own' ⟨transaction, present, own⟩ rows transactions next ?_ ?_ ?_
  · intro other member tenantKeyId' keyVersion' held
    obtain ⟨there, differs⟩ := apart other member
    rcases (retire_retires retiredAt).mp held with earlier | ⟨rfl, rfl⟩
    · exact valid.locks transaction present other there differs _ _ earlier
    · exact free other member
  · intro other member row inserted active
    obtain ⟨there, differs⟩ := apart other member
    exact valid.alone transaction present other there differs row (retire_inserted inserted active) active
  · intro row inserted active n chain
    obtain ⟨version, locked⟩ := valid.pending transaction present row (retire_inserted inserted active) active n chain
    exact ⟨version, fun positive => (retire_retires retiredAt).mpr (.inl (locked positive))⟩

theorem insert (valid : KeysValid before) {id : Nat} {transaction : KeyTransaction} {tenantKeyId : String}
    {keyVersion : Nat} {wrappedDek : Buffer} (found : before.transaction id = some transaction)
    (fits : checkIndexes (transaction.view before.rows) (before.others id) tenantKeyId keyVersion = .fits)
    (grounded : Grounded before (.insertIn id tenantKeyId keyVersion wrappedDek)) (rows : after.rows = before.rows)
    (transactions : after.transactions =
      transaction.insert (activeRow tenantKeyId keyVersion wrappedDek) :: before.others id)
    (next : after.nextTransaction = before.nextTransaction) : KeysValid after := by
  obtain ⟨present, own⟩ := transaction_found found
  obtain ⟨unused, quiet⟩ := checkIndexes_fits fits
  obtain ⟨positive, prior⟩ := grounded
  have apart : ∀ other ∈ before.others id, other ∈ before.transactions ∧ transaction.id ≠ other.id := by
    intro other member
    obtain ⟨there, differs⟩ := mem_others.mp member
    exact ⟨there, fun same => differs (same.symm.trans own)⟩
  have inserted_cases : ∀ row ∈ (transaction.insert (activeRow tenantKeyId keyVersion wrappedDek)).inserted,
      row ∈ transaction.inserted ∨ row = activeRow tenantKeyId keyVersion wrappedDek := by
    intro row member
    rcases List.mem_append.mp member with old | new
    · exact .inl old
    · exact .inr (List.mem_singleton.mp new)
  have viewed : ∀ row ∈ before.rows, row.retireAll transaction.retired ∈ transaction.view before.rows :=
    fun row member => List.mem_append_left _ (List.mem_map_of_mem member)
  have own' : (transaction.insert (activeRow tenantKeyId keyVersion wrappedDek)).id = id := own
  refine valid.replace own' ⟨transaction, present, own⟩ rows transactions next ?_ ?_ ?_
  · intro other member tenantKeyId' keyVersion' held
    obtain ⟨there, differs⟩ := apart other member
    exact valid.locks transaction present other there differs _ _ held
  · intro other member row inserted active row' inserted' same
    obtain ⟨there, differs⟩ := apart other member
    rcases inserted_cases row inserted with old | rfl
    · exact valid.alone transaction present other there differs row old active row' inserted' same
    · exact quiet other member row' inserted' same
  · intro row inserted active n chain
    rcases inserted_cases row inserted with old | rfl
    · exact valid.pending transaction present row old active n chain
    have free : ∀ stored ∈ before.rows, stored.tenantId = tenantKeyId → stored.keyVersion ≠ keyVersion := by
      intro stored member owned
      have view := unused _ (viewed stored member) (by simpa using owned)
      simpa using view.1
    have version : keyVersion = n + 1 := by
      by_cases small : keyVersion ≤ n
      · obtain ⟨stored, member, owned, same⟩ := chain.exists_row positive small
        exact absurd same (free stored member owned)
      · by_cases first : keyVersion = 1
        · omega
        · obtain ⟨stored, member, owned, same⟩ := prior (by omega)
          have bound := (chain.bounds member owned).2
          omega
    refine ⟨version, fun some => ?_⟩
    obtain ⟨stored, member, owned, same⟩ := chain.exists_row some (Nat.le_refl n)
    have inactive := (unused _ (viewed stored member) (by rw [retireAll_tenantId]; exact owned)).2
    rw [ne_eq, retireAll_active, not_and] at inactive
    have named := inactive ((chain.active stored member owned).mpr same)
    simp only [not_forall, Bool.not_eq_false, named_iff] at named
    obtain ⟨write, listed, owner, versioned⟩ := named
    exact retires_iff.mpr ⟨write, listed, owner.symm.trans owned, versioned.symm.trans same⟩

theorem first (valid : KeysValid before) {tenantKeyId : String} {wrappedDek : Buffer}
    (fits : checkIndexes before.rows before.transactions tenantKeyId 1 = .fits)
    (rows : after.rows = before.rows ++ [activeRow tenantKeyId 1 wrappedDek])
    (transactions : after.transactions = before.transactions)
    (next : after.nextTransaction = before.nextTransaction) : KeysValid after := by
  obtain ⟨unused, quiet⟩ := checkIndexes_fits fits
  have elsewhere : ∀ owner, owner ≠ tenantKeyId → (after.rows.filter fun row => row.tenantId = owner) =
      before.rows.filter fun row => row.tenantId = owner := by
    intro owner differs
    rw [rows, List.filter_append]
    simp [activeRow, Ne.symm differs]
  refine ⟨?_, by rw [transactions, next]; exact valid.fresh, transactions ▸ valid.locks, transactions ▸ valid.alone, ?_⟩
  · intro owner
    obtain ⟨n, chain⟩ := valid.chain owner
    by_cases same : owner = tenantKeyId
    · subst same
      have none : n = 0 := by
        by_contra some
        obtain ⟨row, member, owned, version⟩ := chain.exists_row (Nat.le_refl 1) (by omega)
        exact (unused row member owned).1 version
      subst none
      refine ⟨1, ?_⟩
      rw [rows]
      exact chain.extend rfl fun row member owned => (unused row member owned).2
    · exact ⟨n, chain.frame (elsewhere owner same)⟩
  · intro transaction member row inserted active n chain
    rw [transactions] at member
    have differs : row.tenantId ≠ tenantKeyId := fun same => quiet transaction member row inserted same active
    exact valid.pending transaction member row inserted active n (chain.frame (elsewhere _ differs).symm)

theorem commit (valid : KeysValid before) {id : Nat} {transaction : KeyTransaction}
    (found : before.transaction id = some transaction) {tenantKeyId : String}
    (complete : Complete transaction tenantKeyId) (rows : after.rows = transaction.view before.rows)
    (transactions : after.transactions = before.others id)
    (next : after.nextTransaction = before.nextTransaction) : KeysValid after := by
  obtain ⟨present, own⟩ := transaction_found found
  obtain ⟨⟨keyVersion, wrappedDek, inserted⟩, retired⟩ := complete
  have pending : ∀ n, Chain before.rows tenantKeyId n → keyVersion = n + 1 ∧
      (0 < n → transaction.retires tenantKeyId n = true) :=
    valid.pending transaction present (activeRow tenantKeyId keyVersion wrappedDek) (by simp [inserted]) rfl
  have elsewhere : ∀ owner, owner ≠ tenantKeyId → (after.rows.filter fun row => row.tenantId = owner) =
      before.rows.filter fun row => row.tenantId = owner := by
    intro owner differs
    rw [rows]
    exact view_elsewhere before.rows inserted retired differs
  have others : ∀ other ∈ after.transactions, other ∈ before.transactions ∧ transaction.id ≠ other.id := by
    intro other member
    rw [transactions] at member
    obtain ⟨there, differs⟩ := mem_others.mp member
    exact ⟨there, fun same => differs (same.symm.trans own)⟩
  refine ⟨?_, ?_, ?_, ?_, ?_⟩
  · intro owner
    obtain ⟨n, chain⟩ := valid.chain owner
    by_cases same : owner = tenantKeyId
    · subst same
      obtain ⟨version, locked⟩ := pending n chain
      subst version
      refine ⟨n + 1, ?_⟩
      rw [rows, KeyTransaction.view, inserted]
      refine chain.extend (retireAll_versions ..) fun row member owned active => ?_
      obtain ⟨old, stored, rfl⟩ := List.mem_map.mp member
      obtain ⟨active, unnamed⟩ := retireAll_active.mp active
      rw [retireAll_tenantId] at owned
      have last : old.keyVersion = n := (chain.active old stored owned).mp active
      have positive : 0 < n := last ▸ (chain.bounds stored owned).1
      obtain ⟨write, listed, owner', version⟩ := retires_iff.mp (locked positive)
      have named : old.named write.1 write.2.1 = true :=
        named_iff.mpr ⟨owned.trans owner'.symm, last.trans version.symm⟩
      rw [unnamed write listed] at named
      cases named
    · exact ⟨n, chain.frame (elsewhere owner same)⟩
  · intro other member
    rw [next]
    exact valid.fresh other (others other member).1
  · intro first member second member'
    exact valid.locks first (others first member).1 second (others second member').1
  · intro first member second member'
    exact valid.alone first (others first member).1 second (others second member').1
  · intro other member row inserted' active n chain
    obtain ⟨there, differs⟩ := others other member
    have foreign : row.tenantId ≠ tenantKeyId := by
      intro same
      exact valid.alone transaction present other there differs (activeRow tenantKeyId keyVersion wrappedDek)
        (by simp [inserted]) rfl row inserted' same active
    exact valid.pending other there row inserted' active n (chain.frame (elsewhere _ foreign).symm)

theorem step (valid : KeysValid before) {effect : KeyEffect} (step : KeyStep before after effect)
    (grounded : Grounded before effect) : KeysValid after := by
  cases step with
  | keep rows transactions next => exact valid.shrink rows (fun _ member => transactions ▸ member) next
  | abort id rows transactions next =>
    refine valid.shrink rows (fun transaction member => ?_) next
    rw [transactions] at member
    exact (mem_others.mp member).1
  | first tenantKeyId wrappedDek fits rows transactions next => exact valid.first fits rows transactions next
  | begin rows transactions next => exact valid.begin rows transactions next
  | retire tenantKeyId keyVersion retiredAt found free rows transactions next =>
    exact valid.retire found free rows transactions next
  | insert tenantKeyId keyVersion wrappedDek found fits rows transactions next =>
    exact valid.insert found fits grounded rows transactions next
  | commit found rows transactions next =>
    obtain ⟨tenantKeyId, complete⟩ := grounded _ found
    exact valid.commit found complete rows transactions next

end KeysValid

end GatewayProof
