import AppGateway.Tenants.Encryption
import AppGateway.Tenants.Freshness
import Mathlib.Data.Fintype.Card

namespace GatewayProof

open Async GatewayModel
open Async.Program (Completes Computes completes_await completes_done)
open Async.System (Reaches anyStep)

/-! A rotation on its own -/

section Rotation

variable {env : CryptoEnv} {state : KeyState} {process : Nat} {tenantKeyId : String} {version : Nat}

structure Only (state : KeyState) (transaction : KeyTransaction) : Prop where
  transactions : state.transactions = [transaction]

theorem Only.found {transaction : KeyTransaction} (only : Only state transaction) :
    state.transaction transaction.id = some transaction := by
  simp [KeyState.transaction, only.transactions]

theorem Only.others {transaction : KeyTransaction} (only : Only state transaction) :
    state.others transaction.id = [] := by
  simp [KeyState.others, only.transactions]

theorem Only.put {transaction other : KeyTransaction} (only : Only state transaction)
    (same : other.id = transaction.id) :
    Only (state.put other) other := by
  refine ⟨?_⟩
  rw [KeyState.put, same, only.others]

def retirement (tenantKeyId : String) (version retiredAt : Nat) : List (String × Nat × Nat) :=
  if version = 0 then [] else [(tenantKeyId, version, retiredAt)]

theorem Chain.retired {rows : List TenantKeyRow} (chain : Chain rows tenantKeyId version) (retiredAt : Nat) :
    ∀ row ∈ rows.map (·.retireAll (retirement tenantKeyId version retiredAt)), row.tenantId = tenantKeyId →
      row.status ≠ .active := by
  intro row member owned active
  obtain ⟨old, present, rfl⟩ := List.mem_map.mp member
  rw [retireAll_tenantId] at owned
  obtain ⟨was, unnamed⟩ := retireAll_active.mp active
  have newest := (chain.active old present owned).mp was
  have bounds := chain.bounds present owned
  have listed : (tenantKeyId, version, retiredAt) ∈ retirement tenantKeyId version retiredAt := by
    rw [retirement, if_neg (by omega)]
    exact List.mem_singleton_self _
  have named : old.named tenantKeyId version = true := named_iff.mpr ⟨owned, newest⟩
  exact absurd (unnamed _ listed) (by simp [named])

theorem Chain.next {rows : List TenantKeyRow} (chain : Chain rows tenantKeyId version) (retiredAt : Nat)
    (wrappedDek : Buffer) : Chain (rows.map (·.retireAll (retirement tenantKeyId version retiredAt)) ++
      [activeRow tenantKeyId (version + 1) wrappedDek]) tenantKeyId (version + 1) :=
  chain.extend (retireAll_versions ..) (chain.retired retiredAt)

theorem Chain.next_fits {rows : List TenantKeyRow} (chain : Chain rows tenantKeyId version) (retiredAt : Nat) :
    checkIndexes (rows.map (·.retireAll (retirement tenantKeyId version retiredAt))) [] tenantKeyId (version + 1) =
      .fits := by
  have unnamed : ¬ ((rows.map (·.retireAll (retirement tenantKeyId version retiredAt))).any fun row =>
      row.named tenantKeyId (version + 1)) = true := by
    rw [List.any_eq_true]
    rintro ⟨row, member, named⟩
    obtain ⟨old, present, rfl⟩ := List.mem_map.mp member
    rw [named_iff, retireAll_tenantId, retireAll_keyVersion] at named
    have bounds := chain.bounds present named.1
    omega
  have inactive : ((rows.map (·.retireAll (retirement tenantKeyId version retiredAt))).find? fun row =>
      row.activeFor tenantKeyId) = none := by
    refine List.find?_eq_none.mpr fun row member active => ?_
    obtain ⟨owned, status⟩ := activeFor_iff.mp active
    exact chain.retired retiredAt row member owned status
  rw [checkIndexes, if_neg unnamed, if_neg (by simp), inactive]

theorem selectActiveIn_computes (chain : Chain state.rows tenantKeyId version) {transaction : KeyTransaction}
    (only : Only state transaction) (unwritten : transaction.retired = [] ∧ transaction.inserted = []) :
    Computes execKey Faultless (Keys.selectActiveIn transaction.id tenantKeyId) state
      (if version = 0 then none else some version) state := by
  refine computes_perform (fun _ => nofun) ?_
  have view : transaction.view state.rows = state.rows := by
    rw [KeyTransaction.view, unwritten.1, unwritten.2, List.append_nil]
    exact List.map_id' _
  simp only [respondKey, only.found, view]
  have listed : ∀ keyVersion,
    keyVersion ∈ ((state.rows.filter fun row => row.activeFor tenantKeyId).map (·.keyVersion)) ↔
      keyVersion = version ∧ 1 ≤ version := by
    intro keyVersion
    rw [← chain.active_iff, List.mem_map]
    constructor
    · rintro ⟨row, member, same⟩
      obtain ⟨present, active⟩ := List.mem_filter.mp member
      obtain ⟨owned, status⟩ := activeFor_iff.mp active
      exact ⟨row, present, owned, status, same⟩
    · rintro ⟨row, present, owned, status, same⟩
      exact ⟨row, List.mem_filter.mpr ⟨present, activeFor_iff.mpr ⟨owned, status⟩⟩, same⟩
  generalize (state.rows.filter fun row => row.activeFor tenantKeyId).map (·.keyVersion) = versions at listed ⊢
  by_cases none : version = 0
  · have empty : versions = [] := List.eq_nil_iff_forall_not_mem.mpr fun keyVersion member => by
      have positive := ((listed keyVersion).mp member).2
      omega
    rw [empty, if_pos none]
    rfl
  · have newest : versions.max? = some version :=
      List.max?_eq_some_iff.mpr ⟨(listed version).mpr ⟨rfl, by omega⟩, fun keyVersion member =>
        Nat.le_of_eq ((listed keyVersion).mp member).1⟩
    rw [newest, if_neg none]

theorem insertNext_computes (process : Nat) (chain : Chain state.rows tenantKeyId version)
    {transaction : KeyTransaction} (only : Only state transaction) {retiredAt : Nat}
    (retired : transaction.retired = retirement tenantKeyId version retiredAt) (empty : transaction.inserted = [])
    (dek wrappedDek : Buffer) : ∃ last,
    Computes execKey Faultless (do
      Keys.insertIn transaction.id tenantKeyId (version + 1) wrappedDek
      Keys.dekSet process tenantKeyId (version + 1) dek
      Keys.activeVersionSet process tenantKeyId (version + 1)
      return { dek, keyVersion := version + 1 } : Keys ResolvedDek) state { dek, keyVersion := version + 1 } last ∧
    last.rows = state.rows ∧ last.drawn = state.drawn ∧
    Only last (transaction.insert (activeRow tenantKeyId (version + 1) wrappedDek)) := by
  have insert : Computes execKey Faultless (Keys.insertIn transaction.id tenantKeyId (version + 1) wrappedDek) state ()
      (state.put (transaction.insert (activeRow tenantKeyId (version + 1) wrappedDek))) := by
    refine computes_perform (fun _ => nofun) ?_
    have view : transaction.view state.rows =
        state.rows.map (·.retireAll (retirement tenantKeyId version retiredAt)) := by
      rw [KeyTransaction.view, retired, empty, List.append_nil]
    simp only [respondKey, only.found, only.others, view, chain.next_fits]
  have put : Only (state.put (transaction.insert (activeRow tenantKeyId (version + 1) wrappedDek))) _ := only.put rfl
  obtain ⟨stored, store, same⟩ := dekSet_computes (state.put (transaction.insert (activeRow tenantKeyId (version + 1)
    wrappedDek))) process tenantKeyId (version + 1) dek
  obtain ⟨pointed, pointer, same'⟩ := activeVersionSet_computes stored process tenantKeyId (version + 1)
  have whole := same.trans same'
  exact ⟨pointed, insert.then (store.then (pointer.then (.done _))), whole.rows, whole.drawn,
    ⟨whole.transactions.trans put.transactions⟩⟩

theorem insertNext_completes (env : CryptoEnv) (process : Nat) (chain : Chain state.rows tenantKeyId version)
    {transaction : KeyTransaction} (only : Only state transaction) {retiredAt : Nat}
    (retired : transaction.retired = retirement tenantKeyId version retiredAt) (empty : transaction.inserted = [])
    (room : state.drawn.length + 2 ≤ 256 ^ gcmIvLength) : ∃ (dek wrappedDek : Buffer) (last : KeyState),
    Completes execKey Faultless (do
      let rawDek ← Keys.randomBytes dekLengthBytes
      let wrappedDek ← wrapDek env rawDek
      Keys.insertIn transaction.id tenantKeyId (version + 1) wrappedDek
      Keys.dekSet process tenantKeyId (version + 1) rawDek
      Keys.activeVersionSet process tenantKeyId (version + 1)
      return { dek := rawDek, keyVersion := version + 1 } : Keys ResolvedDek) state
      (.ok { dek, keyVersion := version + 1 }) last ∧
    last.rows = state.rows ∧
    Only last (transaction.insert (activeRow tenantKeyId (version + 1) wrappedDek)) ∧
    last.drawn.length = state.drawn.length + 2 := by
  obtain ⟨dek, length, fresh⟩ :=
    fresh_bytes (show state.drawn.length < _ by omega) (show gcmIvLength ≤ dekLengthBytes by decide)
  have more : ({ state with drawn := dek :: state.drawn } : KeyState).drawn.length < 256 ^ gcmIvLength := by
    rw [List.length_cons]
    omega
  obtain ⟨iv, length', fresh'⟩ := fresh_bytes more (Nat.le_refl gcmIvLength)
  obtain ⟨last, computes, rows, drawn, inserted⟩ :=
    @insertNext_computes { state with drawn := iv :: dek :: state.drawn } tenantKeyId version process chain transaction
      ⟨only.transactions⟩ retiredAt retired empty dek (sealed env env.tenantKekKey iv dek)
  refine ⟨dek, _, last, ?_, rows, inserted, by rw [drawn]; rfl⟩
  exact completes_randomBytes.mpr ⟨dek, length, fresh, completes_randomBytes.mpr ⟨iv, length', fresh',
    (computes _ _).mpr ⟨rfl, rfl⟩⟩⟩

theorem retireIn_computes (chain : Chain state.rows tenantKeyId version) (positive : 1 ≤ version)
    {transaction : KeyTransaction} (only : Only state transaction) (retiredAt : Nat) :
    Computes execKey Faultless (Keys.retireIn transaction.id tenantKeyId version retiredAt) state ()
      (state.put (transaction.retire tenantKeyId version retiredAt)) := by
  refine computes_perform (fun _ => nofun) ?_
  obtain ⟨row, member, owned, newest⟩ := chain.exists_row positive (Nat.le_refl _)
  have present : ((transaction.view state.rows).any fun row => row.named tenantKeyId version) = true := by
    refine List.any_eq_true.mpr ⟨row.retireAll transaction.retired,
      List.mem_append_left _ (List.mem_map_of_mem member), ?_⟩
    simpa using And.intro owned newest
  simp only [respondKey, only.found, only.others, present, List.any_nil, Bool.false_eq_true, if_false, if_true]

theorem rotateIn_completes (env : CryptoEnv) (process : Nat) (chain : Chain state.rows tenantKeyId version)
    {transaction : KeyTransaction} (only : Only state transaction)
    (unwritten : transaction.retired = [] ∧ transaction.inserted = [])
    (room : state.drawn.length + 2 ≤ 256 ^ gcmIvLength) : ∃ (dek wrappedDek : Buffer) (last : KeyState),
    Completes execKey Faultless (rotateIn env process tenantKeyId transaction.id) state
      (.ok { dek, keyVersion := version + 1 }) last ∧
    (∃ written, Only last written ∧ written.id = transaction.id ∧
      written.view last.rows = state.rows.map (·.retireAll (retirement tenantKeyId version state.clock)) ++
        [activeRow tenantKeyId (version + 1) wrappedDek]) ∧
    last.drawn.length = state.drawn.length + 2 := by
  have selects := selectActiveIn_computes chain only unwritten
  rcases Nat.eq_zero_or_pos version with rfl | positive
  · have retired : transaction.retired = retirement tenantKeyId 0 state.clock := unwritten.1
    obtain ⟨dek, wrappedDek, last, completes, rows, inserted, drawn⟩ :=
      insertNext_completes env process chain only retired unwritten.2 room
    refine ⟨dek, wrappedDek, last, selects.bind.mpr completes, ⟨_, inserted, rfl, ?_⟩, drawn⟩
    rw [KeyTransaction.view, rows, KeyTransaction.insert, retired, unwritten.2]
    rfl
  · have clock : Computes execKey Faultless Keys.dateNow state state.clock state :=
      computes_perform (fun _ same => by cases same) rfl
    have retires := retireIn_computes chain positive only state.clock
    have retired : (transaction.retire tenantKeyId version state.clock).retired =
        retirement tenantKeyId version state.clock := by
      rw [KeyTransaction.retire, unwritten.1, retirement, if_neg (by omega)]
      rfl
    have empty : (transaction.retire tenantKeyId version state.clock).inserted = [] := by
      rw [KeyTransaction.retire, unwritten.2]
      rfl
    have put : Only (state.put (transaction.retire tenantKeyId version state.clock)) _ := only.put rfl
    have still : Chain (state.put (transaction.retire tenantKeyId version state.clock)).rows tenantKeyId version :=
      chain
    obtain ⟨dek, wrappedDek, last, completes, rows, inserted, drawn⟩ :=
      insertNext_completes env process still put retired empty room
    rw [if_neg (by omega)] at selects
    refine ⟨dek, wrappedDek, last, selects.bind.mpr (clock.bind.mpr (retires.bind.mpr completes)),
      ⟨_, inserted, rfl, ?_⟩,
      drawn⟩
    rw [KeyTransaction.view, rows, KeyTransaction.insert, retired, empty]
    rfl

/-- A rotation that runs on its own makes the next version the last. -/
theorem rotateTenantKey_completes (env : CryptoEnv) (process : Nat) (tenantId : Option String)
    (calm : state.transactions = []) (chain : Chain state.rows (resolveTenantKeyId tenantId) version)
    (room : state.drawn.length + 2 ≤ 256 ^ gcmIvLength) : ∃ (dek : Buffer) (last : KeyState),
    Completes execKey Faultless (rotateTenantKey env process tenantId) state
      (.ok { dek, keyVersion := version + 1 }) last ∧
    last.transactions = [] ∧ Chain last.rows (resolveTenantKeyId tenantId) (version + 1) ∧
    last.drawn.length = state.drawn.length + 2 := by
  obtain ⟨opened, begins, only, rows, drawn⟩ : ∃ opened,
      Computes execKey Faultless (Keys.perform .begin) state state.nextTransaction opened ∧
      Only opened { id := state.nextTransaction, retired := [], inserted := [] } ∧ opened.rows = state.rows ∧
      opened.drawn = state.drawn :=
    ⟨_, computes_perform (fun _ => nofun) rfl, ⟨congrArg _ calm⟩, rfl, rfl⟩
  rw [← rows] at chain
  rw [← drawn] at room
  obtain ⟨dek, wrappedDek, last, callback, ⟨written, pending, id, view⟩, drawn'⟩ :=
    rotateIn_completes env process chain only ⟨rfl, rfl⟩ room
  have commits : Computes execKey Faultless (Keys.perform (.commit written.id)) last ()
      { last.abort written.id with rows := written.view last.rows } := by
    refine computes_perform (fun _ => nofun) ?_
    simp only [respondKey, pending.found]
  have finish : Completes execKey Faultless ((Keys.perform (.commit written.id)).bind fun _ =>
      .done (.ok { dek, keyVersion := version + 1 } : Except Thrown ResolvedDek)) last
      (.ok { dek, keyVersion := version + 1 }) { last.abort written.id with rows := written.view last.rows } :=
    commits.bind.mpr (.done _ _)
  refine ⟨dek, { last.abort written.id with rows := written.view last.rows }, begins.bind.mpr ?_,
    pending.others, ?_, ?_⟩
  · rw [id] at finish ⊢
    exact Completes.handle (callback.bind finish)
  · rw [view]
    exact chain.next opened.clock wrappedDek
  · rw [← drawn]
    exact drawn'

end Rotation

/-! Completed rotations -/

def KeyRotated (config : KeyConfig) (tenantKeyId : String) (index version : Nat) : Prop :=
  ∃ (thread : KeyThread) (process : Nat) (tenantId : Option String) (dek : Buffer),
    config.threads[index]? = some thread ∧ thread.call = .rotateTenantKey process tenantId ∧
    resolveTenantKeyId tenantId = tenantKeyId ∧ thread.answered (.ok (.resolved { dek, keyVersion := version }))

def Rotations (config : KeyConfig) (tenantKeyId : String) (n : Nat) : Prop :=
  ∃ places : Fin n → Nat, Function.Injective places ∧ ∀ k, ∃ version, KeyRotated config tenantKeyId (places k) version

section Runs

variable {env : CryptoEnv} {clock : Nat} {config : KeyConfig} {tenantKeyId : String} {index version : Nat}

theorem KeyRotated.committed (aes : AesGcm env) (reached : Reaches (gateways env) anyStep (freshGateways clock) config)
    (rotated : KeyRotated config tenantKeyId index version) : ∃ thread dek, config.threads[index]? = some thread ∧
      Draws thread dek ∧ Committed env config.state.rows tenantKeyId version dek := by
  obtain ⟨thread, process, tenantId, dek, found, call, rfl, answered⟩ := rotated
  have ledger := (keysHold_run reached).each index thread found
  have ended := ledger.disciplined.ended answered
  rw [call] at ended
  obtain ⟨before, id, wrappedDek, candidate, inserted, whole⟩ := ended
  have drawn : Candidate env thread.past wrappedDek dek := by
    rw [whole]
    exact candidate.grow (List.subset_append_left ..)
  exact ⟨thread, dek, found, ⟨_, drawn.1⟩, wrappedDek, ledger.committed before [] id _ _ _ whole inserted,
    drawn.unwraps aes ledger⟩

theorem KeyRotated.unique (aes : AesGcm env) (reached : Reaches (gateways env) anyStep (freshGateways clock) config)
    {other : Nat} (rotated : KeyRotated config tenantKeyId index version)
    (rotated' : KeyRotated config tenantKeyId other version) : index = other := by
  obtain ⟨first, dek, here, draws, committed⟩ := rotated.committed aes reached
  obtain ⟨second, dek', there, draws', committed'⟩ := rotated'.committed aes reached
  rw [← committed.unique (keysHold_run reached).valid committed'] at draws'
  exact draws_unique reached here there draws draws'

theorem rotations_le (aes : AesGcm env) (reached : Reaches (gateways env) anyStep (freshGateways clock) config)
    (chain : Chain config.state.rows tenantKeyId version) {n : Nat} (rotations : Rotations config tenantKeyId n) :
    n ≤ version := by
  obtain ⟨places, distinct, each⟩ := rotations
  choose versions rotated using each
  have bounds : ∀ k, 1 ≤ versions k ∧ versions k ≤ version := by
    intro k
    obtain ⟨_, _, _, _, _, ⟨row, member, owned, same, _⟩, _⟩ := (rotated k).committed aes reached
    rw [← same]
    exact chain.bounds member owned
  have below : ∀ k, versions k - 1 < version := by
    intro k
    have bound := bounds k
    omega
  have apart : Function.Injective fun k : Fin n => (⟨versions k - 1, below k⟩ : Fin version) := by
    intro k l same
    have equal : versions k = versions l := by
      have values := congrArg Fin.val same
      have first := bounds k
      have second := bounds l
      simp only at values
      omega
    have rotated' := rotated l
    rw [← equal] at rotated'
    exact distinct ((rotated k).unique aes reached rotated')
  simpa using Fintype.card_le_of_injective _ apart

theorem rows_unwrap (aes : AesGcm env) (reached : Reaches (gateways env) anyStep (freshGateways clock) config) :
    RowsUnwrap env config.state.rows := by
  intro row member
  obtain ⟨iv, dek, nonce, wrapped, _⟩ := (deks_owned aes reached).1.stored row member
  exact ⟨dek, by rw [wrapped, unwrapDek, decryptWithKey_sealed aes nonce]⟩

end Runs

/-- Every number of rotations is completed in some run: one after another, from an empty table. -/
theorem rotations_reached (env : CryptoEnv) (n : Nat) (room : 2 * n ≤ 256 ^ gcmIvLength) : ∃ config : KeyConfig,
    Reaches (gateways env) anyStep (freshGateways 0) config ∧ config.threads.length = n ∧
    (∀ k < n, ∃ version, KeyRotated config defaultTenantKeyId k version) ∧ config.state.transactions = [] ∧
    Chain config.state.rows defaultTenantKeyId n ∧ config.state.drawn.length = 2 * n := by
  induction n with
  | zero => exact ⟨freshGateways 0, .refl, rfl, fun k bound => absurd bound (Nat.not_lt_zero k), rfl, .nil, rfl⟩
  | succ n ih =>
    obtain ⟨config, reached, length, rotated, calm, chain, drawn⟩ := ih (by omega)
    obtain ⟨dek, last, completes, calm', chain', drawn'⟩ := rotateTenantKey_completes env 0 none calm chain (by omega)
    have call : Completes execKey Faultless ((gateways env).code (.rotateTenantKey 0 none)) config.state
        (.ok (.resolved { dek, keyVersion := n + 1 })) last := completes.bind (.done _ _)
    have performs : ∀ op choice before reply after, execKey op choice before = some (reply, after) →
        ∃ events choice', (gateways env).exec op choice' ((gateways env).externals events before) =
          some (reply, after) :=
      fun _ choice _ _ _ executed => ⟨[], choice, executed⟩
    obtain ⟨thread, onward, called, answered⟩ := Reaches.of_completes performs call
    refine ⟨_, reached.trans onward, ?_, fun k bound => ?_, calm', chain', ?_⟩
    · rw [List.length_append, length]
      rfl
    · rcases Nat.lt_succ_iff_lt_or_eq.mp bound with earlier | rfl
      · obtain ⟨version, first, process, tenantId, dek', found, rest⟩ := rotated k earlier
        refine ⟨version, first, process, tenantId, dek', ?_, rest⟩
        rw [List.getElem?_append_left (by omega)]
        exact found
      · refine ⟨k + 1, thread, 0, none, dek, ?_, called, rfl, answered⟩
        rw [← length]
        exact List.getElem?_concat_length
    · rw [drawn', drawn]
      omega

/-- Whatever has been rotated, an encryption succeeds under the active version exactly when that fits into
    two bytes, the caches of the process do not point to another, and no open transaction holds the first
    key of the tenant back. -/
theorem encryption_after_rotations {env : CryptoEnv} (aes : AesGcm env) {clock : Nat} {config : KeyConfig}
    (reached : Reaches (gateways env) anyStep (freshGateways clock) config) (room : Room config.state)
    (tenantId : Option String) : ∃ version, Chain config.state.rows (resolveTenantKeyId tenantId) version ∧
    (∀ n, Rotations config (resolveTenantKeyId tenantId) n → n ≤ version) ∧
    ∀ process, EncryptsActive env config.state process tenantId ↔ version ≤ 65535 ∧
      (∀ resolved, Warm config.state process (resolveTenantKeyId tenantId) resolved →
        resolved.keyVersion = version ∧ 1 ≤ version) ∧
      (version = 0 →
        checkIndexes config.state.rows config.state.transactions (resolveTenantKeyId tenantId) 1 ≠ .blocked) := by
  obtain ⟨version, chain⟩ := (keysHold_run reached).valid.chain (resolveTenantKeyId tenantId)
  refine ⟨version, chain, fun n => rotations_le aes reached chain, fun process => ?_⟩
  rw [encryptsActive_iff chain (rows_unwrap aes reached) room]
  constructor
  · rintro ⟨small, pointed, free⟩
    exact ⟨small, pointed, fun _ => free⟩
  · rintro ⟨small, pointed, free⟩
    refine ⟨small, pointed, ?_⟩
    rcases Nat.eq_zero_or_pos version with none | positive
    · exact free none
    · exact chain.unblocked positive _

theorem rotated_tenant_encrypts : ∃ config, Reaches (gateways idealCipher) anyStep (freshGateways 0) config ∧
    config.state.rows.map (·.keyVersion) = [1, 2] ∧ EncryptsActive idealCipher config.state 2 none := by
  have passed : ((gateways idealCipher).run firstTwoKeys (freshGateways 0)).any (fun config =>
      decide (config.state.rows.map (·.keyVersion) = [1, 2]) && decide (config.state.drawn.length = 4) &&
      decide (((config.state.caches 2).activeVersionCache.find defaultTenantKeyId) = none) &&
      decide (checkIndexes config.state.rows config.state.transactions defaultTenantKeyId 1 ≠ .blocked)) = true := by
    decide +kernel
  obtain ⟨config, reached, checked⟩ := Reaches.of_check passed
  simp only [Bool.and_eq_true, decide_eq_true_eq] at checked
  obtain ⟨⟨⟨rows, drawn⟩, unpointed⟩, free⟩ := checked
  have room : Room config.state := by
    rw [Room, drawn]
    decide
  obtain ⟨version, chain, _, encrypts⟩ := encryption_after_rotations idealCipher_aes reached room none
  refine ⟨config, reached, rows, (encrypts 2).mpr ⟨?_, ?_, fun _ => free⟩⟩
  · have versions := congrArg List.length chain.versions
    have bound := List.length_filter_le (fun row : TenantKeyRow => row.tenantId = resolveTenantKeyId none)
      config.state.rows
    have two := congrArg List.length rows
    simp only [List.length_map, List.length_range', List.length_cons, List.length_nil] at versions two
    omega
  · rintro resolved ⟨pointed, _⟩
    cases unpointed.symm.trans pointed

/-- After 65536 rotations no process encrypts any more. -/
theorem rotations_exceed_envelope : ¬ ∀ env, AesGcm env → ∀ clock config,
    Reaches (gateways env) anyStep (freshGateways clock) config → Room config.state → ∀ tenantId n, n ≤ 2147483647 →
    Rotations config (resolveTenantKeyId tenantId) n → ∀ process, EncryptsActive env config.state process tenantId := by
  intro claim
  have bound : 2 * 65536 + 3 ≤ 256 ^ gcmIvLength := by decide
  obtain ⟨config, reached, length, rotated, _, chain, drawn⟩ := rotations_reached idealCipher 65536 (by omega)
  have room : Room config.state := by
    rw [Room, drawn]
    exact bound
  have rotations : Rotations config (resolveTenantKeyId none) 65536 :=
    ⟨Fin.val, Fin.val_injective, fun k => rotated k.val k.isLt⟩
  have encrypts := claim idealCipher idealCipher_aes 0 config reached room none 65536 (by decide) rotations 0
  have small := ((encryptsActive_iff chain (rows_unwrap idealCipher_aes reached) room).mp encrypts).1
  exact absurd small (by decide)

end GatewayProof
