import AppGateway.Tenants.Discipline
import Mathlib.Data.List.Nodup

namespace GatewayProof

open Async GatewayModel

section Rows

variable {row : TenantKeyRow} {tenantKeyId : String} {keyVersion : Nat}

@[simp] theorem named_iff : row.named tenantKeyId keyVersion = true ↔
    row.tenantId = tenantKeyId ∧ row.keyVersion = keyVersion := by
  simp [TenantKeyRow.named]

@[simp] theorem activeFor_iff : row.activeFor tenantKeyId = true ↔
    row.tenantId = tenantKeyId ∧ row.status = .active := by
  simp [TenantKeyRow.activeFor]

@[simp] theorem retire_tenantId (retiredAt : Nat) : (row.retire tenantKeyId keyVersion retiredAt).tenantId =
    row.tenantId := by
  unfold TenantKeyRow.retire
  split <;> rfl

@[simp] theorem retire_keyVersion (retiredAt : Nat) :
    (row.retire tenantKeyId keyVersion retiredAt).keyVersion = row.keyVersion := by
  unfold TenantKeyRow.retire
  split <;> rfl

@[simp] theorem retire_wrappedDek (retiredAt : Nat) :
    (row.retire tenantKeyId keyVersion retiredAt).wrappedDek = row.wrappedDek := by
  unfold TenantKeyRow.retire
  split <;> rfl

theorem retire_status (retiredAt : Nat) : (row.retire tenantKeyId keyVersion retiredAt).status =
    if row.named tenantKeyId keyVersion then .retired else row.status := by
  unfold TenantKeyRow.retire
  split <;> rfl

variable {writes : List (String × Nat × Nat)}

theorem retireAll_cons (write : String × Nat × Nat) :
    row.retireAll (write :: writes) = (row.retire write.1 write.2.1 write.2.2).retireAll writes := rfl

@[simp] theorem retireAll_tenantId : (row.retireAll writes).tenantId = row.tenantId := by
  induction writes generalizing row with
  | nil => rfl
  | cons write writes ih => rw [retireAll_cons, ih, retire_tenantId]

@[simp] theorem retireAll_keyVersion : (row.retireAll writes).keyVersion = row.keyVersion := by
  induction writes generalizing row with
  | nil => rfl
  | cons write writes ih => rw [retireAll_cons, ih, retire_keyVersion]

@[simp] theorem retireAll_wrappedDek : (row.retireAll writes).wrappedDek = row.wrappedDek := by
  induction writes generalizing row with
  | nil => rfl
  | cons write writes ih => rw [retireAll_cons, ih, retire_wrappedDek]

theorem retireAll_active : (row.retireAll writes).status = .active ↔
    row.status = .active ∧ ∀ write ∈ writes, row.named write.1 write.2.1 = false := by
  induction writes generalizing row with
  | nil => simp [TenantKeyRow.retireAll]
  | cons write writes ih =>
    rw [retireAll_cons, ih, retire_status]
    by_cases here : row.named write.1 write.2.1 = true
    · simp [here]
    · have elsewhere : row.named write.1 write.2.1 = false := Bool.eq_false_iff.mpr here
      have same : row.retire write.1 write.2.1 write.2.2 = row := by simp [TenantKeyRow.retire, elsewhere]
      simp [elsewhere, same]

end Rows

theorem retires_iff {transaction : KeyTransaction} {tenantKeyId : String} {keyVersion : Nat} :
    transaction.retires tenantKeyId keyVersion = true ↔
      ∃ write ∈ transaction.retired, write.1 = tenantKeyId ∧ write.2.1 = keyVersion := by
  simp [KeyTransaction.retires]

/-- The versions of the tenant are 1, …, n in the order of their insertion, and n is the active one. -/
structure Chain (rows : List TenantKeyRow) (tenantKeyId : String) (n : Nat) : Prop where
  versions : (rows.filter fun row => row.tenantId = tenantKeyId).map (·.keyVersion) = List.range' 1 n
  active : ∀ row ∈ rows, row.tenantId = tenantKeyId → (row.status = .active ↔ row.keyVersion = n)

def Persisted (rows : List TenantKeyRow) (tenantKeyId : String) (keyVersion : Nat) (wrappedDek : Buffer) : Prop :=
  ∃ row ∈ rows, row.tenantId = tenantKeyId ∧ row.keyVersion = keyVersion ∧ row.wrappedDek = wrappedDek

namespace Chain

variable {rows : List TenantKeyRow} {tenantKeyId : String} {n : Nat}

theorem bounds (chain : Chain rows tenantKeyId n) {row : TenantKeyRow} (member : row ∈ rows)
    (owned : row.tenantId = tenantKeyId) : 1 ≤ row.keyVersion ∧ row.keyVersion ≤ n := by
  have listed : row.keyVersion ∈ (rows.filter fun row => row.tenantId = tenantKeyId).map (·.keyVersion) :=
    List.mem_map_of_mem (List.mem_filter.mpr ⟨member, by simpa using owned⟩)
  rw [chain.versions, List.mem_range'_1] at listed
  omega

theorem exists_row (chain : Chain rows tenantKeyId n) {keyVersion : Nat} (low : 1 ≤ keyVersion)
    (high : keyVersion ≤ n) : ∃ row ∈ rows, row.tenantId = tenantKeyId ∧ row.keyVersion = keyVersion := by
  have listed : keyVersion ∈ (rows.filter fun row => row.tenantId = tenantKeyId).map (·.keyVersion) := by
    rw [chain.versions, List.mem_range'_1]
    omega
  obtain ⟨row, member, same⟩ := List.mem_map.mp listed
  obtain ⟨present, owned⟩ := List.mem_filter.mp member
  exact ⟨row, present, by simpa using owned, same⟩

theorem unique (chain : Chain rows tenantKeyId n) {m : Nat} (other : Chain rows tenantKeyId m) : n = m := by
  have same : List.range' 1 n = List.range' 1 m := chain.versions.symm.trans other.versions
  simpa using congrArg List.length same

theorem row_unique (chain : Chain rows tenantKeyId n) {row other : TenantKeyRow} (member : row ∈ rows)
    (member' : other ∈ rows) (owned : row.tenantId = tenantKeyId) (owned' : other.tenantId = tenantKeyId)
    (same : row.keyVersion = other.keyVersion) : row = other := by
  have distinct : ((rows.filter fun row => row.tenantId = tenantKeyId).map (·.keyVersion)).Nodup := by
    rw [chain.versions]
    exact List.nodup_range'
  have here : row ∈ rows.filter fun row => row.tenantId = tenantKeyId :=
    List.mem_filter.mpr ⟨member, by simpa using owned⟩
  have there : other ∈ rows.filter fun row => row.tenantId = tenantKeyId :=
    List.mem_filter.mpr ⟨member', by simpa using owned'⟩
  exact List.inj_on_of_nodup_map distinct here there same

theorem nil : Chain [] tenantKeyId 0 := ⟨rfl, by simp⟩

theorem frame {rows' : List TenantKeyRow} (chain : Chain rows tenantKeyId n)
    (same : rows'.filter (fun row => row.tenantId = tenantKeyId) = rows.filter fun row => row.tenantId = tenantKeyId) :
    Chain rows' tenantKeyId n := by
  refine ⟨by rw [same, chain.versions], fun row member owned => ?_⟩
  have listed : row ∈ rows'.filter fun row => row.tenantId = tenantKeyId :=
    List.mem_filter.mpr ⟨member, by simpa using owned⟩
  rw [same] at listed
  exact chain.active row (List.mem_filter.mp listed).1 owned

theorem extend {rows' : List TenantKeyRow} {wrappedDek : Buffer} (chain : Chain rows tenantKeyId n)
    (entries : (rows'.filter fun row => row.tenantId = tenantKeyId).map (·.keyVersion) =
      (rows.filter fun row => row.tenantId = tenantKeyId).map (·.keyVersion))
    (inactive : ∀ row ∈ rows', row.tenantId = tenantKeyId → row.status ≠ .active) :
    Chain (rows' ++ [activeRow tenantKeyId (n + 1) wrappedDek]) tenantKeyId (n + 1) := by
  constructor
  · rw [List.filter_append, List.map_append, entries, chain.versions, List.range'_concat]
    simp [activeRow]
    omega
  · intro row member owned
    rcases List.mem_append.mp member with earlier | last
    · have listed : row.keyVersion ∈ (rows'.filter fun row => row.tenantId = tenantKeyId).map (·.keyVersion) :=
        List.mem_map_of_mem (List.mem_filter.mpr ⟨earlier, by simpa using owned⟩)
      rw [entries, chain.versions, List.mem_range'_1] at listed
      have off := inactive row earlier owned
      constructor
      · intro on
        exact absurd on off
      · intro same
        omega
    · rw [List.mem_singleton.mp last]
      simp [activeRow]

end Chain

section Views

variable {rows : List TenantKeyRow} {writes : List (String × Nat × Nat)} {tenantKeyId : String}

theorem retireAll_versions (rows : List TenantKeyRow) (writes : List (String × Nat × Nat)) (tenantKeyId : String) :
    ((rows.map (·.retireAll writes)).filter fun row => row.tenantId = tenantKeyId).map (·.keyVersion) =
      (rows.filter fun row => row.tenantId = tenantKeyId).map (·.keyVersion) := by
  rw [List.filter_map, List.map_map]
  have owner : (fun row : TenantKeyRow => decide (row.tenantId = tenantKeyId)) ∘ TenantKeyRow.retireAll writes =
      fun row => decide (row.tenantId = tenantKeyId) := by
    funext row
    simp
  have version : TenantKeyRow.keyVersion ∘ TenantKeyRow.retireAll writes = TenantKeyRow.keyVersion := by
    funext row
    simp
  exact congrArg₂ List.map version (congrArg (List.filter · rows) owner)

theorem retireAll_elsewhere {row : TenantKeyRow} (elsewhere : ∀ write ∈ writes, write.1 ≠ row.tenantId) :
    row.retireAll writes = row := by
  induction writes with
  | nil => rfl
  | cons write writes ih =>
    have first : row.retire write.1 write.2.1 write.2.2 = row := by
      have other : row.named write.1 write.2.1 = false := by
        rw [Bool.eq_false_iff, ne_eq, named_iff]
        rintro ⟨same, _⟩
        exact elsewhere write (List.mem_cons_self ..) same.symm
      simp [TenantKeyRow.retire, other]
    rw [retireAll_cons, first]
    exact ih fun other member => elsewhere other (List.mem_cons_of_mem _ member)

theorem persisted_retireAll {keyVersion : Nat} {wrappedDek : Buffer}
    (persisted : Persisted rows tenantKeyId keyVersion wrappedDek) (writes : List (String × Nat × Nat)) :
    Persisted (rows.map (·.retireAll writes)) tenantKeyId keyVersion wrappedDek := by
  obtain ⟨row, member, owned, version, wrapped⟩ := persisted
  exact ⟨_, List.mem_map_of_mem member, by simpa using owned, by simpa using version, by simpa using wrapped⟩

theorem Persisted.append {keyVersion : Nat} {wrappedDek : Buffer}
    (persisted : Persisted rows tenantKeyId keyVersion wrappedDek) (more : List TenantKeyRow) :
    Persisted (rows ++ more) tenantKeyId keyVersion wrappedDek := by
  obtain ⟨row, member, found⟩ := persisted
  exact ⟨row, List.mem_append_left _ member, found⟩

end Views

end GatewayProof
