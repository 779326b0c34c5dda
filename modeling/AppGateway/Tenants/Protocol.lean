import AppGateway.Async.Modular
import AppGateway.Model.TenantKeyService

namespace GatewayProof

open Async GatewayModel

abbrev KeyEvent := Event KeyEffect.Reply Thrown
abbrev KeyThread := Thread KeyEffect.Reply Thrown KeyCall KeyAnswer
abbrev KeyConfig := Config KeyEffect.Reply Thrown KeyState KeyCall KeyAnswer
abbrev KeyLabel := Label KeyChoice KeyExternal KeyCall

def RotatesKey (call : KeyCall) : Prop := ∃ process tenantId, call = .rotateTenantKey process tenantId

def ReadRow (past : List KeyEvent) (tenantKeyId : String) (keyVersion : Nat) (wrappedDek : Buffer) : Prop :=
  ⟨.selectActive tenantKeyId, .ok (some (keyVersion, wrappedDek))⟩ ∈ past ∨
    ⟨.selectVersion tenantKeyId keyVersion, .ok (some wrappedDek)⟩ ∈ past

def Candidate (env : CryptoEnv) (past : List KeyEvent) (wrappedDek dek : Buffer) : Prop :=
  ⟨.randomBytes dekLengthBytes, .ok dek⟩ ∈ past ∧ ∃ iv, ⟨.randomBytes gcmIvLength, .ok iv⟩ ∈ past ∧
    wrappedDek = sealed env env.tenantKekKey iv dek

/-- How a call comes by the DEK of a version other than from its cache. -/
inductive Holds (env : CryptoEnv) (past : List KeyEvent) (tenantKeyId : String) (keyVersion : Nat)
    (dek : Buffer) : Prop where
  | stored (wrappedDek : Buffer) (read : ReadRow past tenantKeyId keyVersion wrappedDek)
      (unwrapped : unwrapDek env wrappedDek = .ok dek)
  | provisioned (wrappedDek : Buffer) (candidate : Candidate env past wrappedDek dek) (first : keyVersion = 1)
      (inserted : ⟨.insertFirst tenantKeyId wrappedDek, .ok true⟩ ∈ past)
  | rotated (wrappedDek : Buffer) (transaction : Nat) (candidate : Candidate env past wrappedDek dek)
      (inserted : ⟨.insertIn transaction tenantKeyId keyVersion wrappedDek, .ok ()⟩ ∈ past)

/-- What the active-version pointer is set to: a version the call has seen active or has inserted. -/
inductive Pointed (past : List KeyEvent) (tenantKeyId : String) (keyVersion : Nat) : Prop where
  | read (wrappedDek : Buffer) (selected : ⟨.selectActive tenantKeyId, .ok (some (keyVersion, wrappedDek))⟩ ∈ past)
  | provisioned (wrappedDek : Buffer) (first : keyVersion = 1)
      (inserted : ⟨.insertFirst tenantKeyId wrappedDek, .ok true⟩ ∈ past)
  | rotated (wrappedDek : Buffer) (transaction : Nat)
      (inserted : ⟨.insertIn transaction tenantKeyId keyVersion wrappedDek, .ok ()⟩ ∈ past)

def Began (past : List KeyEvent) (transaction : Nat) : Prop := past.head? = some ⟨.begin, .ok transaction⟩

def Unprovisioned (past : List KeyEvent) : Prop :=
  ∀ event ∈ past, ∀ tenantKeyId wrappedDek, event.op ≠ .insertFirst tenantKeyId wrappedDek

def Clean (past : List KeyEvent) : Prop := ∀ event ∈ past, event.reply.isOk = true

def KeyTransaction.after (transaction : KeyTransaction) (event : KeyEvent) : KeyTransaction :=
  match event with
  | ⟨.retireIn _ tenantKeyId keyVersion retiredAt, .ok _⟩ => transaction.retire tenantKeyId keyVersion retiredAt
  | ⟨.insertIn _ tenantKeyId keyVersion wrappedDek, .ok _⟩ =>
    transaction.insert (activeRow tenantKeyId keyVersion wrappedDek)
  | _ => transaction

/-- The writes the call knows it has made in its transaction. -/
def written (transaction : Nat) (past : List KeyEvent) : KeyTransaction :=
  past.foldl KeyTransaction.after { id := transaction, retired := [], inserted := [] }

/-- Writes of a whole rotation: one active row inserted, and nothing retired for another tenant. -/
structure Complete (transaction : KeyTransaction) (tenantKeyId : String) : Prop where
  inserted : ∃ keyVersion wrappedDek, transaction.inserted = [activeRow tenantKeyId keyVersion wrappedDek]
  retired : ∀ write ∈ transaction.retired, write.1 = tenantKeyId

def KeyPermits (env : CryptoEnv) (call : KeyCall) (past : List KeyEvent) : KeyEffect → Prop
  | .activeVersionGet process tenantKeyId => process = call.process ∧ tenantKeyId = call.tenantKeyId
  | .activeVersionSet process tenantKeyId keyVersion =>
    process = call.process ∧ tenantKeyId = call.tenantKeyId ∧ Pointed past tenantKeyId keyVersion
  | .dekGet process tenantKeyId _ => process = call.process ∧ tenantKeyId = call.tenantKeyId
  | .dekSet process tenantKeyId keyVersion dek =>
    process = call.process ∧ tenantKeyId = call.tenantKeyId ∧ Holds env past tenantKeyId keyVersion dek
  | .randomBytes _ | .dateNow => True
  | .selectActive tenantKeyId => tenantKeyId = call.tenantKeyId
  | .selectVersion tenantKeyId _ => tenantKeyId = call.tenantKeyId
  | .insertFirst tenantKeyId wrappedDek => tenantKeyId = call.tenantKeyId ∧ Unprovisioned past ∧
      ∃ dek, Candidate env past wrappedDek dek
  | .begin => past = [] ∧ RotatesKey call
  | .selectActiveIn transaction tenantKeyId => tenantKeyId = call.tenantKeyId ∧ past = [⟨.begin, .ok transaction⟩]
  | .retireIn transaction tenantKeyId keyVersion _ => tenantKeyId = call.tenantKeyId ∧ Began past transaction ∧
      ⟨.selectActiveIn transaction tenantKeyId, .ok (some keyVersion)⟩ ∈ past
  | .insertIn transaction tenantKeyId keyVersion wrappedDek => tenantKeyId = call.tenantKeyId ∧
      Began past transaction ∧ (∃ dek, Candidate env past wrappedDek dek) ∧
      ∃ active, ⟨.selectActiveIn transaction tenantKeyId, .ok active⟩ ∈ past ∧ keyVersion = active.getD 0 + 1
  | .commit transaction => Began past transaction ∧ Clean past ∧ Complete (written transaction past) call.tenantKeyId
  | .rollback transaction => Began past transaction

inductive Fetched (env : CryptoEnv) (process : Nat) (past : List KeyEvent) (tenantKeyId : String)
    (keyVersion : Nat) (dek : Buffer) : Prop where
  | cached (hit : ⟨.dekGet process tenantKeyId keyVersion, .ok (some dek)⟩ ∈ past)
  | held (holds : Holds env past tenantKeyId keyVersion dek)

/-- How `getActiveDek` resolves: wholly from the caches, in its first two steps, or through the table. -/
inductive Resolves (env : CryptoEnv) (process : Nat) (past : List KeyEvent) (tenantKeyId : String)
    (resolved : ResolvedDek) : Prop where
  | warm (began : [⟨.activeVersionGet process tenantKeyId, .ok (some resolved.keyVersion)⟩,
      ⟨.dekGet process tenantKeyId resolved.keyVersion, .ok (some resolved.dek)⟩] <+: past)
  | cold (pointed : Pointed past tenantKeyId resolved.keyVersion)
      (fetched : Fetched env process past tenantKeyId resolved.keyVersion resolved.dek)

def KeyEnds (env : CryptoEnv) (call : KeyCall) (past : List KeyEvent) (outcome : Except Thrown KeyAnswer) : Prop :=
  match call, outcome with
  | .encryptEmail process plaintext _, .ok (.ciphertext encoded) => ∃ resolved iv versionPrefix,
      Resolves env process past call.tenantKeyId resolved ∧ writeUInt16BE resolved.keyVersion = .ok versionPrefix ∧
      ⟨.randomBytes gcmIvLength, .ok iv⟩ ∈ past ∧
      encoded = versionPrefix ++ sealed env resolved.dek iv (utf8 plaintext)
  | .decryptEmail process encoded _, .ok (.plaintext text) => ∃ envelope dek,
      parseDekCiphertextEnvelope encoded = .ok envelope ∧
      Fetched env process past call.tenantKeyId envelope.keyVersion dek ∧ decryptWithDek env dek encoded = .ok text
  | .getActiveDek process _, .ok (.resolved resolved) => Resolves env process past call.tenantKeyId resolved
  | .getDekForVersion process _ keyVersion, .ok (.dek dek) => Fetched env process past call.tenantKeyId keyVersion dek
  | .rotateTenantKey _ _, .ok (.resolved resolved) => ∃ before transaction wrappedDek,
      Candidate env before wrappedDek resolved.dek ∧
      ⟨.insertIn transaction call.tenantKeyId resolved.keyVersion wrappedDek, .ok ()⟩ ∈ before ∧
      past = before ++ [⟨.commit transaction, .ok ()⟩]
  | _, .ok _ => False
  | _, .error _ => True

end GatewayProof
