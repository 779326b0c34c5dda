import AppGateway.Model.Crypto

namespace GatewayModel

open Async Keys

variable (env : CryptoEnv)

/-- The bucket of users without a tenant. -/
def defaultTenantKeyId : String := "00000000-0000-0000-0000-000000000000"

def dekLengthBytes : Nat := 32

def resolveTenantKeyId (tenantId : Option String) : String := tenantId.getD defaultTenantKeyId

structure ResolvedDek where
  dek : Buffer
  keyVersion : Nat
deriving DecidableEq, Repr

def unwrapAndCache (process : Nat) (tenantKeyId : String) (keyVersion : Nat) (wrappedDek : Buffer) :
    Keys ResolvedDek := do
  let cached ← dekGet process tenantKeyId keyVersion
  match cached with
  | some dek => return { dek, keyVersion }
  | none =>
    let dek ← .done (unwrapDek env wrappedDek)
    dekSet process tenantKeyId keyVersion dek
    return { dek, keyVersion }

def findActiveRow (tenantKeyId : String) : Keys (Option (Nat × Buffer)) := selectActive tenantKeyId

def adoptActiveRow (process : Nat) (tenantKeyId : String) (active : Nat × Buffer) : Keys ResolvedDek := do
  activeVersionSet process tenantKeyId active.1
  unwrapAndCache env process tenantKeyId active.1 active.2

def provisionActiveKey (process : Nat) (tenantKeyId : String) : Keys ResolvedDek := do
  let rawDek ← randomBytes dekLengthBytes
  let wrappedDek ← wrapDek env rawDek
  let inserted ← insertFirst tenantKeyId wrappedDek
  if inserted then
    dekSet process tenantKeyId 1 rawDek
    activeVersionSet process tenantKeyId 1
    return { dek := rawDek, keyVersion := 1 }
  else
    let existing ← findActiveRow tenantKeyId
    match existing with
    | none =>
      throw (.error ("Failed to provision or resolve an active DEK for tenant key \"" ++ tenantKeyId ++ "\""))
    | some active => adoptActiveRow env process tenantKeyId active

def cachedActiveDek (process : Nat) (tenantKeyId : String) : Keys (Option ResolvedDek) := do
  let cachedVersion ← activeVersionGet process tenantKeyId
  match cachedVersion with
  | none => return none
  | some keyVersion =>
    let cachedDek ← dekGet process tenantKeyId keyVersion
    return cachedDek.map fun dek => { dek, keyVersion }

def getActiveDek (process : Nat) (tenantId : Option String) : Keys ResolvedDek := do
  let tenantKeyId := resolveTenantKeyId tenantId
  let warm ← cachedActiveDek process tenantKeyId
  match warm with
  | some resolved => return resolved
  | none =>
    let active ← findActiveRow tenantKeyId
    match active with
    | none => provisionActiveKey env process tenantKeyId
    | some active => adoptActiveRow env process tenantKeyId active

def getDekForVersion (process : Nat) (tenantId : Option String) (keyVersion : Nat) : Keys Buffer := do
  let tenantKeyId := resolveTenantKeyId tenantId
  let cached ← dekGet process tenantKeyId keyVersion
  match cached with
  | some dek => return dek
  | none =>
    let row ← selectVersion tenantKeyId keyVersion
    match row with
    | none =>
      throw (.error ("No tenant_encryption_keys row for tenant \"" ++ tenantKeyId ++ "\" at key_version " ++
        toString keyVersion))
    | some wrappedDek =>
      let resolved ← unwrapAndCache env process tenantKeyId keyVersion wrappedDek
      return resolved.dek

def rotateIn (process : Nat) (tenantKeyId : String) (tx : Nat) : Keys ResolvedDek := do
  let active ← selectActiveIn tx tenantKeyId
  let nextVersion := active.getD 0 + 1
  match active with
  | some keyVersion =>
    let retiredAt ← dateNow
    retireIn tx tenantKeyId keyVersion retiredAt
  | none => pure ()
  let rawDek ← randomBytes dekLengthBytes
  let wrappedDek ← wrapDek env rawDek
  insertIn tx tenantKeyId nextVersion wrappedDek
  dekSet process tenantKeyId nextVersion rawDek
  activeVersionSet process tenantKeyId nextVersion
  return { dek := rawDek, keyVersion := nextVersion }

def rotateTenantKey (process : Nat) (tenantId : Option String) : Keys ResolvedDek :=
  transaction fun tx => rotateIn env process (resolveTenantKeyId tenantId) tx

/-! The two functions of `crypto.ts` over the service -/

def encryptEmail (process : Nat) (plaintext : String) (tenantId : Option String) : Keys Buffer := do
  let resolved ← getActiveDek env process tenantId
  encryptWithDek env resolved.dek resolved.keyVersion plaintext

def decryptEmail (process : Nat) (encoded : Buffer) (tenantId : Option String) : Keys String := do
  let envelope ← .done (parseDekCiphertextEnvelope encoded)
  let dek ← getDekForVersion env process tenantId envelope.keyVersion
  .done (decryptWithDek env dek encoded)

/-! Any number of processes -/

inductive KeyCall where
  | encryptEmail (process : Nat) (plaintext : String) (tenantId : Option String)
  | decryptEmail (process : Nat) (encoded : Buffer) (tenantId : Option String)
  | getActiveDek (process : Nat) (tenantId : Option String)
  | getDekForVersion (process : Nat) (tenantId : Option String) (keyVersion : Nat)
  | rotateTenantKey (process : Nat) (tenantId : Option String)
deriving DecidableEq, Repr

def KeyCall.process : KeyCall → Nat
  | .encryptEmail process .. | .decryptEmail process .. | .getActiveDek process _ | .getDekForVersion process ..
  | .rotateTenantKey process _ => process

def KeyCall.tenantKeyId : KeyCall → String
  | .encryptEmail _ _ tenantId | .decryptEmail _ _ tenantId | .getActiveDek _ tenantId
  | .getDekForVersion _ tenantId _ | .rotateTenantKey _ tenantId => resolveTenantKeyId tenantId

inductive KeyAnswer where
  | ciphertext (encoded : Buffer)
  | plaintext (text : String)
  | resolved (active : ResolvedDek)
  | dek (dek : Buffer)
deriving DecidableEq, Repr

def KeyCall.code : KeyCall → Keys KeyAnswer
  | .encryptEmail process plaintext tenantId => do
    return .ciphertext (← GatewayModel.encryptEmail env process plaintext tenantId)
  | .decryptEmail process encoded tenantId => do
    return .plaintext (← GatewayModel.decryptEmail env process encoded tenantId)
  | .getActiveDek process tenantId => do
    return .resolved (← GatewayModel.getActiveDek env process tenantId)
  | .getDekForVersion process tenantId keyVersion => do
    return .dek (← GatewayModel.getDekForVersion env process tenantId keyVersion)
  | .rotateTenantKey process tenantId => do
    return .resolved (← GatewayModel.rotateTenantKey env process tenantId)

def gateways : System KeyEffect.Reply Thrown KeyState KeyChoice KeyExternal KeyCall KeyAnswer where
  exec := execKey
  external := externalKey
  code := KeyCall.code env

end GatewayModel
