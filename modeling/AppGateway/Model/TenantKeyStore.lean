import AppGateway.Model.Platform
import AppGateway.Store.BoundedLru

namespace GatewayModel

open Async

/-- A Node `Buffer`; a base64 text is modelled as the bytes it stands for. -/
abbrev Buffer := List UInt8

inductive KeyStatus where
  | active | retired
deriving DecidableEq, Repr

structure TenantKeyRow where
  tenantId : String
  keyVersion : Nat
  wrappedDek : Buffer
  status : KeyStatus
  retiredAt : Option Nat
deriving DecidableEq, Repr

structure KeyTransaction where
  id : Nat
  retired : List (String × Nat × Nat)
  inserted : List TenantKeyRow
deriving DecidableEq, Repr

def maxCachedDeks : Nat := 500

/-- The two caches of one process. A restarted process is a new one, with empty caches. -/
structure ProcessCaches where
  dekCache : Store.BoundedLru maxCachedDeks String Buffer := .empty
  activeVersionCache : Store.BoundedLru maxCachedDeks String Nat := .empty

structure KeyState where
  clock : Nat
  rows : List TenantKeyRow
  transactions : List KeyTransaction
  nextTransaction : Nat
  caches : Nat → ProcessCaches
  /-- What `randomBytes` has returned; it never repeats. -/
  drawn : List Buffer

/-- The awaited statements, the accesses to the caches, the clock and the random source. Statements
    with a transaction number run in that transaction, the others commit at once. -/
inductive KeyEffect where
  | activeVersionGet (process : Nat) (tenantKeyId : String)
  | activeVersionSet (process : Nat) (tenantKeyId : String) (keyVersion : Nat)
  | dekGet (process : Nat) (tenantKeyId : String) (keyVersion : Nat)
  | dekSet (process : Nat) (tenantKeyId : String) (keyVersion : Nat) (dek : Buffer)
  | randomBytes (size : Nat)
  | dateNow
  | selectActive (tenantKeyId : String)
  | selectVersion (tenantKeyId : String) (keyVersion : Nat)
  | insertFirst (tenantKeyId : String) (wrappedDek : Buffer)
  | begin
  | selectActiveIn (transaction : Nat) (tenantKeyId : String)
  | retireIn (transaction : Nat) (tenantKeyId : String) (keyVersion retiredAt : Nat)
  | insertIn (transaction : Nat) (tenantKeyId : String) (keyVersion : Nat) (wrappedDek : Buffer)
  | commit (transaction : Nat)
  | rollback (transaction : Nat)
deriving DecidableEq, Repr

@[reducible] def KeyEffect.Reply : KeyEffect → Type
  | .activeVersionGet .. => Option Nat
  | .activeVersionSet .. => Unit
  | .dekGet .. => Option Buffer
  | .dekSet .. => Unit
  | .randomBytes _ => Buffer
  | .dateNow => Nat
  | .selectActive _ => Option (Nat × Buffer)
  | .selectVersion .. => Option Buffer
  | .insertFirst .. => Bool
  | .begin => Nat
  | .selectActiveIn .. => Option Nat
  | .retireIn .. => Unit
  | .insertIn .. => Unit
  | .commit _ => Unit
  | .rollback _ => Unit

def KeyEffect.isLocal : KeyEffect → Bool
  | .activeVersionGet .. | .activeVersionSet .. | .dekGet .. | .dekSet .. | .randomBytes _ | .dateNow => true
  | _ => false

def KeyEffect.aborts : KeyEffect → Option Nat
  | .selectActiveIn transaction _ | .retireIn transaction .. | .insertIn transaction .. | .commit transaction =>
    some transaction
  | _ => none

structure KeyChoice where
  fault : Fault := .none
  bytes : Buffer := []
deriving DecidableEq, Repr

def cacheKey (tenantKeyId : String) (keyVersion : Nat) : String := tenantKeyId ++ ":" ++ toString keyVersion

def TenantKeyRow.named (row : TenantKeyRow) (tenantKeyId : String) (keyVersion : Nat) : Bool :=
  row.tenantId = tenantKeyId ∧ row.keyVersion = keyVersion

def TenantKeyRow.activeFor (row : TenantKeyRow) (tenantKeyId : String) : Bool :=
  row.tenantId = tenantKeyId ∧ row.status = .active

def activeRow (tenantKeyId : String) (keyVersion : Nat) (wrappedDek : Buffer) : TenantKeyRow where
  tenantId := tenantKeyId
  keyVersion := keyVersion
  wrappedDek := wrappedDek
  status := .active
  retiredAt := none

def TenantKeyRow.retire (tenantKeyId : String) (keyVersion retiredAt : Nat) (row : TenantKeyRow) : TenantKeyRow :=
  if row.named tenantKeyId keyVersion then { row with status := .retired, retiredAt := some retiredAt } else row

def TenantKeyRow.retireAll (writes : List (String × Nat × Nat)) (row : TenantKeyRow) : TenantKeyRow :=
  writes.foldl (fun row (tenantKeyId, keyVersion, retiredAt) => row.retire tenantKeyId keyVersion retiredAt) row

namespace KeyTransaction

def view (transaction : KeyTransaction) (rows : List TenantKeyRow) : List TenantKeyRow :=
  rows.map (·.retireAll transaction.retired) ++ transaction.inserted

def retires (transaction : KeyTransaction) (tenantKeyId : String) (keyVersion : Nat) : Bool :=
  transaction.retired.any fun write => write.1 = tenantKeyId ∧ write.2.1 = keyVersion

def retire (transaction : KeyTransaction) (tenantKeyId : String) (keyVersion retiredAt : Nat) : KeyTransaction :=
  { transaction with retired := transaction.retired ++ [(tenantKeyId, keyVersion, retiredAt)]
                     inserted := transaction.inserted.map (·.retire tenantKeyId keyVersion retiredAt) }

def insert (transaction : KeyTransaction) (row : TenantKeyRow) : KeyTransaction :=
  { transaction with inserted := transaction.inserted ++ [row] }

end KeyTransaction

inductive IndexCheck where
  | blocked | primaryKey | activeIndex | fits
deriving DecidableEq, Repr

/-- The primary key is checked first. An entry of another open transaction, and the active row that
    another open transaction has retired, make the INSERT wait. -/
def checkIndexes (view : List TenantKeyRow) (others : List KeyTransaction) (tenantKeyId : String)
    (keyVersion : Nat) : IndexCheck :=
  if view.any fun row => row.named tenantKeyId keyVersion then .primaryKey
  else if others.any fun other => other.inserted.any fun row =>
      row.named tenantKeyId keyVersion || row.activeFor tenantKeyId then .blocked
  else
    match view.find? fun row => row.activeFor tenantKeyId with
    | some row => if others.any fun other => other.retires tenantKeyId row.keyVersion then .blocked else .activeIndex
    | none => .fits

def primaryKeyViolation : Thrown := .uniqueViolation "tenant_encryption_keys_tenant_id_key_version_pk"

def activeIndexViolation : Thrown := .uniqueViolation "tenant_encryption_keys_active_idx"

namespace KeyState

def transaction (state : KeyState) (id : Nat) : Option KeyTransaction :=
  state.transactions.find? fun transaction => transaction.id = id

def others (state : KeyState) (id : Nat) : List KeyTransaction :=
  state.transactions.filter fun transaction => transaction.id ≠ id

def abort (state : KeyState) (id : Nat) : KeyState := { state with transactions := state.others id }

def put (state : KeyState) (transaction : KeyTransaction) : KeyState :=
  { state with transactions := transaction :: state.others transaction.id }

def setCaches (state : KeyState) (process : Nat) (caches : ProcessCaches) : KeyState :=
  { state with caches := Function.update state.caches process caches }

end KeyState

def respondKey (choice : KeyChoice) (state : KeyState) :
    (effect : KeyEffect) → Option (Except Thrown effect.Reply × KeyState)
  | .activeVersionGet process tenantKeyId =>
    let (found, activeVersionCache) := (state.caches process).activeVersionCache.get tenantKeyId
    some (.ok found, state.setCaches process { state.caches process with activeVersionCache })
  | .activeVersionSet process tenantKeyId keyVersion =>
    let activeVersionCache := (state.caches process).activeVersionCache.set tenantKeyId keyVersion
    some (.ok (), state.setCaches process { state.caches process with activeVersionCache })
  | .dekGet process tenantKeyId keyVersion =>
    let (found, dekCache) := (state.caches process).dekCache.get (cacheKey tenantKeyId keyVersion)
    some (.ok found, state.setCaches process { state.caches process with dekCache })
  | .dekSet process tenantKeyId keyVersion dek =>
    let dekCache := (state.caches process).dekCache.set (cacheKey tenantKeyId keyVersion) dek
    some (.ok (), state.setCaches process { state.caches process with dekCache })
  | .randomBytes size =>
    if choice.bytes.length = size ∧ choice.bytes ∉ state.drawn then
      some (.ok choice.bytes, { state with drawn := choice.bytes :: state.drawn })
    else none
  | .dateNow => some (.ok state.clock, state)
  | .selectActive tenantKeyId =>
    some (.ok ((state.rows.find? fun row => row.activeFor tenantKeyId).map fun row =>
      (row.keyVersion, row.wrappedDek)), state)
  | .selectVersion tenantKeyId keyVersion =>
    some (.ok ((state.rows.find? fun row => row.named tenantKeyId keyVersion).map (·.wrappedDek)), state)
  | .insertFirst tenantKeyId wrappedDek =>
    match checkIndexes state.rows state.transactions tenantKeyId 1 with
    | .blocked => none
    | .primaryKey => some (.ok false, state)
    | .activeIndex => some (.error activeIndexViolation, state)
    | .fits =>
      some (.ok true, { state with rows := state.rows ++ [activeRow tenantKeyId 1 wrappedDek] })
  | .begin =>
    some (.ok state.nextTransaction, { state with
      nextTransaction := state.nextTransaction + 1
      transactions := { id := state.nextTransaction, retired := [], inserted := [] } :: state.transactions })
  | .selectActiveIn id tenantKeyId =>
    match state.transaction id with
    | none => some (.error .stepFailed, state)
    | some transaction =>
      some (.ok (((transaction.view state.rows).filter fun row => row.activeFor tenantKeyId).map
        (·.keyVersion)).max?, state)
  | .retireIn id tenantKeyId keyVersion retiredAt =>
    match state.transaction id with
    | none => some (.error .stepFailed, state)
    | some transaction =>
      if (state.others id).any fun other => other.retires tenantKeyId keyVersion then none
      else if (transaction.view state.rows).any fun row => row.named tenantKeyId keyVersion then
        some (.ok (), state.put (transaction.retire tenantKeyId keyVersion retiredAt))
      else some (.ok (), state)
  | .insertIn id tenantKeyId keyVersion wrappedDek =>
    match state.transaction id with
    | none => some (.error .stepFailed, state)
    | some transaction =>
      match checkIndexes (transaction.view state.rows) (state.others id) tenantKeyId keyVersion with
      | .blocked => none
      | .primaryKey => some (.error primaryKeyViolation, state.abort id)
      | .activeIndex => some (.error activeIndexViolation, state.abort id)
      | .fits =>
        some (.ok (), state.put (transaction.insert (activeRow tenantKeyId keyVersion wrappedDek)))
  | .commit id =>
    match state.transaction id with
    | none => some (.error .stepFailed, state)
    | some transaction => some (.ok (), { state.abort id with rows := transaction.view state.rows })
  | .rollback id => some (.ok (), state.abort id)

/-- A statement that is lost aborts its transaction; a COMMIT that is lost has committed nothing. -/
def execKey (effect : KeyEffect) (choice : KeyChoice) (state : KeyState) :
    Option (Except Thrown effect.Reply × KeyState) :=
  match choice.fault with
  | .none => respondKey choice state effect
  | .lost =>
    if effect.isLocal then none
    else some (.error .stepFailed, match effect.aborts with
      | some id => state.abort id
      | none => state)
  | .unacknowledged =>
    if effect.isLocal then none
    else (respondKey choice state effect).map fun (_, after) => (.error .stepFailed, after)

inductive KeyExternal where
  | elapse (ms : Nat)
  | terminate (transaction : Nat)
deriving DecidableEq, Repr

def externalKey (event : KeyExternal) (state : KeyState) : KeyState :=
  match event with
  | .elapse ms => { state with clock := state.clock + ms }
  | .terminate id => state.abort id

abbrev Keys := Program KeyEffect.Reply Thrown

def freshKeys (clock : Nat) : KeyState where
  clock := clock
  rows := []
  transactions := []
  nextTransaction := 0
  caches := fun _ => {}
  drawn := []

namespace Keys

def perform (effect : KeyEffect) : Keys effect.Reply := Program.perform effect

def activeVersionGet (process : Nat) (tenantKeyId : String) : Keys (Option Nat) :=
  perform (.activeVersionGet process tenantKeyId)

def activeVersionSet (process : Nat) (tenantKeyId : String) (keyVersion : Nat) : Keys Unit :=
  perform (.activeVersionSet process tenantKeyId keyVersion)

def dekGet (process : Nat) (tenantKeyId : String) (keyVersion : Nat) : Keys (Option Buffer) :=
  perform (.dekGet process tenantKeyId keyVersion)

def dekSet (process : Nat) (tenantKeyId : String) (keyVersion : Nat) (dek : Buffer) : Keys Unit :=
  perform (.dekSet process tenantKeyId keyVersion dek)

def randomBytes (size : Nat) : Keys Buffer := perform (.randomBytes size)

def dateNow : Keys Nat := perform .dateNow

def selectActive (tenantKeyId : String) : Keys (Option (Nat × Buffer)) := perform (.selectActive tenantKeyId)

def selectVersion (tenantKeyId : String) (keyVersion : Nat) : Keys (Option Buffer) :=
  perform (.selectVersion tenantKeyId keyVersion)

def insertFirst (tenantKeyId : String) (wrappedDek : Buffer) : Keys Bool :=
  perform (.insertFirst tenantKeyId wrappedDek)

def selectActiveIn (transaction : Nat) (tenantKeyId : String) : Keys (Option Nat) :=
  perform (.selectActiveIn transaction tenantKeyId)

def retireIn (transaction : Nat) (tenantKeyId : String) (keyVersion retiredAt : Nat) : Keys Unit :=
  perform (.retireIn transaction tenantKeyId keyVersion retiredAt)

def insertIn (transaction : Nat) (tenantKeyId : String) (keyVersion : Nat) (wrappedDek : Buffer) : Keys Unit :=
  perform (.insertIn transaction tenantKeyId keyVersion wrappedDek)

/-- `db.transaction`: the callback between BEGIN and COMMIT; when either throws, ROLLBACK and throw on. -/
def transaction {α : Type} (callback : Nat → Keys α) : Keys α := do
  let id ← perform .begin
  tryCatch
    (do
      let result ← callback id
      perform (.commit id)
      return result)
    fun thrown => do
      perform (.rollback id)
      throw thrown

end Keys
end GatewayModel
