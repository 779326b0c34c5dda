import AppGateway.Model.SigningKeys

namespace GatewayModel

/-- A promise of the keys, or of what `then` makes of them: resolved, or as a load ends. -/
inductive KeyPromise where
  | resolved (keys : SigningKeys)
  | load (index : Nat)
deriving DecidableEq, Repr

structure KeyLoad where
  outcome : Except Thrown SigningKeys
  settled : Bool

inductive KeyUse where
  | signAccessToken | verifyAccessToken | getJwks
deriving DecidableEq, Repr

/-- A call, with the promise of keys that it awaits, and whether loading would have succeeded when it was made or a load
    had succeeded before. -/
structure KeyUser where
  use : KeyUse
  promise : KeyPromise
  entitled : Bool

/-- The variables of the two modules, with the loads and the calls of the process so far. -/
structure KeyMemory where
  cachedKeys : Option SigningKeys
  cachedJwksDocument : Option KeyPromise
  cachedVerifyKeySet : Option KeyPromise
  loads : List KeyLoad
  users : List KeyUser

namespace KeyMemory

def initial : KeyMemory where
  cachedKeys := none
  cachedJwksDocument := none
  cachedVerifyKeySet := none
  loads := []
  users := []

def succeeded (memory : KeyMemory) : Bool := memory.loads.any fun load => load.settled && load.outcome.isOk

/-- The promise and the memory after the call; a load that starts now ends with `now`. -/
def loadSigningKeys (now : Except Thrown SigningKeys) (memory : KeyMemory) : KeyPromise × KeyMemory :=
  match memory.cachedKeys with
  | some keys => (.resolved keys, memory)
  | none => (.load memory.loads.length, { memory with loads := memory.loads ++ [{ outcome := now, settled := false }] })

/-- `cachedJwksDocument ??= loadSigningKeys().then(buildJwksDocument)`. -/
def getJwksDocument (now : Except Thrown SigningKeys) (memory : KeyMemory) : KeyPromise × KeyMemory :=
  match memory.cachedJwksDocument with
  | some promise => (promise, memory)
  | none =>
    let (promise, loading) := loadSigningKeys now memory
    (promise, { loading with cachedJwksDocument := some promise })

/-- `cachedVerifyKeySet ??= getJwksDocument().then(...)`. -/
def getVerifyKeySet (now : Except Thrown SigningKeys) (memory : KeyMemory) : KeyPromise × KeyMemory :=
  match memory.cachedVerifyKeySet with
  | some promise => (promise, memory)
  | none =>
    let (promise, loading) := getJwksDocument now memory
    (promise, { loading with cachedVerifyKeySet := some promise })

def ask (use : KeyUse) (now : Except Thrown SigningKeys) (memory : KeyMemory) : KeyPromise × KeyMemory :=
  match use with
  | .signAccessToken => loadSigningKeys now memory
  | .verifyAccessToken => getVerifyKeySet now memory
  | .getJwks => getJwksDocument now memory

def outcome (memory : KeyMemory) : KeyPromise → Option (Except Thrown SigningKeys)
  | .resolved keys => some (.ok keys)
  | .load index =>
    match memory.loads[index]? with
    | some load => if load.settled then some load.outcome else none
    | none => none

inductive Label where
  | call (use : KeyUse) (now : Except Thrown SigningKeys)
  | settle (index : Nat)

def next (memory : KeyMemory) : Label → Option KeyMemory
  | .call use now =>
    let (promise, asked) := ask use now memory
    some { asked with users := memory.users ++ [{ use, promise, entitled := now.isOk || memory.succeeded }] }
  | .settle index =>
    match memory.loads[index]? with
    | none => none
    | some load =>
      if load.settled then none
      else
        some { memory with
          loads := memory.loads.set index { load with settled := true }
          cachedKeys := match load.outcome with
            | .ok keys => some keys
            | .error _ => memory.cachedKeys }

end KeyMemory
end GatewayModel
