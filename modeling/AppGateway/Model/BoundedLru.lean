import AppGateway.Store.InsertionMap

namespace GatewayModel

/-- `class BoundedLru` of `tenantKey.service.ts`. Values are never `undefined`. -/
structure BoundedLru (Key Value : Type) where
  maxSize : Nat
  store : Store.InsertionMap Key Value

namespace BoundedLru

variable {Key Value : Type} [DecidableEq Key]

def new (maxSize : Nat) : BoundedLru Key Value := ⟨maxSize, .empty⟩

def get (cache : BoundedLru Key Value) (key : Key) : Option Value × BoundedLru Key Value :=
  match cache.store.get key with
  | none => (none, cache)
  | some value =>
    let store := cache.store.delete key
    let store := store.set key value
    (some value, { cache with store })

def set (cache : BoundedLru Key Value) (key : Key) (value : Value) : BoundedLru Key Value :=
  let store := cache.store.delete key
  let store := store.set key value
  if cache.maxSize < store.size then
    match store.keys.head? with
    | some oldestKey => { cache with store := store.delete oldestKey }
    | none => { cache with store }
  else { cache with store }

end BoundedLru

inductive CacheCall (Key Value : Type) where
  | get (key : Key)
  | set (key : Key) (value : Value)
deriving DecidableEq, Repr

end GatewayModel
