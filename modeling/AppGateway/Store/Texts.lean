import Mathlib.Logic.Function.Basic

namespace Store

structure Text where
  text : String
  expiresAt : Option Nat
deriving DecidableEq, Repr

abbrev Texts := String → Option Text

namespace Texts

def get (store : Texts) (now : Nat) (key : String) : Option String :=
  ((store key).filter fun kept => kept.expiresAt.all fun expiresAt => now < expiresAt).map (·.text)

def set (store : Texts) (key text : String) (expiresAt : Nat) : Texts :=
  Function.update store key (some ⟨text, some expiresAt⟩)

def setNx (store : Texts) (now : Nat) (key text : String) (expiresAt : Nat) : Bool × Texts :=
  match store.get now key with
  | some _ => (false, store)
  | none => (true, store.set key text expiresAt)

def del (store : Texts) (key : String) : Texts := Function.update store key none

theorem get_set_same (store : Texts) (now : Nat) (key text : String) (expiresAt : Nat) :
    (store.set key text expiresAt).get now key = if now < expiresAt then some text else none := by
  by_cases live : now < expiresAt <;> simp [get, set, live, Option.filter_some]

theorem get_update_other (store : Texts) (now : Nat) {key other : String} (kept : Option Text)
    (different : other ≠ key) :
    get (Function.update store key kept) now other = store.get now other := by
  simp [get, different]

theorem get_del_same (store : Texts) (now : Nat) (key : String) : (store.del key).get now key = none := by
  simp [get, del]

end Texts
end Store
