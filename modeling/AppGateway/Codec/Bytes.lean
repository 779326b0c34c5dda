import Mathlib.Algebra.Group.Nat.Defs
import Mathlib.Data.List.Perm.Subperm
import Mathlib.Data.List.Nodup

namespace Codec.Bytes

def littleEndian : Nat → Nat → List UInt8
  | 0, _ => []
  | size + 1, value => UInt8.ofNat (value % 256) :: littleEndian size (value / 256)

@[simp] theorem length_littleEndian (size value : Nat) : (littleEndian size value).length = size := by
  induction size generalizing value with
  | zero => rfl
  | succ size ih => rw [littleEndian, List.length_cons, ih]

theorem littleEndian_inj {size value value' : Nat} (bound : value < 256 ^ size) (bound' : value' < 256 ^ size)
    (same : littleEndian size value = littleEndian size value') : value = value' := by
  induction size generalizing value value' with
  | zero =>
    rw [Nat.pow_zero] at bound bound'
    omega
  | succ size ih =>
    obtain ⟨low, high⟩ := List.cons.inj same
    have digit : value % 256 = value' % 256 := by
      have bytes := congrArg UInt8.toNat low
      rw [UInt8.toNat_ofNat', UInt8.toNat_ofNat'] at bytes
      omega
    rw [Nat.pow_succ] at bound bound'
    have rest := ih (Nat.div_lt_of_lt_mul (by omega)) (Nat.div_lt_of_lt_mul (by omega)) high
    omega

theorem exists_fresh {drawn : List (List UInt8)} {size : Nat} (room : drawn.length < 256 ^ size) :
    ∃ bytes, bytes.length = size ∧ bytes ∉ drawn := by
  by_contra none
  have all : (List.range (256 ^ size)).map (littleEndian size) ⊆ drawn := by
    intro bytes member
    obtain ⟨value, _, rfl⟩ := List.mem_map.mp member
    by_contra fresh
    exact none ⟨_, length_littleEndian size value, fresh⟩
  have distinct : ((List.range (256 ^ size)).map (littleEndian size)).Nodup := by
    refine List.Nodup.map_on ?_ List.nodup_range
    intro value member value' member' same
    exact littleEndian_inj (List.mem_range.mp member) (List.mem_range.mp member') same
  have count := (List.Nodup.subperm distinct all).length_le
  rw [List.length_map, List.length_range] at count
  omega

end Codec.Bytes
