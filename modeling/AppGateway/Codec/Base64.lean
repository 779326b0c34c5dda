import Mathlib.Data.List.Basic

namespace Codec.Base64

def alphabet : List Char := "ABCDEFGHIJKLMNOPQRSTUVWXYZabcdefghijklmnopqrstuvwxyz0123456789+/".toList

def digit (sextet : Nat) : Char := alphabet.getD sextet '='

/-- Both alphabets are read, the standard and the URL-safe one. -/
def value? (c : Char) : Option Nat :=
  if 'A' ≤ c ∧ c ≤ 'Z' then some (c.toNat - 65)
  else if 'a' ≤ c ∧ c ≤ 'z' then some (c.toNat - 97 + 26)
  else if '0' ≤ c ∧ c ≤ '9' then some (c.toNat - 48 + 52)
  else if c = '+' ∨ c = '-' then some 62
  else if c = '/' ∨ c = '_' then some 63
  else none

def sextets : List UInt8 → List Nat
  | a :: b :: c :: rest =>
    a.toNat / 4 :: (a.toNat % 4 * 16 + b.toNat / 16) :: (b.toNat % 16 * 4 + c.toNat / 64) :: c.toNat % 64 ::
      sextets rest
  | [a, b] => [a.toNat / 4, a.toNat % 4 * 16 + b.toNat / 16, b.toNat % 16 * 4]
  | [a] => [a.toNat / 4, a.toNat % 4 * 16]
  | [] => []

/-- The bits that do not fill a byte are dropped. -/
def octets : List Nat → List UInt8
  | p :: q :: r :: s :: rest =>
    UInt8.ofNat (p * 4 + q / 16) :: UInt8.ofNat (q % 16 * 16 + r / 4) :: UInt8.ofNat (r % 4 * 64 + s) :: octets rest
  | [p, q, r] => [UInt8.ofNat (p * 4 + q / 16), UInt8.ofNat (q % 16 * 16 + r / 4)]
  | [p, q] => [UInt8.ofNat (p * 4 + q / 16)]
  | [_] => []
  | [] => []

def padding (length : Nat) : Nat := (3 - length % 3) % 3

def encode (bytes : List UInt8) : List Char :=
  (sextets bytes).map digit ++ List.replicate (padding bytes.length) '='

/-- The text ends where its padding begins, and characters of neither alphabet are skipped. -/
def decode (text : List Char) : List UInt8 := octets ((text.takeWhile (· ≠ '=')).filterMap value?)

theorem value?_digit : ∀ sextet, sextet < 64 → value? (digit sextet) = some sextet := by decide +kernel

theorem takeWhile_digits {digits padding : List Char} (read : ∀ c ∈ digits, (value? c).isSome)
    (padded : padding.head?.all (· = '=')) : (digits ++ padding).takeWhile (· ≠ '=') = digits := by
  have apart : ∀ c ∈ digits, decide (c ≠ '=') = true := by
    intro c member
    rw [decide_eq_true_iff]
    rintro rfl
    exact absurd (read '=' member) (by decide)
  rw [List.takeWhile_append_of_pos apart]
  cases padding with
  | nil => simp
  | cons c padding =>
    obtain rfl : c = '=' := by simpa using padded
    simp

theorem sextets_lt (bytes : List UInt8) : ∀ sextet ∈ sextets bytes, sextet < 64 := by
  fun_induction sextets bytes with
  | case1 a b c rest ih =>
    have ha := a.toNat_lt
    have hb := b.toNat_lt
    have hc := c.toNat_lt
    simp only [List.mem_cons, forall_eq_or_imp]
    exact ⟨by omega, by omega, by omega, by omega, ih⟩
  | case2 a b =>
    have ha := a.toNat_lt
    have hb := b.toNat_lt
    simp only [List.mem_cons, forall_eq_or_imp, List.not_mem_nil, false_imp_iff, implies_true, and_true]
    omega
  | case3 a =>
    have ha := a.toNat_lt
    simp only [List.mem_cons, forall_eq_or_imp, List.not_mem_nil, false_imp_iff, implies_true, and_true]
    omega
  | case4 => simp

theorem filterMap_digits {digits : List Nat} (small : ∀ sextet ∈ digits, sextet < 64) :
    (digits.map digit).filterMap value? = digits := by
  induction digits with
  | nil => rfl
  | cons sextet digits ih =>
    have first := value?_digit sextet (small sextet (List.mem_cons_self ..))
    rw [List.map_cons, List.filterMap_cons_some first, ih fun other member =>
      small other (List.mem_cons_of_mem _ member)]

theorem ofNat_eq {byte : UInt8} {n : Nat} (same : n = byte.toNat) : UInt8.ofNat n = byte := by
  rw [same, UInt8.ofNat_toNat]

theorem octets_sextets (bytes : List UInt8) : octets (sextets bytes) = bytes := by
  fun_induction sextets bytes with
  | case1 a b c rest ih =>
    have ha := a.toNat_lt
    have hb := b.toNat_lt
    have hc := c.toNat_lt
    rw [octets, ih, @ofNat_eq a _ (by omega), @ofNat_eq b _ (by omega), @ofNat_eq c _ (by omega)]
  | case2 a b =>
    have ha := a.toNat_lt
    have hb := b.toNat_lt
    rw [octets, @ofNat_eq a _ (by omega), @ofNat_eq b _ (by omega)]
  | case3 a =>
    have ha := a.toNat_lt
    rw [octets, @ofNat_eq a _ (by omega)]
  | case4 => rfl

theorem decode_encode (bytes : List UInt8) : decode (encode bytes) = bytes := by
  have small := sextets_lt bytes
  have read : ∀ c ∈ (sextets bytes).map digit, (value? c).isSome := by
    intro c member
    obtain ⟨sextet, inside, rfl⟩ := List.mem_map.mp member
    rw [value?_digit sextet (small sextet inside)]
    rfl
  have padded : (List.replicate (padding bytes.length) '=').head?.all (· = '=') := by
    cases padding bytes.length <;> rfl
  rw [decode, encode, takeWhile_digits read padded, filterMap_digits small, octets_sextets]

def urlDigit (sextet : Nat) : Char :=
  if sextet = 62 then '-' else if sextet = 63 then '_' else digit sextet

def encodeUrl (bytes : List UInt8) : List Char := (sextets bytes).map urlDigit

theorem value?_urlDigit : ∀ sextet, sextet < 64 → value? (urlDigit sextet) = some sextet := by decide +kernel

theorem filterMap_urlDigits {digits : List Nat} (small : ∀ sextet ∈ digits, sextet < 64) :
    (digits.map urlDigit).filterMap value? = digits := by
  induction digits with
  | nil => rfl
  | cons sextet digits ih =>
    have first := value?_urlDigit sextet (small sextet (List.mem_cons_self ..))
    rw [List.map_cons, List.filterMap_cons_some first, ih fun other member =>
      small other (List.mem_cons_of_mem _ member)]

theorem decode_encodeUrl (bytes : List UInt8) : decode (encodeUrl bytes) = bytes := by
  have small := sextets_lt bytes
  have read : ∀ c ∈ (sextets bytes).map urlDigit, (value? c).isSome := by
    intro c member
    obtain ⟨sextet, inside, rfl⟩ := List.mem_map.mp member
    rw [value?_urlDigit sextet (small sextet inside)]
    rfl
  have ends := @takeWhile_digits _ [] read rfl
  rw [List.append_nil] at ends
  rw [decode, encodeUrl, ends, filterMap_urlDigits small, octets_sextets]

theorem dot_not_urlDigit : ∀ sextet, sextet < 64 → urlDigit sextet ≠ '.' := by decide +kernel

theorem dot_notMem_encodeUrl (bytes : List UInt8) : '.' ∉ encodeUrl bytes := by
  intro member
  obtain ⟨sextet, inside, same⟩ := List.mem_map.mp member
  exact dot_not_urlDigit sextet (sextets_lt bytes sextet inside) same

example : String.ofList (encode [102, 111, 111, 98, 97]) = "Zm9vYmE=" := by decide

end Codec.Base64
