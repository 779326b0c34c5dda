import AppGateway.Codec.Json
import Mathlib.Algebra.GroupWithZero.Nat
import Mathlib.Data.List.TakeWhile

/-! Binary floating-point numbers, and the one that a numeric literal denotes. -/

namespace Codec

/-- A binary format: how many bits a number keeps, the least positive number `2 ^ -least`, and the first power of two
    that is out of range. -/
structure FloatFormat where
  precision : Nat
  least : Nat
  range : Nat
deriving DecidableEq, Repr

def binary64 : FloatFormat := ⟨53, 1074, 1024⟩

/-- A finite number is a multiple of the least positive one. -/
inductive FloatValue where
  | finite (negative : Bool) (units : Nat)
  | infinite (negative : Bool)
deriving DecidableEq, Repr

def FloatValue.isPositive : FloatValue → Bool
  | .finite negative units => !negative && 0 < units
  | .infinite negative => !negative

namespace FloatFormat

/-- The whole number nearest to a quotient, of two the even one. -/
def nearest (num den : Nat) : Nat :=
  if 2 * (num % den) < den then num / den
  else if den < 2 * (num % den) then num / den + 1
  else num / den + num / den % 2

variable (format : FloatFormat)

def spare (units : Nat) : Nat := Nat.log2 units + 1 - format.precision

def rounded (num den : Nat) : Nat :=
  let spare := format.spare (num * 2 ^ format.least / den)
  nearest (num * 2 ^ format.least) (den * 2 ^ spare) * 2 ^ spare

def ofRatio (negative : Bool) (num den : Nat) : FloatValue :=
  let units := format.rounded num den
  if units < 2 ^ (format.range + format.least) then .finite negative units else .infinite negative

def whole? : FloatValue → Option Int
  | .finite negative units =>
    if 2 ^ format.least ∣ units then
      some (if negative then -(units / 2 ^ format.least : Nat) else (units / 2 ^ format.least : Nat))
    else none
  | .infinite _ => none

def atMost (bound : Nat) : FloatValue → Bool
  | .finite negative units => negative || units ≤ bound * 2 ^ format.least
  | .infinite negative => negative

theorem nearest_exact {count den : Nat} (positive : 0 < den) : nearest (count * den) den = count := by
  rw [nearest, Nat.mul_mod_left, if_pos (by omega), Nat.mul_div_cancel _ positive]

theorem log2_mul_pow {n : Nat} (positive : n ≠ 0) (count : Nat) : Nat.log2 (n * 2 ^ count) = Nat.log2 n + count := by
  have pow : 0 < 2 ^ count := Nat.two_pow_pos count
  have nonzero : n * 2 ^ count ≠ 0 := Nat.mul_ne_zero positive (by omega)
  obtain ⟨low, high⟩ := (Nat.log2_eq_iff positive).mp rfl
  rw [Nat.log2_eq_iff nonzero, Nat.add_right_comm, Nat.pow_add, Nat.pow_add _ (_ + 1)]
  exact ⟨Nat.mul_le_mul_right _ low, Nat.mul_lt_mul_of_pos_right high pow⟩

theorem rounded_exact {n : Nat} (fits : n < 2 ^ format.precision) : format.rounded n 1 = n * 2 ^ format.least := by
  have divides : 2 ^ format.spare (n * 2 ^ format.least) ∣ n * 2 ^ format.least := by
    by_cases zero : n = 0
    · simp [zero]
    · apply Nat.dvd_mul_left_of_dvd
      apply Nat.pow_dvd_pow
      have few : Nat.log2 n < format.precision := (Nat.log2_lt zero).mpr fits
      rw [spare, log2_mul_pow zero]
      omega
  simp only [rounded, Nat.div_one, Nat.one_mul]
  generalize 2 ^ format.spare (n * 2 ^ format.least) = step at divides ⊢
  obtain ⟨count, whole⟩ := divides
  by_cases zero : step = 0
  · rw [whole, zero, Nat.zero_mul, Nat.mul_zero]
  · rw [whole, Nat.mul_comm step count, nearest_exact (Nat.pos_of_ne_zero zero)]

theorem whole?_ofRatio {n : Nat} (fits : n < 2 ^ format.precision) (wide : format.precision ≤ format.range)
    (negative : Bool) : format.whole? (format.ofRatio negative n 1) = some (if negative then -(n : Int) else n) := by
  have pow : 0 < 2 ^ format.least := Nat.two_pow_pos _
  have inside : n * 2 ^ format.least < 2 ^ (format.range + format.least) := by
    rw [Nat.pow_add]
    exact Nat.mul_lt_mul_of_pos_right (Nat.lt_of_lt_of_le fits (Nat.pow_le_pow_right (by decide) wide)) pow
  simp only [ofRatio, rounded_exact format fits, inside, if_true, whole?, Nat.dvd_mul_left, Nat.mul_div_cancel _ pow]

section Whole

variable {value : FloatValue} {n : Int}

theorem isPositive_iff (whole : format.whole? value = some n) : value.isPositive = true ↔ 0 < n := by
  have pow : 0 < 2 ^ format.least := Nat.two_pow_pos _
  cases value with
  | infinite negative => cases whole
  | finite negative units =>
    simp only [whole?] at whole
    split at whole
    · rename_i divides
      obtain ⟨count, rfl⟩ := divides
      rw [Nat.mul_div_cancel_left _ pow] at whole
      cases whole
      have counted : 0 < 2 ^ format.least * count ↔ 0 < count := Nat.mul_pos_iff_of_pos_left pow
      cases negative with
      | true => simp [FloatValue.isPositive]
      | false => simp [FloatValue.isPositive, counted]
    · cases whole

theorem atMost_iff (whole : format.whole? value = some n) (bound : Nat) :
    format.atMost bound value = true ↔ n ≤ bound := by
  have pow : 0 < 2 ^ format.least := Nat.two_pow_pos _
  cases value with
  | infinite negative => cases whole
  | finite negative units =>
    simp only [whole?] at whole
    split at whole
    · rename_i divides
      obtain ⟨count, rfl⟩ := divides
      rw [Nat.mul_div_cancel_left _ pow] at whole
      cases whole
      have counted : 2 ^ format.least * count ≤ bound * 2 ^ format.least ↔ count ≤ bound := by
        rw [Nat.mul_comm]
        exact Nat.mul_le_mul_right_iff pow
      cases negative with
      | true =>
        simp only [atMost, Bool.true_or, true_iff, if_true]
        omega
      | false => simp [atMost, counted]
    · cases whole

end Whole

end FloatFormat

namespace Json

def ratio (literal : List Char) : Nat × Nat :=
  let body := literal.dropWhile (· = '-')
  let rest := body.dropWhile Char.isDigit
  let pointed : Bool := rest.head? = some '.'
  let fraction := if pointed then rest.tail.takeWhile Char.isDigit else []
  let power := (if pointed then rest.tail.dropWhile Char.isDigit else rest).tail
  let digits := Nat.ofDigitChars 10 (body.takeWhile Char.isDigit ++ fraction) 0
  let exponent := Nat.ofDigitChars 10 (power.filter Char.isDigit) 0
  if power.head? = some '-' then (digits, 10 ^ (fraction.length + exponent))
  else (digits * 10 ^ exponent, 10 ^ fraction.length)

def Number.double (number : Number) : FloatValue :=
  binary64.ofRatio (number.literal.head? = some '-') (ratio number.literal).1 (ratio number.literal).2

def Number.whole? (number : Number) : Option Int := binary64.whole? number.double

def whole? : Json → Option Int
  | .number value => value.whole?
  | _ => none

theorem whole?_number (number : Number) : whole? (.number number) = number.whole? := rfl

/-! Whole numbers -/

def intLiteral (n : Int) : List Char :=
  if n < 0 then '-' :: Nat.toDigits 10 n.natAbs else Nat.toDigits 10 n.natAbs

theorem digits_of_toDigits {n : Nat} : ∀ c ∈ Nat.toDigits 10 n, c.isDigit = true :=
  fun _ member => Nat.isDigit_of_mem_toDigits (by decide) (by decide) member

theorem toDigits_cons (n : Nat) : ∃ c rest, Nat.toDigits 10 n = c :: rest ∧ c.isDigit = true := by
  cases digits : Nat.toDigits 10 n with
  | nil => simp at digits
  | cons c rest => exact ⟨c, rest, rfl, digits_of_toDigits c (digits ▸ List.mem_cons_self ..)⟩

theorem minus_not_digit {c : Char} (digit : c.isDigit = true) : c ≠ '-' := by
  rintro rfl
  cases digit

theorem isNumber_intLiteral (n : Int) : isNumber (intLiteral n) = true := by
  unfold intLiteral
  split
  · obtain ⟨c, rest, digits, digit⟩ := toDigits_cons n.natAbs
    have plain := isNumber_digits n.natAbs
    have same : NumberStage.start.next c = NumberStage.minus.next c := by
      simp [NumberStage.next, minus_not_digit digit]
    rw [digits] at plain ⊢
    have shown : isNumber ('-' :: c :: rest) = isNumber (c :: rest) := by
      simp only [isNumber, List.foldlM_cons, same]
      rfl
    rw [shown, plain]
  · exact isNumber_digits _

def intNumber (n : Int) : Number := ⟨intLiteral n, isNumber_intLiteral n⟩

theorem nat_eq_intNumber (n : Nat) : nat n = .number (intNumber n) := by
  have literal : intLiteral n = Nat.toDigits 10 n := by
    rw [intLiteral, if_neg (by omega)]
    rfl
  simp only [nat, intNumber, literal]

theorem ratio_intLiteral (n : Int) : ratio (intLiteral n) = (n.natAbs, 1) := by
  have digits := @digits_of_toDigits n.natAbs
  have bare : (intLiteral n).dropWhile (· = '-') = Nat.toDigits 10 n.natAbs := by
    obtain ⟨c, rest, shown, digit⟩ := toDigits_cons n.natAbs
    unfold intLiteral
    split <;> simp [shown, minus_not_digit digit]
  have whole : (Nat.toDigits 10 n.natAbs).takeWhile Char.isDigit = Nat.toDigits 10 n.natAbs :=
    List.takeWhile_eq_self_iff.mpr digits
  have none : (Nat.toDigits 10 n.natAbs).dropWhile Char.isDigit = [] := List.dropWhile_eq_nil_iff.mpr digits
  simp [ratio, bare, whole, none, Nat.ofDigitChars_toDigits]

def Safe (n : Int) : Prop := n.natAbs < 2 ^ 53

theorem whole?_intNumber {n : Int} (safe : Safe n) : (intNumber n).whole? = some n := by
  have sign : decide ((intNumber n).literal.head? = some '-') = decide (n < 0) := by
    show decide ((intLiteral n).head? = some '-') = _
    unfold intLiteral
    split
    · rename_i negative
      simp [negative]
    · rename_i natural
      obtain ⟨c, rest, shown, digit⟩ := toDigits_cons n.natAbs
      simp [shown, minus_not_digit digit, natural]
  have ratio : ratio (intNumber n).literal = (n.natAbs, 1) := ratio_intLiteral n
  rw [Number.whole?, Number.double, sign, ratio, FloatFormat.whole?_ofRatio _ safe (by decide)]
  by_cases negative : n < 0
  · simp only [negative, decide_true, if_true]
    congr 1
    omega
  · simp only [negative, decide_false, Bool.false_eq_true, if_false]
    congr 1
    omega

section Checks

variable {number : Number} {n : Int}

theorem Number.isPositive_iff (whole : number.whole? = some n) : number.double.isPositive = true ↔ 0 < n :=
  FloatFormat.isPositive_iff binary64 whole

theorem Number.atMost_iff (whole : number.whole? = some n) (bound : Nat) :
    binary64.atMost bound number.double = true ↔ n ≤ bound := FloatFormat.atMost_iff binary64 whole bound

end Checks

-- what a literal denotes is compared by the lemmas above, never by computing powers of two
attribute [irreducible] Number.double

end Json
end Codec
