import Mathlib.Data.List.Basic

/-! The JSON grammar of RFC 8259, its values as trees. -/

namespace Codec

namespace Json

inductive NumberStage where
  | start | minus | zero | whole | point | fraction | exponent | exponentSign | power
deriving DecidableEq, Repr

def NumberStage.next (stage : NumberStage) (c : Char) : Option NumberStage :=
  match stage with
  | .start => if c = '-' then some .minus else if c = '0' then some .zero else if c.isDigit then some .whole else none
  | .minus => if c = '0' then some .zero else if c.isDigit then some .whole else none
  | .zero => if c = '.' then some .point else if c = 'e' ∨ c = 'E' then some .exponent else none
  | .whole =>
    if c.isDigit then some .whole else if c = '.' then some .point
    else if c = 'e' ∨ c = 'E' then some .exponent else none
  | .point => if c.isDigit then some .fraction else none
  | .fraction => if c.isDigit then some .fraction else if c = 'e' ∨ c = 'E' then some .exponent else none
  | .exponent =>
    if c = '+' ∨ c = '-' then some .exponentSign else if c.isDigit then some .power else none
  | .exponentSign => if c.isDigit then some .power else none
  | .power => if c.isDigit then some .power else none

def NumberStage.final : NumberStage → Bool
  | .zero | .whole | .fraction | .power => true
  | _ => false

def isNumber (literal : List Char) : Bool := (literal.foldlM NumberStage.next .start).any NumberStage.final

def inNumber (c : Char) : Bool := c.isDigit || c = '-' || c = '+' || c = '.' || c = 'e' || c = 'E'

structure Number where
  literal : List Char
  valid : isNumber literal = true
deriving DecidableEq, Repr

end Json

/-- A number is kept as its literal, and the members of an object in the order and as often as they are written. -/
inductive Json where
  | null
  | bool (value : Bool)
  | number (value : Json.Number)
  | string (text : String)
  | array (items : List Json)
  | object (members : List (String × Json))
deriving Repr

namespace Json

theorem induction {holds : Json → Prop} (null : holds .null) (bool : ∀ value, holds (.bool value))
    (number : ∀ value, holds (.number value)) (string : ∀ text, holds (.string text))
    (array : ∀ items, (∀ item ∈ items, holds item) → holds (.array items))
    (object : ∀ members, (∀ member ∈ members, holds member.2) → holds (.object members)) (json : Json) : holds json :=
  @Json.rec holds (fun items => ∀ item ∈ items, holds item) (fun members => ∀ member ∈ members, holds member.2)
    (fun member => holds member.2) null bool number string array object (by simp)
    (fun _ _ first others => List.forall_mem_cons.mpr ⟨first, others⟩) (by simp)
    (fun _ _ first others => List.forall_mem_cons.mpr ⟨first, others⟩) (fun _ _ value => value) json

/-- Of several members with one name the last counts. -/
def member? (json : Json) (name : String) : Option Json :=
  match json with
  | .object members => (members.reverse.find? fun member => member.1 = name).map (·.2)
  | _ => none

def text? : Json → Option String
  | .string text => some text
  | _ => none

def truth? : Json → Option Bool
  | .bool truth => some truth
  | _ => none

def items? : Json → Option (List Json)
  | .array items => some items
  | _ => none

/-! Natural numbers -/

theorem foldlM_digits (n : Nat) : (Nat.toDigits 10 n).foldlM NumberStage.next .start =
    some (if n = 0 then .zero else .whole) := by
  induction n using Nat.strongRecOn with
  | ind n ih =>
    by_cases small : n < 10
    · have each : ∀ n < 10, (Nat.toDigits 10 n).foldlM NumberStage.next .start =
        some (if n = 0 then .zero else .whole) := by
        decide
      exact each n small
    · have split : Nat.toDigits 10 n = Nat.toDigits 10 (n / 10) ++ Nat.toDigits 10 (n % 10) := by
        rw [Nat.toDigits_append_toDigits (by decide) (by omega) (by omega), Nat.div_add_mod]
      have digit : ∀ d < 10, (Nat.toDigits 10 d).foldlM NumberStage.next .whole = some .whole := by decide
      rw [split, List.foldlM_append, ih (n / 10) (by omega), if_neg (by omega), if_neg (by omega)]
      exact digit (n % 10) (by omega)

theorem isNumber_digits (n : Nat) : isNumber (Nat.toDigits 10 n) = true := by
  rw [isNumber, foldlM_digits]
  split <;> rfl

def nat (n : Nat) : Json := .number ⟨Nat.toDigits 10 n, isNumber_digits n⟩

def nat? : Json → Option Nat
  | .number value => if value.literal.all Char.isDigit then some (Nat.ofDigitChars 10 value.literal 0) else none
  | _ => none

theorem nat?_nat (n : Nat) : (nat n).nat? = some n := by
  have digits : (Nat.toDigits 10 n).all Char.isDigit = true := by
    rw [List.all_eq_true]
    exact fun c member => Nat.isDigit_of_mem_toDigits (by decide) (by decide) member
  have value : Nat.ofDigitChars 10 (Nat.toDigits 10 n) 0 = n := by simp [Nat.ofDigitChars_toDigits]
  simp only [nat, nat?, digits, if_true, value]

/-! Writing -/

def hexDigit (n : Nat) : Char := "0123456789abcdef".toList.getD n '0'

def escaped (c : Char) : List Char :=
  if c = '"' then ['\\', '"']
  else if c = '\\' then ['\\', '\\']
  else if c.toNat = 8 then ['\\', 'b']
  else if c.toNat = 9 then ['\\', 't']
  else if c.toNat = 10 then ['\\', 'n']
  else if c.toNat = 12 then ['\\', 'f']
  else if c.toNat = 13 then ['\\', 'r']
  else if c.toNat < 32 then ['\\', 'u', '0', '0', hexDigit (c.toNat / 16), hexDigit (c.toNat % 16)]
  else [c]

def quoted (text : String) : List Char := '"' :: (text.toList.flatMap escaped ++ ['"'])

def commas : List (List Char) → List Char
  | [] => []
  | first :: others => first ++ others.flatMap (',' :: ·)

mutual

def stringify : Json → List Char
  | .null => ['n', 'u', 'l', 'l']
  | .bool true => ['t', 'r', 'u', 'e']
  | .bool false => ['f', 'a', 'l', 's', 'e']
  | .number value => value.literal
  | .string text => quoted text
  | .array items => '[' :: (commas (texts items) ++ [']'])
  | .object members => '{' :: (commas (memberTexts members) ++ ['}'])

def texts : List Json → List (List Char)
  | [] => []
  | item :: items => stringify item :: texts items

def memberTexts : List (String × Json) → List (List Char)
  | [] => []
  | (name, value) :: members => (quoted name ++ ':' :: stringify value) :: memberTexts members

end

theorem texts_eq (items : List Json) : texts items = items.map stringify := by
  induction items with
  | nil => rfl
  | cons item items ih => rw [texts, ih, List.map_cons]

def memberText (member : String × Json) : List Char := quoted member.1 ++ ':' :: stringify member.2

theorem memberTexts_eq (members : List (String × Json)) : memberTexts members = members.map memberText := by
  induction members with
  | nil => rfl
  | cons member members ih => rw [memberTexts, ih, List.map_cons, memberText]

/-! Reading -/

def isSpace (c : Char) : Bool := c = ' ' || c = '\t' || c = '\n' || c = '\r'

def skip (text : List Char) : List Char := text.dropWhile isSpace

def hexValue? (c : Char) : Option Nat :=
  if '0' ≤ c ∧ c ≤ '9' then some (c.toNat - 48)
  else if 'a' ≤ c ∧ c ≤ 'f' then some (c.toNat - 87)
  else if 'A' ≤ c ∧ c ≤ 'F' then some (c.toNat - 55)
  else none

def hexUnit? (a b c d : Char) : Option Nat := do
  let a ← hexValue? a
  let b ← hexValue? b
  let c ← hexValue? c
  let d ← hexValue? d
  return ((a * 16 + b) * 16 + c) * 16 + d

def shortEscape? (c : Char) : Option Nat :=
  if c = '"' ∨ c = '\\' ∨ c = '/' then some c.toNat
  else if c = 'b' then some 8
  else if c = 't' then some 9
  else if c = 'n' then some 10
  else if c = 'f' then some 12
  else if c = 'r' then some 13
  else none

/-- The characters up to the closing quote, those of an escape as the code unit it names, and the text behind it. -/
def scanString : List Char → Option (List Nat × List Char)
  | [] => none
  | c :: rest =>
    if c = '"' then some ([], rest)
    else if c = '\\' then
      match rest with
      | [] => none
      | e :: rest =>
        if e = 'u' then
          match rest with
          | a :: b :: c :: d :: rest =>
            (hexUnit? a b c d).bind fun unit => (scanString rest).map fun (units, rest) => (unit :: units, rest)
          | _ => none
        else (shortEscape? e).bind fun unit => (scanString rest).map fun (units, rest) => (unit :: units, rest)
    else if c.toNat < 32 then none
    else (scanString rest).map fun (units, rest) => (c.toNat :: units, rest)

def isHighSurrogate (unit : Nat) : Bool := 0xD800 ≤ unit ∧ unit < 0xDC00

def isLowSurrogate (unit : Nat) : Bool := 0xDC00 ≤ unit ∧ unit < 0xE000

/-- Two escapes may name the halves of one character. A half on its own, which `JSON.parse` keeps, is no character of a
    `String`: it is refused here, and `paired` tells the texts without one. -/
def joinUnits : List Nat → Option (List Char)
  | [] => some []
  | unit :: units =>
    if isHighSurrogate unit then
      match units with
      | low :: units =>
        if isLowSurrogate low then
          (joinUnits units).map (Char.ofNat (0x10000 + (unit - 0xD800) * 0x400 + (low - 0xDC00)) :: ·)
        else none
      | [] => none
    else if isLowSurrogate unit then none
    else (joinUnits units).map (Char.ofNat unit :: ·)

def string? (text : List Char) : Option (String × List Char) :=
  (scanString text).bind fun (units, rest) => (joinUnits units).map fun chars => (String.ofList chars, rest)

def number? (text : List Char) : Option (Json × List Char) :=
  let literal := text.takeWhile inNumber
  if valid : isNumber literal = true then some (.number ⟨literal, valid⟩, text.dropWhile inNumber) else none

def keyword? (word : List Char) (json : Json) (text : List Char) : Option (Json × List Char) :=
  if word.isPrefixOf text then some (json, text.drop word.length) else none

section Sequences

variable {α : Type} (item : List Char → Option (α × List Char)) (close : Char)

def separated : Nat → List Char → Option (List α × List Char)
  | 0, _ => none
  | fuel + 1, text =>
    (item text).bind fun (first, rest) =>
      match skip rest with
      | [] => none
      | c :: rest =>
        if c = close then some ([first], rest)
        else if c = ',' then (separated fuel rest).map fun (others, rest) => (first :: others, rest)
        else none

def sequence (fuel : Nat) (text : List Char) : Option (List α × List Char) :=
  match skip text with
  | [] => none
  | c :: rest => if c = close then some ([], rest) else separated item close fuel text

end Sequences

def entry (value : List Char → Option (Json × List Char)) (text : List Char) : Option ((String × Json) × List Char) :=
  match skip text with
  | [] => none
  | c :: rest =>
    if c = '"' then
      (string? rest).bind fun (name, rest) =>
        match skip rest with
        | [] => none
        | c :: rest => if c = ':' then (value rest).map fun (json, rest) => ((name, json), rest) else none
    else none

def value : Nat → List Char → Option (Json × List Char)
  | 0, _ => none
  | fuel + 1, text =>
    match skip text with
    | [] => none
    | c :: rest =>
      if c = '"' then (string? rest).map fun (text, rest) => (.string text, rest)
      else if c = '[' then
        (sequence (fun text => value fuel text) ']' fuel rest).map fun (items, rest) => (.array items, rest)
      else if c = '{' then
        (sequence (entry fun text => value fuel text) '}' fuel rest).map fun (members, rest) => (.object members, rest)
      else if c = 'n' then keyword? ['u', 'l', 'l'] .null rest
      else if c = 't' then keyword? ['r', 'u', 'e'] (.bool true) rest
      else if c = 'f' then keyword? ['a', 'l', 's', 'e'] (.bool false) rest
      else number? (c :: rest)

/-- `JSON.parse`, up to what the literal of a number denotes. -/
def parse (text : List Char) : Option Json :=
  (value (text.length + 1) text).bind fun (json, rest) => if skip rest = [] then some json else none

/-! Escapes -/

/-- Where a text stands among its escapes; `pending` is whether the first half of a character has just been named. -/
inductive Escapes where
  | plain (pending : Bool)
  | slash (pending : Bool)
  | digits (pending : Bool) (read : List Char)
  | lone
deriving DecidableEq, Repr

def Escapes.named (pending : Bool) (unit : Nat) : Escapes :=
  if isHighSurrogate unit then if pending then .lone else .plain true
  else if isLowSurrogate unit = pending then .plain false
  else .lone

def Escapes.next (state : Escapes) (c : Char) : Escapes :=
  match state with
  | .plain pending => if c = '\\' then .slash pending else if pending then .lone else .plain false
  | .slash pending => if c = 'u' then .digits pending [] else if pending then .lone else .plain false
  | .digits pending [a, b, d] => ((hexUnit? a b d c).map (Escapes.named pending)).getD (.plain false)
  | .digits pending read => .digits pending (read ++ [c])
  | .lone => .lone

/-- No escape of the text names half of a character alone. -/
def paired (text : List Char) : Bool := text.foldl Escapes.next (.plain false) ≠ .lone

end Json
end Codec
