import Mathlib.Data.List.Basic

namespace Codec.IpAddress

def isHexDigit (c : Char) : Bool := c.isDigit || ('a' ≤ c && c ≤ 'f') || ('A' ≤ c && c ≤ 'F')

def isOctet (text : List Char) : Bool := (List.range 256).any fun n => text = Nat.toDigits 10 n

def isHextet (text : List Char) : Bool := 1 ≤ text.length && text.length ≤ 4 && text.all isHexDigit

def isIPv4 (text : List Char) : Bool := (text.splitOn '.').length = 4 && (text.splitOn '.').all isOctet

/-- How many groups of 16 bits the parts between colons stand for; an IPv4 address at the end stands for two. -/
def groups : List (List Char) → Option Nat
  | [] => some 0
  | part :: parts =>
    if isHextet part then (groups parts).map (· + 1)
    else if isIPv4 part && parts.isEmpty then some 2
    else none

def groupsIn (text : List Char) : Option Nat := if text = [] then some 0 else groups (text.splitOn ':')

/-- A double colon behind the first characters stands for at least one group. -/
def compressesAt (text : List Char) (index : Nat) : Bool :=
  match text.drop index with
  | ':' :: ':' :: right =>
    '.' ∉ text.take index &&
      match groupsIn (text.take index), groupsIn right with
      | some before, some behind => before + behind ≤ 7
      | _, _ => false
  | _ => false

def isZone : List Char → Bool
  | [] => true
  | _ :: zone => zone ≠ [] && zone.all fun c => c.isAlphanum || c ∈ ['-', '.', ':']

/-- Eight groups, or fewer with a double colon between them, and a zone behind a percent sign. -/
def isIPv6 (text : List Char) : Bool :=
  let address := text.takeWhile (· ≠ '%')
  (groups (address.splitOn ':') = some 8 || (List.range address.length).any (compressesAt address)) &&
    isZone (text.dropWhile (· ≠ '%'))

def isIP (text : String) : Bool := isIPv4 text.toList || isIPv6 text.toList

example : ["10.0.0.1", "::", "2001:db8::1", "1:2:3:4:5:6:7::", "::ffff:10.0.0.1", "fe80::1%eth0",
      "10.0.0.01", "1::2::3",
    "1:2:3:4:5:6:7", "1.2.3.4::", "proxy"].map isIP =
  [true, true, true, true, true, true, false, false, false, false, false] := by decide +kernel

/-! The characters of an address -/

def addressChar (c : Char) : Bool := isHexDigit c || c = ':' || c = '.'

theorem isOctet_chars {text : List Char} (octet : isOctet text = true) : ∀ c ∈ text, addressChar c = true := by
  obtain ⟨n, _, same⟩ := List.any_eq_true.mp octet
  intro c member
  rw [of_decide_eq_true same] at member
  have digit := Nat.isDigit_of_mem_toDigits (by decide) (by decide) member
  simp [addressChar, isHexDigit, digit]

theorem isHextet_chars {text : List Char} (hextet : isHextet text = true) : ∀ c ∈ text, addressChar c = true := by
  intro c member
  have digit := List.all_eq_true.mp (Bool.and_eq_true_iff.mp hextet).2 c member
  simp [addressChar, digit]

theorem intercalate_chars {separator : Char} {parts : List (List Char)} (between : addressChar separator = true)
    (each : ∀ part ∈ parts, ∀ c ∈ part, addressChar c = true) :
    ∀ c ∈ [separator].intercalate parts, addressChar c = true := by
  induction parts with
  | nil => simp
  | cons first parts ih =>
    have rest := ih fun part member => each part (List.mem_cons_of_mem _ member)
    cases parts with
    | nil =>
      rw [List.intercalate_singleton]
      exact each first (List.mem_cons_self ..)
    | cons second parts =>
      rw [List.intercalate_cons_cons, List.append_assoc]
      exact List.forall_mem_append.mpr ⟨each first (List.mem_cons_self ..), List.forall_mem_cons.mpr ⟨between, rest⟩⟩

theorem splitOn_chars {separator : Char} {text : List Char} (between : addressChar separator = true)
    (each : ∀ part ∈ text.splitOn separator, ∀ c ∈ part, addressChar c = true) :
    ∀ c ∈ text, addressChar c = true := by
  have joined : [separator].intercalate (text.splitOn separator) = text := List.intercalate_splitOn separator
  rw [← joined]
  exact intercalate_chars between each

theorem isIPv4_chars {text : List Char} (valid : isIPv4 text = true) : ∀ c ∈ text, addressChar c = true := by
  have octets := List.all_eq_true.mp (Bool.and_eq_true_iff.mp valid).2
  exact splitOn_chars (by decide) fun part member => isOctet_chars (octets part member)

theorem groups_chars {parts : List (List Char)} {count : Nat} (grouped : groups parts = some count) :
    ∀ part ∈ parts, ∀ c ∈ part, addressChar c = true := by
  induction parts generalizing count with
  | nil => simp
  | cons part parts ih =>
    simp only [groups] at grouped
    split at grouped
    · rename_i hextet
      obtain ⟨rest, behind, _⟩ := Option.map_eq_some_iff.mp grouped
      exact List.forall_mem_cons.mpr ⟨isHextet_chars hextet, ih behind⟩
    · split at grouped
      · rename_i last
        obtain ⟨dotted, none_behind⟩ := Bool.and_eq_true_iff.mp last
        rw [List.isEmpty_iff.mp none_behind]
        exact List.forall_mem_cons.mpr ⟨isIPv4_chars dotted, by simp⟩
      · cases grouped

theorem groupsIn_chars {text : List Char} {count : Nat} (grouped : groupsIn text = some count) :
    ∀ c ∈ text, addressChar c = true := by
  by_cases empty : text = []
  · simp [empty]
  · rw [groupsIn, if_neg empty] at grouped
    exact splitOn_chars (by decide) (groups_chars grouped)

theorem compressesAt_chars {text : List Char} {index : Nat} (compresses : compressesAt text index = true) :
    ∀ c ∈ text, addressChar c = true := by
  unfold compressesAt at compresses
  split at compresses
  · rename_i right behind
    obtain ⟨_, counted⟩ := Bool.and_eq_true_iff.mp compresses
    split at counted
    · rename_i left rest before after
      rw [← List.take_append_drop index text, behind]
      exact List.forall_mem_append.mpr ⟨groupsIn_chars before, List.forall_mem_cons.mpr ⟨by decide,
        List.forall_mem_cons.mpr ⟨by decide, groupsIn_chars after⟩⟩⟩
    · cases counted
  · cases compresses

theorem isIP_chars {text : String} (valid : isIP text = true) :
    ∀ c ∈ text.toList.takeWhile (· ≠ '%'), addressChar c = true := by
  rcases Bool.or_eq_true_iff.mp valid with dotted | colons
  · intro c member
    exact isIPv4_chars dotted c (List.takeWhile_prefix _ |>.subset member)
  · rcases Bool.or_eq_true_iff.mp (Bool.and_eq_true_iff.mp colons).1 with whole | compressed
    · exact splitOn_chars (by decide) (groups_chars (of_decide_eq_true whole))
    · obtain ⟨index, _, compresses⟩ := List.any_eq_true.mp compressed
      exact compressesAt_chars compresses

end Codec.IpAddress
