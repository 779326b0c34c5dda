import Mathlib.Data.List.Basic

namespace Codec.Percent

def hexValue (c : Char) : Option Nat :=
  if '0' ≤ c ∧ c ≤ '9' then some (c.toNat - 48)
  else if 'A' ≤ c ∧ c ≤ 'F' then some (c.toNat - 55)
  else if 'a' ≤ c ∧ c ≤ 'f' then some (c.toNat - 87)
  else none

def byte? (high low : Char) : Option UInt8 :=
  match hexValue high, hexValue low with
  | some h, some l => some (UInt8.ofNat (16 * h + l))
  | _, _ => none

inductive Item where
  | plain (c : Char)
  | byte (b : UInt8)
deriving DecidableEq

/-- The characters and escaped bytes of a text, unless a percent sign is not followed by two hex digits. -/
def items : List Char → Option (List Item)
  | [] => some []
  | '%' :: rest =>
    match rest with
    | high :: low :: rest =>
      match byte? high low with
      | some b => (items rest).map (.byte b :: ·)
      | none => none
    | _ => none
  | c :: rest => (items rest).map (.plain c :: ·)

def complete (bytes : List UInt8) : Option Char :=
  (ByteArray.utf8DecodeChar? bytes.toByteArray 0).filter fun c => c.utf8Size = bytes.length

def characters (pending : List UInt8) : List Item → Option (List Char)
  | [] => if pending = [] then some [] else none
  | .plain c :: rest => if pending = [] then (characters [] rest).map (c :: ·) else none
  | .byte b :: rest =>
    match complete (pending ++ [b]) with
    | some c => (characters [] rest).map (c :: ·)
    | none => characters (pending ++ [b]) rest

/-- ECMAScript's `decodeURIComponent`, which throws where this is `none`. -/
def decodeURIComponent (text : List Char) : Option (List Char) := (items text).bind (characters [])

/-! The texts that can be decoded -/

inductive Spells : List UInt8 → List Char → Prop where
  | nil : Spells [] []
  | cons {b : UInt8} {bytes : List UInt8} {high low : Char} {rest : List Char} (escape : byte? high low = some b)
      (spells : Spells bytes rest) : Spells (b :: bytes) ('%' :: high :: low :: rest)

inductive WellFormed : List Char → Prop where
  | nil : WellFormed []
  | plain {c : Char} {rest : List Char} (other : c ≠ '%') (tail : WellFormed rest) : WellFormed (c :: rest)
  | escaped {c : Char} {spelling rest : List Char} (spells : Spells (String.utf8EncodeChar c) spelling)
      (tail : WellFormed rest) : WellFormed (spelling ++ rest)

theorem items_plain {c : Char} (other : c ≠ '%') (rest : List Char) :
    items (c :: rest) = (items rest).map (.plain c :: ·) := by
  rw [items]
  intro same
  exact absurd same other

theorem items_escape {high low : Char} {b : UInt8} (escape : byte? high low = some b) (rest : List Char) :
    items ('%' :: high :: low :: rest) = (items rest).map (.byte b :: ·) := by
  simp [items, escape]

theorem Spells.items {bytes : List UInt8} {spelling : List Char} (spells : Spells bytes spelling)
    (rest : List Char) : items (spelling ++ rest) = (items rest).map (bytes.map .byte ++ ·) := by
  induction spells with
  | nil => simp
  | cons escape _ ih =>
    rw [List.cons_append, List.cons_append, List.cons_append, items_escape escape, ih]
    cases Percent.items rest <;> simp

theorem complete_iff {bytes : List UInt8} {c : Char} : complete bytes = some c ↔ String.utf8EncodeChar c = bytes := by
  constructor
  · intro found
    obtain ⟨decoded, size⟩ := Option.filter_eq_some_iff.mp found
    have whole := String.toByteArray_utf8EncodeChar_of_utf8DecodeChar?_eq_some decoded
    have length : c.utf8Size = bytes.toByteArray.size := by simpa using size
    rw [length, ByteArray.extract_zero_size] at whole
    exact List.toByteArray_inj.mp whole
  · rintro rfl
    have decoded := @ByteArray.utf8DecodeChar?_utf8EncodeChar_append ByteArray.empty c
    rw [ByteArray.append_empty] at decoded
    simp [complete, decoded]

theorem utf8_no_longer {c other : Char} {bytes : List UInt8}
    (longer : String.utf8EncodeChar c = String.utf8EncodeChar other ++ bytes) : bytes = [] := by
  have decoded := @ByteArray.utf8DecodeChar?_utf8EncodeChar_append bytes.toByteArray other
  rw [← List.toByteArray_append, ← longer] at decoded
  have same := @ByteArray.utf8DecodeChar?_utf8EncodeChar_append ByteArray.empty c
  rw [ByteArray.append_empty, decoded] at same
  obtain rfl := Option.some.inj same
  simpa using longer

theorem utf8_ne_nil (c : Char) : String.utf8EncodeChar c ≠ [] := by
  intro empty
  have length := String.length_utf8EncodeChar c
  have positive := c.utf8Size_pos
  rw [empty, List.length_nil] at length
  omega

theorem characters_escaped {c : Char} {bytes pending : List UInt8} (rest : List Item) (whole : pending ++ bytes =
    String.utf8EncodeChar c) (more : bytes ≠ []) :
    characters pending (bytes.map .byte ++ rest) = (characters [] rest).map (c :: ·) := by
  induction bytes generalizing pending with
  | nil => exact absurd rfl more
  | cons b bytes ih =>
    rw [List.map_cons, List.cons_append, characters]
    cases bytes with
    | nil => rw [complete_iff.mpr whole.symm]; rfl
    | cons next bytes =>
      have longer : pending ++ [b] ++ next :: bytes = String.utf8EncodeChar c := by simpa using whole
      cases early : complete (pending ++ [b]) with
      | none => exact ih longer (List.cons_ne_nil _ _)
      | some other =>
        rw [← complete_iff.mp early] at longer
        exact absurd (utf8_no_longer longer.symm) (List.cons_ne_nil _ _)

theorem WellFormed.decodes {text : List Char} (wellFormed : WellFormed text) :
    (decodeURIComponent text).isSome = true := by
  have parsed : ∃ parts, items text = some parts ∧ (characters [] parts).isSome = true := by
    induction wellFormed with
    | nil => exact ⟨[], rfl, rfl⟩
    | plain other _ ih =>
      obtain ⟨parts, read, decoded⟩ := ih
      exact ⟨_, by rw [items_plain other, read]; rfl, by simpa [characters] using decoded⟩
    | @escaped c spelling rest spells _ ih =>
      obtain ⟨parts, read, decoded⟩ := ih
      refine ⟨(String.utf8EncodeChar c).map .byte ++ parts, by rw [spells.items, read]; rfl, ?_⟩
      rw [characters_escaped parts rfl (utf8_ne_nil c)]
      simpa using decoded
  obtain ⟨parts, read, decoded⟩ := parsed
  rw [decodeURIComponent, read]
  exact decoded

theorem items_cons {text : List Char} {item : Item} {parts : List Item} (read : items text = some (item :: parts)) :
    (∃ c rest, item = .plain c ∧ text = c :: rest ∧ c ≠ '%' ∧ items rest = some parts) ∨
    ∃ b high low rest, item = .byte b ∧ text = '%' :: high :: low :: rest ∧ byte? high low = some b ∧
      items rest = some parts := by
  cases text with
  | nil => cases read
  | cons c rest =>
    by_cases percent : c = '%'
    · subst percent
      rcases rest with _ | ⟨high, _ | ⟨low, rest⟩⟩
      · cases read
      · cases read
      · simp only [items] at read
        cases escape : byte? high low with
        | none =>
          rw [escape] at read
          cases read
        | some b =>
          rw [escape] at read
          obtain ⟨tail, later, same⟩ := Option.map_eq_some_iff.mp read
          cases same
          exact .inr ⟨b, high, low, rest, rfl, rfl, escape, later⟩
    · rw [items_plain percent] at read
      obtain ⟨tail, later, same⟩ := Option.map_eq_some_iff.mp read
      cases same
      exact .inl ⟨c, rest, rfl, rfl, percent, later⟩

/-- Where decoding succeeds with some bytes of a character before the text, the text begins with the others. -/
theorem wellFormed_of_characters {parts : List Item} {pending : List UInt8} {text : List Char}
    (read : items text = some parts) (decoded : (characters pending parts).isSome = true) :
    (pending = [] ∧ WellFormed text) ∨ ∃ c bytes spelling rest, pending ++ bytes = String.utf8EncodeChar c ∧
      Spells bytes spelling ∧ text = spelling ++ rest ∧ WellFormed rest := by
  have settled : ∀ {rest : List Char}, (([] : List UInt8) = [] ∧ WellFormed rest ∨ ∃ c bytes spelling tail,
      [] ++ bytes = String.utf8EncodeChar c ∧ Spells bytes spelling ∧ rest = spelling ++ tail ∧ WellFormed tail) →
      WellFormed rest := by
    intro rest either
    rcases either with ⟨_, tail⟩ | ⟨c, bytes, spelling, tail, whole, spells, rfl, wellFormed⟩
    · exact tail
    · rw [List.nil_append] at whole
      exact .escaped (whole ▸ spells) wellFormed
  induction parts generalizing pending text with
  | nil =>
    have empty : text = [] := by
      cases text with
      | nil => rfl
      | cons c rest =>
        by_cases percent : c = '%'
        · subst percent
          rcases rest with _ | ⟨high, _ | ⟨low, rest⟩⟩
          · cases read
          · cases read
          · simp only [items] at read
            split at read
            · obtain ⟨_, _, same⟩ := Option.map_eq_some_iff.mp read
              cases same
            · cases read
        · rw [items_plain percent] at read
          obtain ⟨_, _, same⟩ := Option.map_eq_some_iff.mp read
          cases same
    subst empty
    by_cases none_pending : pending = []
    · exact .inl ⟨none_pending, .nil⟩
    · simp [characters, none_pending] at decoded
  | cons item parts ih =>
    rcases items_cons read with ⟨c, rest, rfl, rfl, other, later⟩ | ⟨b, high, low, rest, rfl, rfl, escape, later⟩
    · by_cases none_pending : pending = []
      · simp only [characters, none_pending, if_true, Option.isSome_map] at decoded
        exact .inl ⟨none_pending, .plain other (settled (ih later decoded))⟩
      · simp [characters, none_pending] at decoded
    · right
      rw [characters] at decoded
      split at decoded
      · rename_i c found
        rw [Option.isSome_map] at decoded
        refine ⟨c, [b], ['%', high, low], rest, (complete_iff.mp found).symm, .cons escape .nil, rfl,
          settled (ih later decoded)⟩
      · rcases ih later decoded with ⟨nothing, _⟩ | ⟨c, bytes, spelling, tail, whole, spells, rfl, wellFormed⟩
        · simp at nothing
        · exact ⟨c, b :: bytes, '%' :: high :: low :: spelling, tail, by simpa using whole, .cons escape spells, rfl,
            wellFormed⟩

/-- `decodeURIComponent` returns on exactly the well-formed texts. -/
theorem decodes_iff {text : List Char} : (decodeURIComponent text).isSome = true ↔ WellFormed text := by
  constructor
  · intro decoded
    unfold decodeURIComponent at decoded
    cases read : items text with
    | none => simp [read] at decoded
    | some parts =>
      rw [read] at decoded
      rcases wellFormed_of_characters read decoded with ⟨_, wellFormed⟩ |
        ⟨c, bytes, spelling, rest, whole, spells, rfl, tail⟩
      · exact wellFormed
      · rw [List.nil_append] at whole
        exact .escaped (whole ▸ spells) tail
  · exact WellFormed.decodes

/-! Spellings of one text -/

def unreserved (c : Char) : Bool := c.isAlphanum || c ∈ ['-', '.', '_', '~']

def decodeUnreserved : List Char → List Char
  | [] => []
  | '%' :: rest =>
    match rest with
    | high :: low :: tail =>
      match byte? high low with
      | some b =>
        if unreserved (Char.ofNat b.toNat) then Char.ofNat b.toNat :: decodeUnreserved tail
        else '%' :: high :: low :: decodeUnreserved tail
      | none => '%' :: decodeUnreserved (high :: low :: tail)
    | rest => '%' :: decodeUnreserved rest
  | c :: rest => c :: decodeUnreserved rest

theorem decodeUnreserved_cons {c : Char} (other : c ≠ '%') (rest : List Char) :
    decodeUnreserved (c :: rest) = c :: decodeUnreserved rest := by
  rw [decodeUnreserved]
  intro same
  exact absurd same other

theorem decodeUnreserved_append {text : List Char} (plain : '%' ∉ text) (rest : List Char) :
    decodeUnreserved (text ++ rest) = text ++ decodeUnreserved rest := by
  induction text with
  | nil => rfl
  | cons c text ih =>
    have other : c ≠ '%' := fun same => plain (same ▸ List.mem_cons_self ..)
    rw [List.cons_append, decodeUnreserved_cons other, ih fun member => plain (List.mem_cons_of_mem _ member),
      List.cons_append]

theorem hexValue_slash : hexValue '/' = none := by decide

theorem byte?_slash (high : Char) : byte? high '/' = none := by
  unfold byte?
  rw [hexValue_slash]
  cases hexValue high <;> rfl

theorem slash_byte? (low : Char) : byte? '/' low = none := by
  unfold byte?
  rw [hexValue_slash]

theorem unreserved_ne_slash {c : Char} (plain : unreserved c = true) : c ≠ '/' := by
  intro same
  subst same
  exact absurd plain (by decide)

theorem decodeUnreserved_escape {high low : Char} {b : UInt8} (escape : byte? high low = some b) (rest : List Char) :
    decodeUnreserved ('%' :: high :: low :: rest) =
      (if unreserved (Char.ofNat b.toNat) then [Char.ofNat b.toNat] else ['%', high, low]) ++
      decodeUnreserved rest := by
  simp only [decodeUnreserved, escape]
  split <;> rfl

theorem decodeUnreserved_percent {rest : List Char}
    (broken : ∀ high low tail, rest = high :: low :: tail → byte? high low = none) :
    decodeUnreserved ('%' :: rest) = '%' :: decodeUnreserved rest := by
  rcases rest with _ | ⟨high, _ | ⟨low, tail⟩⟩
  · rfl
  · rfl
  · simp only [decodeUnreserved, broken high low tail rfl]

theorem decodeUnreserved_slash (text rest : List Char) :
    decodeUnreserved (text ++ '/' :: rest) = decodeUnreserved text ++ '/' :: decodeUnreserved rest := by
  induction text using decodeUnreserved.induct with
  | case1 =>
    rw [List.nil_append, decodeUnreserved_cons (by decide)]
    rfl
  | case2 high low tail b escape plain ih =>
    simp only [List.cons_append, decodeUnreserved_escape escape, ih, List.append_assoc]
  | case3 high low tail b escape plain ih =>
    simp only [List.cons_append, decodeUnreserved_escape escape, ih, List.append_assoc]
  | case4 high low tail escape ih =>
    have broken : ∀ {rest : List Char} (high' low' : Char) (tail' : List Char),
      high :: low :: rest = high' :: low' :: tail' →
        byte? high' low' = none := by
      intro rest high' low' tail' same
      cases same
      exact escape
    rw [List.cons_append, List.cons_append, List.cons_append, decodeUnreserved_percent broken,
      decodeUnreserved_percent broken, ← List.cons_append, ← List.cons_append, ih]
    rfl
  | case5 text short ih =>
    have broken : ∀ (high low : Char) (tail : List Char), text = high :: low :: tail → byte? high low = none :=
      fun high low tail same => (short high low tail same).elim
    have still : ∀ (high low : Char) (tail : List Char), text ++ '/' :: rest = high :: low :: tail →
        byte? high low = none := by
      intro high low tail same
      rcases text with _ | ⟨first, _ | ⟨second, text⟩⟩
      · cases same
        exact slash_byte? low
      · cases same
        exact byte?_slash high
      · exact (short first second text rfl).elim
    rw [List.cons_append, decodeUnreserved_percent still, decodeUnreserved_percent broken, ih]
    rfl
  | case6 c text other ih =>
    rw [List.cons_append, decodeUnreserved_cons other, decodeUnreserved_cons other, ih]
    rfl

theorem decodeUnreserved_ne_nil {text : List Char} (some_char : text ≠ []) : decodeUnreserved text ≠ [] := by
  cases text with
  | nil => exact absurd rfl some_char
  | cons c rest =>
    unfold decodeUnreserved
    split
    · rename_i same
      cases same
    · split
      · split
        · split <;> exact List.cons_ne_nil _ _
        · exact List.cons_ne_nil _ _
      · exact List.cons_ne_nil _ _
    · exact List.cons_ne_nil _ _

theorem slash_not_mem {text : List Char} (segment : '/' ∉ text) : '/' ∉ decodeUnreserved text := by
  induction text using decodeUnreserved.induct with
  | case1 => exact segment
  | case2 high low tail b escape plain ih =>
    simp only [List.mem_cons, not_or] at segment
    rw [decodeUnreserved_escape escape, if_pos plain]
    have other := unreserved_ne_slash plain
    simpa [Ne.symm other] using ih segment.2.2.2
  | case3 high low tail b escape plain ih =>
    simp only [List.mem_cons, not_or] at segment
    rw [decodeUnreserved_escape escape, if_neg plain]
    simpa [segment.2.1, segment.2.2.1] using ih segment.2.2.2
  | case4 high low tail escape ih =>
    have broken : ∀ (high' low' : Char) (tail' : List Char), high :: low :: tail = high' :: low' :: tail' →
        byte? high' low' = none := by
      intro high' low' tail' same
      cases same
      exact escape
    rw [decodeUnreserved_percent broken]
    simpa using ih fun member => segment (List.mem_cons_of_mem _ member)
  | case5 text short ih =>
    rw [decodeUnreserved_percent fun high low tail same => (short high low tail same).elim]
    simpa using ih fun member => segment (List.mem_cons_of_mem _ member)
  | case6 c text other ih =>
    simp only [List.mem_cons, not_or] at segment
    rw [decodeUnreserved_cons other]
    simpa [segment.1] using ih segment.2

/-! Parts of well-formed texts -/

theorem Spells.no_slash {bytes : List UInt8} {spelling : List Char} (spells : Spells bytes spelling) :
    '/' ∉ spelling := by
  induction spells with
  | nil => simp
  | @cons b bytes high low rest escape _ ih =>
    have first : high ≠ '/' := by
      intro same
      rw [same, slash_byte?] at escape
      cases escape
    have second : low ≠ '/' := by
      intro same
      rw [same, byte?_slash] at escape
      cases escape
    simp [Ne.symm first, Ne.symm second, ih]

theorem WellFormed.split {text rest : List Char} (wellFormed : WellFormed (text ++ '/' :: rest)) :
    WellFormed text ∧ WellFormed rest := by
  generalize whole : text ++ '/' :: rest = joined at wellFormed
  induction wellFormed generalizing text with
  | nil => simp at whole
  | @plain c tail other wellFormed ih =>
    cases text with
    | nil =>
      cases whole
      exact ⟨.nil, wellFormed⟩
    | cons first text =>
      cases whole
      obtain ⟨front, back⟩ := ih rfl
      exact ⟨.plain other front, back⟩
  | @escaped c spelling tail spells _ ih =>
    rcases List.append_eq_append_iff.mp whole with ⟨middle, longer, later⟩ | ⟨middle, longer, later⟩
    · cases middle with
      | nil =>
        have back := ih (by simpa using later : [] ++ '/' :: rest = tail)
        rw [List.append_nil] at longer
        have front : WellFormed (spelling ++ []) := .escaped spells .nil
        rw [List.append_nil, longer] at front
        exact ⟨front, back.2⟩
      | cons first middle =>
        have inside : '/' ∈ spelling := by
          rw [longer, (List.cons.inj later).1]
          simp
        exact absurd inside spells.no_slash
    · obtain ⟨front, back⟩ := ih later.symm
      exact ⟨longer ▸ .escaped spells front, back⟩

theorem WellFormed.drop {text rest : List Char} (plain : '%' ∉ text) (wellFormed : WellFormed (text ++ rest)) :
    WellFormed rest := by
  induction text with
  | nil => exact wellFormed
  | cons c text ih =>
    refine ih (fun member => plain (List.mem_cons_of_mem _ member)) ?_
    generalize whole : c :: text ++ rest = joined at wellFormed
    cases wellFormed with
    | nil => cases whole
    | plain other tail =>
      cases whole
      exact tail
    | @escaped encoded spelling tail spells wellFormed =>
      generalize bytes : String.utf8EncodeChar encoded = utf8 at spells
      cases spells with
      | nil => exact absurd bytes (utf8_ne_nil encoded)
      | cons escape spells =>
        have percent : c = '%' := by simpa using congrArg List.head? whole
        exact absurd (percent ▸ List.mem_cons_self ..) plain

theorem WellFormed.parts {segments : List (List Char)} (wellFormed : WellFormed (['/'].intercalate segments)) :
    ∀ segment ∈ segments, WellFormed segment := by
  induction segments with
  | nil => simp
  | cons first segments ih =>
    cases segments with
    | nil =>
      rw [List.intercalate_singleton] at wellFormed
      simpa using wellFormed
    | cons second segments =>
      rw [List.intercalate_cons_cons, List.append_assoc] at wellFormed
      obtain ⟨front, back⟩ := wellFormed.split
      intro segment member
      rcases List.mem_cons.mp member with rfl | later
      · exact front
      · exact ih back segment later

theorem WellFormed.segments {text : List Char} (wellFormed : WellFormed text) :
    ∀ segment ∈ text.splitOn '/', WellFormed segment := by
  have joined : ['/'].intercalate (text.splitOn '/') = text := List.intercalate_splitOn '/'
  rw [← joined] at wellFormed
  exact wellFormed.parts

theorem utf8_high {c : Char} (beyond : c.utf8Size ≠ 1) : ∀ b ∈ String.utf8EncodeChar c, 128 ≤ b.toNat := by
  have four := c.utf8Size_le_four
  have positive := c.utf8Size_pos
  have high : ∀ (x y : UInt8), 128 ≤ y.toNat → 128 ≤ (x ||| y).toNat := by
    intro x y large
    rw [UInt8.toNat_or]
    exact Nat.le_trans large Nat.right_le_or
  intro b member
  have sizes : c.utf8Size = 2 ∨ c.utf8Size = 3 ∨ c.utf8Size = 4 := by omega
  rcases sizes with two | three | four
  · rw [String.utf8EncodeChar_eq_cons_cons two] at member
    simp only [List.mem_cons, List.not_mem_nil, or_false] at member
    rcases member with rfl | rfl <;> exact high _ _ (by decide)
  · rw [String.utf8EncodeChar_eq_cons_cons_cons three] at member
    simp only [List.mem_cons, List.not_mem_nil, or_false] at member
    rcases member with rfl | rfl | rfl <;> exact high _ _ (by decide)
  · rw [String.utf8EncodeChar_eq_cons_cons_cons_cons four] at member
    simp only [List.mem_cons, List.not_mem_nil, or_false] at member
    rcases member with rfl | rfl | rfl | rfl <;> exact high _ _ (by decide)

theorem unreserved_ascii : ∀ n < 256, 128 ≤ n → unreserved (Char.ofNat n) = false := by decide +kernel

theorem Spells.kept {bytes : List UInt8} {spelling : List Char} (spells : Spells bytes spelling)
    (high : ∀ b ∈ bytes, 128 ≤ b.toNat) (rest : List Char) :
    decodeUnreserved (spelling ++ rest) = spelling ++ decodeUnreserved rest := by
  induction spells with
  | nil => rfl
  | @cons b bytes first second tail escape _ ih =>
    have large := high b (List.mem_cons_self ..)
    have reserved : ¬ unreserved (Char.ofNat b.toNat) = true := by
      rw [unreserved_ascii b.toNat b.toNat_lt large]
      exact Bool.false_ne_true
    rw [List.cons_append, List.cons_append, List.cons_append, decodeUnreserved_escape escape, if_neg reserved,
      ih fun b member => high b (List.mem_cons_of_mem _ member)]
    rfl

theorem WellFormed.decodeUnreserved {text : List Char} (wellFormed : WellFormed text) :
    WellFormed (decodeUnreserved text) := by
  induction wellFormed with
  | nil => exact .nil
  | plain other _ ih =>
    rw [decodeUnreserved_cons other]
    exact .plain other ih
  | @escaped c spelling rest spells _ ih =>
    by_cases ascii : c.utf8Size = 1
    · have single := spells
      rw [String.utf8EncodeChar_eq_singleton ascii] at single
      cases single with
      | cons escape none_more =>
        cases none_more
        rw [List.cons_append, List.cons_append, List.cons_append, decodeUnreserved_escape escape]
        split
        · rename_i plain
          refine .plain ?_ ih
          intro percent
          rw [percent] at plain
          exact absurd plain (by decide)
        · exact .escaped spells ih
    · rw [spells.kept (utf8_high ascii)]
      exact .escaped spells ih

end Codec.Percent
