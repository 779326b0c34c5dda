import AppGateway.Codec.Json

namespace Codec.Json

/-! Strings -/

theorem hexUnit?_control : ∀ n, n < 32 → hexUnit? '0' '0' (hexDigit (n / 16)) (hexDigit (n % 16)) = some n := by
  decide

theorem scanString_plain {c : Char} (quote : c ≠ '"') (backslash : c ≠ '\\') (printed : ¬ c.toNat < 32)
    (rest : List Char) :
    scanString (c :: rest) = (scanString rest).map fun (units, rest) => (c.toNat :: units, rest) := by
  rw [scanString.eq_def]
  simp only [if_neg quote, if_neg backslash, if_neg printed]

theorem scanString_short {e : Char} {unit : Nat} (short : shortEscape? e = some unit) (rest : List Char) :
    scanString ('\\' :: e :: rest) = (scanString rest).map fun (units, rest) => (unit :: units, rest) := by
  have letter : e ≠ 'u' := by
    rintro rfl
    cases short
  rw [scanString.eq_def]
  simp [letter, short]

theorem scanString_unit {a b c d : Char} {unit : Nat} (named : hexUnit? a b c d = some unit) (rest : List Char) :
    scanString ('\\' :: 'u' :: a :: b :: c :: d :: rest) =
      (scanString rest).map fun (units, rest) => (unit :: units, rest) := by
  rw [scanString.eq_def]
  simp [named]

theorem escaped_cases (c : Char) :
    (∃ e, escaped c = ['\\', e] ∧ shortEscape? e = some c.toNat) ∨
    (∃ a b, escaped c = ['\\', 'u', '0', '0', a, b] ∧ hexUnit? '0' '0' a b = some c.toNat) ∨
    (escaped c = [c] ∧ c ≠ '"' ∧ c ≠ '\\' ∧ ¬ c.toNat < 32) := by
  by_cases quote : c = '"'
  · subst quote
    exact .inl ⟨'"', rfl, rfl⟩
  by_cases backslash : c = '\\'
  · subst backslash
    exact .inl ⟨'\\', rfl, rfl⟩
  by_cases backspace : c.toNat = 8
  · exact .inl ⟨'b', by simp [escaped, quote, backslash, backspace], by rw [backspace]; rfl⟩
  by_cases tab : c.toNat = 9
  · exact .inl ⟨'t', by simp [escaped, quote, backslash, tab], by rw [tab]; rfl⟩
  by_cases newline : c.toNat = 10
  · exact .inl ⟨'n', by simp [escaped, quote, backslash, newline], by rw [newline]; rfl⟩
  by_cases formFeed : c.toNat = 12
  · exact .inl ⟨'f', by simp [escaped, quote, backslash, formFeed], by rw [formFeed]; rfl⟩
  by_cases carriageReturn : c.toNat = 13
  · exact .inl ⟨'r', by simp [escaped, quote, backslash, carriageReturn], by rw [carriageReturn]; rfl⟩
  by_cases control : c.toNat < 32
  · refine .inr (.inl ⟨hexDigit (c.toNat / 16), hexDigit (c.toNat % 16), ?_, hexUnit?_control c.toNat control⟩)
    simp [escaped, quote, backslash, backspace, tab, newline, formFeed, carriageReturn, control]
  · refine .inr (.inr ⟨?_, quote, backslash, control⟩)
    simp [escaped, quote, backslash, backspace, tab, newline, formFeed, carriageReturn, control]

theorem scanString_escaped (c : Char) (rest : List Char) :
    scanString (escaped c ++ rest) = (scanString rest).map fun (units, rest) => (c.toNat :: units, rest) := by
  rcases escaped_cases c with ⟨e, shape, short⟩ | ⟨a, b, shape, unit⟩ | ⟨shape, quote, backslash, printed⟩
  · rw [shape]
    exact scanString_short short rest
  · rw [shape]
    exact scanString_unit unit rest
  · rw [shape]
    exact scanString_plain quote backslash printed rest

theorem scanString_close (rest : List Char) : scanString ('"' :: rest) = some ([], rest) := by
  rw [scanString.eq_def]
  simp

theorem scanString_quoted (chars rest : List Char) :
    scanString (chars.flatMap escaped ++ '"' :: rest) = some (chars.map Char.toNat, rest) := by
  induction chars with
  | nil => exact scanString_close rest
  | cons c chars ih => rw [List.flatMap_cons, List.append_assoc, scanString_escaped, ih, Option.map_some, List.map_cons]

theorem not_surrogate (c : Char) : isHighSurrogate c.toNat = false ∧ isLowSurrogate c.toNat = false := by
  have valid := c.valid
  simp only [UInt32.isValidChar, Nat.isValidChar] at valid
  have same : c.val.toNat = c.toNat := rfl
  simp only [isHighSurrogate, isLowSurrogate, decide_eq_false_iff_not]
  omega

theorem joinUnits_toNat (chars : List Char) : joinUnits (chars.map Char.toNat) = some chars := by
  induction chars with
  | nil => rfl
  | cons c chars ih =>
    obtain ⟨high, low⟩ := not_surrogate c
    rw [List.map_cons, joinUnits.eq_def]
    simp [high, low, ih, Char.ofNat_toNat]

theorem string?_quoted (text : String) (rest : List Char) :
    string? (text.toList.flatMap escaped ++ '"' :: rest) = some (text, rest) := by
  simp only [string?, scanString_quoted, Option.bind_some, joinUnits_toNat, Option.map_some, String.ofList_toList]

/-! Numbers -/

/-- What may stand behind a value: nothing that would go on with a number. -/
def Ends (rest : List Char) : Prop := ∀ c, rest.head? = some c → inNumber c = false

theorem Ends.nil : Ends [] := by
  intro c first
  cases first

theorem Ends.cons {c : Char} {rest : List Char} (other : inNumber c = false) : Ends (c :: rest) := by
  intro first same
  cases same
  exact other

theorem next_inNumber {stage stage' : NumberStage} {c : Char} (moved : stage.next c = some stage') :
    inNumber c = true := by
  have zero : c = '0' → c.isDigit = true := by
    rintro rfl
    rfl
  cases stage <;> simp only [NumberStage.next] at moved <;> simp only [inNumber] <;> grind

theorem foldlM_inNumber {literal : List Char} {stage stage' : NumberStage}
    (ran : literal.foldlM NumberStage.next stage = some stage') : ∀ c ∈ literal, inNumber c = true := by
  induction literal generalizing stage with
  | nil => simp
  | cons c literal ih =>
    rw [List.foldlM_cons] at ran
    obtain ⟨middle, moved, rest⟩ := Option.bind_eq_some_iff.mp ran
    exact List.forall_mem_cons.mpr ⟨next_inNumber moved, ih rest⟩

theorem Number.inNumber_of_mem (number : Number) : ∀ c ∈ number.literal, inNumber c = true := by
  have valid := number.valid
  unfold isNumber at valid
  cases ran : number.literal.foldlM NumberStage.next .start with
  | none => rw [ran] at valid; cases valid
  | some stage => exact foldlM_inNumber ran

theorem Number.opens (number : Number) : ∃ c rest, number.literal = c :: rest ∧ inNumber c = true := by
  cases shape : number.literal with
  | nil => exact absurd number.valid (by rw [shape]; decide)
  | cons c rest => exact ⟨c, rest, rfl, number.inNumber_of_mem c (by simp [shape])⟩

theorem span_number (number : Number) {rest : List Char} (ends : Ends rest) :
    (number.literal ++ rest).takeWhile inNumber = number.literal ∧
    (number.literal ++ rest).dropWhile inNumber = rest := by
  have all := number.inNumber_of_mem
  rw [List.takeWhile_append_of_pos all, List.dropWhile_append_of_pos all]
  cases rest with
  | nil => simp
  | cons c rest =>
    have other := ends c rfl
    simp [other]

theorem number?_literal (number : Number) {rest : List Char} (ends : Ends rest) :
    number? (number.literal ++ rest) = some (.number number, rest) := by
  obtain ⟨front, back⟩ := span_number number ends
  simp only [number?, front, back, number.valid, dif_pos]

/-! Sequences -/

theorem skip_of_not {c : Char} {rest : List Char} (mark : isSpace c = false) : skip (c :: rest) = c :: rest := by
  rw [skip, List.dropWhile_cons_of_neg (by simp [mark])]

def Opens (text : List Char) : Prop := ∃ c rest, text = c :: rest ∧ isSpace c = false ∧ c ≠ ']' ∧ c ≠ '}'

section Sequences

variable {α : Type} {item : List Char → Option (α × List Char)} {close : Char} {render : α → List Char}

theorem separated_commas (bracket : close = ']' ∨ close = '}') {first : α} {others : List α} {fuel : Nat}
    {rest : List Char} (reads : ∀ x ∈ first :: others, ∀ rest, Ends rest → item (render x ++ rest) = some (x, rest))
    (enough : others.length < fuel) :
    separated item close fuel (render first ++ ((others.map render).flatMap (',' :: ·) ++ close :: rest)) =
      some (first :: others, rest) := by
  induction others generalizing first fuel with
  | nil =>
    obtain ⟨fuel, rfl⟩ : ∃ less, fuel = less + 1 := ⟨fuel - 1, by simp at enough; omega⟩
    have mark : isSpace close = false ∧ inNumber close = false := by rcases bracket with rfl | rfl <;> decide
    have one := reads first (List.mem_cons_self ..) (close :: rest) (.cons mark.2)
    simp only [separated, List.map_nil, List.flatMap_nil, List.nil_append, one, Option.bind_some, skip_of_not mark.1,
      if_true]
  | cons second others ih =>
    obtain ⟨fuel, rfl⟩ : ∃ less, fuel = less + 1 := ⟨fuel - 1, by simp at enough; omega⟩
    have other : ',' ≠ close := by rcases bracket with rfl | rfl <;> decide
    have tail := @ih second fuel (fun x member => reads x (List.mem_cons_of_mem _ member)) (by simp at enough; omega)
    have one := reads first (List.mem_cons_self ..)
      (',' :: (render second ++ ((others.map render).flatMap (',' :: ·) ++ close :: rest))) (.cons (by decide))
    have comma : isSpace ',' = false := by decide
    simp only [separated, List.map_cons, List.flatMap_cons, List.cons_append, List.append_assoc, one, Option.bind_some,
      skip_of_not comma, if_neg other, if_true, tail, Option.map_some]

theorem sequence_commas (bracket : close = ']' ∨ close = '}') {xs : List α} {fuel : Nat} {rest : List Char}
    (reads : ∀ x ∈ xs, ∀ rest, Ends rest → item (render x ++ rest) = some (x, rest))
    (opens : ∀ x ∈ xs, Opens (render x)) (enough : xs.length ≤ fuel) :
    sequence item close fuel (commas (xs.map render) ++ close :: rest) = some (xs, rest) := by
  cases xs with
  | nil =>
    have mark : isSpace close = false := by rcases bracket with rfl | rfl <;> decide
    simp [sequence, commas, skip_of_not mark]
  | cons first others =>
    have whole := @separated_commas _ _ _ _ bracket first others fuel rest reads enough
    obtain ⟨c, tail, shape, mark, square, curly⟩ := opens first (List.mem_cons_self ..)
    have other : c ≠ close := by rcases bracket with rfl | rfl <;> assumption
    rw [List.map_cons, commas, List.append_assoc]
    rw [shape, List.cons_append] at whole ⊢
    rw [sequence, skip_of_not mark]
    simp only [if_neg other, whole]

theorem length_commas {xs : List α} (opens : ∀ x ∈ xs, Opens (render x)) :
    xs.length ≤ (commas (xs.map render)).length := by
  cases xs with
  | nil => simp
  | cons first others =>
    obtain ⟨c, tail, shape, -⟩ := opens first (List.mem_cons_self ..)
    have more : others.length ≤ ((others.map render).flatMap (',' :: ·)).length := by
      clear opens
      induction others with
      | nil => simp
      | cons second others ih =>
        simp only [List.map_cons, List.flatMap_cons, List.length_append, List.length_cons]
        omega
    simp only [List.map_cons, commas, shape, List.length_append, List.length_cons]
    omega

theorem length_item {xs : List α} {x : α} (member : x ∈ xs) :
    (render x).length ≤ (commas (xs.map render)).length := by
  cases xs with
  | nil => cases member
  | cons first others =>
    rw [List.map_cons, commas, List.length_append]
    rcases List.mem_cons.mp member with rfl | later
    · omega
    · have shorter : (',' :: render x).length ≤ ((others.map render).flatMap (',' :: ·)).length := by
        apply List.Sublist.length_le
        rw [List.flatMap_def]
        exact List.sublist_flatten_of_mem (List.mem_map_of_mem (List.mem_map_of_mem later))
      rw [List.length_cons] at shorter
      omega

end Sequences

/-! Values -/

theorem stringify_opens (json : Json) : Opens (stringify json) := by
  cases json with
  | null => exact ⟨_, _, rfl, by decide⟩
  | bool value => cases value <;> exact ⟨_, _, rfl, by decide⟩
  | number value =>
    obtain ⟨c, rest, shape, digit⟩ := value.opens
    refine ⟨c, rest, shape, ?_⟩
    have apart : isSpace c = false ∧ c ≠ ']' ∧ c ≠ '}' := by
      refine ⟨?_, ?_, ?_⟩
      · cases space : isSpace c with
        | false => rfl
        | true =>
          simp only [isSpace, Bool.or_eq_true, decide_eq_true_eq] at space
          rcases space with ((rfl | rfl) | rfl) | rfl <;> exact absurd digit (by decide)
      · rintro rfl
        exact absurd digit (by decide)
      · rintro rfl
        exact absurd digit (by decide)
    exact apart
  | string text => exact ⟨_, _, rfl, by decide⟩
  | array items => exact ⟨_, _, rfl, by decide⟩
  | object members => exact ⟨_, _, rfl, by decide⟩

theorem memberText_opens (member : String × Json) : Opens (memberText member) := ⟨_, _, rfl, by decide⟩

theorem entry_memberText {member : String × Json} {read : List Char → Option (Json × List Char)} {rest : List Char}
    (reads : read (stringify member.2 ++ rest) = some (member.2, rest)) :
    entry read (memberText member ++ rest) = some (member, rest) := by
  have quote : isSpace '"' = false := by decide
  have colon : isSpace ':' = false := by decide
  have name := string?_quoted member.1 (':' :: (stringify member.2 ++ rest))
  simp only [entry, memberText, quoted, List.cons_append, List.append_assoc, List.nil_append, skip_of_not quote,
    skip_of_not colon, if_true, name, Option.bind_some, reads, Option.map_some]

theorem value_number (number : Number) (fuel : Nat) {rest : List Char} (ends : Ends rest) :
    value (fuel + 1) (number.literal ++ rest) = some (.number number, rest) := by
  obtain ⟨c, tail, shape, digit⟩ := number.opens
  have whole := number?_literal number ends
  obtain ⟨_, _, same, mark, -⟩ := stringify_opens (.number number)
  rw [stringify, shape] at same
  cases same
  have apart : ∀ letter, inNumber letter = false → c ≠ letter := by
    rintro letter other rfl
    rw [digit] at other
    cases other
  rw [shape, List.cons_append] at whole ⊢
  simp only [value, skip_of_not mark, if_neg (apart '"' (by decide)), if_neg (apart '[' (by decide)),
    if_neg (apart '{' (by decide)), if_neg (apart 'n' (by decide)), if_neg (apart 't' (by decide)),
    if_neg (apart 'f' (by decide)), whole]

theorem value_stringify (json : Json) : ∀ fuel rest, (stringify json).length < fuel → Ends rest →
    value fuel (stringify json ++ rest) = some (json, rest) := by
  induction json using induction with
  | null =>
    intro fuel rest enough ends
    obtain ⟨fuel, rfl⟩ : ∃ less, fuel = less + 1 := ⟨fuel - 1, by omega⟩
    simp [stringify, value, skip, isSpace, keyword?]
  | bool truth =>
    intro fuel rest enough ends
    obtain ⟨fuel, rfl⟩ : ∃ less, fuel = less + 1 := ⟨fuel - 1, by omega⟩
    cases truth <;> simp [stringify, value, skip, isSpace, keyword?]
  | number number =>
    intro fuel rest enough ends
    obtain ⟨fuel, rfl⟩ : ∃ less, fuel = less + 1 := ⟨fuel - 1, by omega⟩
    exact value_number number fuel ends
  | string text =>
    intro fuel rest enough ends
    obtain ⟨fuel, rfl⟩ : ∃ less, fuel = less + 1 := ⟨fuel - 1, by omega⟩
    have quote : isSpace '"' = false := by decide
    simp only [stringify, quoted, List.cons_append, List.append_assoc, List.nil_append, value, skip_of_not quote,
      if_true, string?_quoted, Option.map_some]
  | array items ih =>
    intro fuel rest enough ends
    obtain ⟨fuel, rfl⟩ : ∃ less, fuel = less + 1 := ⟨fuel - 1, by omega⟩
    have bracket : isSpace '[' = false := by decide
    simp only [stringify, texts_eq, List.length_cons, List.length_append, List.length_nil] at enough
    have opens : ∀ item ∈ items, Opens (stringify item) := fun item _ => stringify_opens item
    have count := length_commas opens
    have reads : ∀ item ∈ items, ∀ rest, Ends rest → value fuel (stringify item ++ rest) = some (item, rest) := by
      intro item member rest ends
      have shorter := @length_item _ stringify _ _ member
      exact ih item member fuel rest (by omega) ends
    have whole := @sequence_commas _ _ _ _ (.inl rfl) items fuel rest reads opens (by omega)
    simp [stringify, texts_eq, value, skip_of_not bracket, whole]
  | object members ih =>
    intro fuel rest enough ends
    obtain ⟨fuel, rfl⟩ : ∃ less, fuel = less + 1 := ⟨fuel - 1, by omega⟩
    have bracket : isSpace '{' = false := by decide
    simp only [stringify, memberTexts_eq, List.length_cons, List.length_append, List.length_nil] at enough
    have opens : ∀ member ∈ members, Opens (memberText member) := fun member _ => memberText_opens member
    have count := length_commas opens
    have reads : ∀ member ∈ members, ∀ rest, Ends rest →
        entry (fun text => value fuel text) (memberText member ++ rest) = some (member, rest) := by
      intro member inside rest ends
      have shorter := @length_item _ memberText _ _ inside
      simp only [memberText, List.length_append, List.length_cons] at shorter
      exact entry_memberText (ih member inside fuel rest (by omega) ends)
    have whole := @sequence_commas _ _ _ _ (.inr rfl) members fuel rest reads opens (by omega)
    simp [stringify, memberTexts_eq, value, skip_of_not bracket, whole]

theorem parse_stringify (json : Json) : parse (stringify json) = some json := by
  have whole := value_stringify json ((stringify json).length + 1) [] (by omega) .nil
  rw [List.append_nil] at whole
  rw [parse, whole, Option.bind_some]
  exact if_pos rfl

/-! Escapes -/

theorem foldl_lone (text : List Char) : text.foldl Escapes.next .lone = .lone := by
  induction text with
  | nil => rfl
  | cons c text ih => exact ih

section Escapes

variable {pending : Bool}

def awaited (pending : Bool) : List Nat := if pending then [0xD800] else []

theorem foldl_plain {c : Char} (plain : c ≠ '\\') {rest : List Char}
    (paired : (c :: rest).foldl Escapes.next (.plain pending) ≠ .lone) :
    pending = false ∧ rest.foldl Escapes.next (.plain false) ≠ .lone := by
  rw [List.foldl_cons, Escapes.next, if_neg plain] at paired
  cases pending with
  | false => exact ⟨rfl, paired⟩
  | true => exact absurd (foldl_lone rest) paired

theorem foldl_short {e : Char} (short : e ≠ 'u') {rest : List Char}
    (paired : ('\\' :: e :: rest).foldl Escapes.next (.plain pending) ≠ .lone) :
    pending = false ∧ rest.foldl Escapes.next (.plain false) ≠ .lone := by
  have slash : Escapes.next (.plain pending) '\\' = .slash pending := rfl
  rw [List.foldl_cons, List.foldl_cons, slash, Escapes.next, if_neg short] at paired
  cases pending with
  | false => exact ⟨rfl, paired⟩
  | true => exact absurd (foldl_lone rest) paired

theorem foldl_unit {a b c d : Char} {unit : Nat} (named : hexUnit? a b c d = some unit) (rest : List Char) :
    ('\\' :: 'u' :: a :: b :: c :: d :: rest).foldl Escapes.next (.plain pending) =
      rest.foldl Escapes.next (.named pending unit) := by
  simp [Escapes.next, named]

theorem shortEscape?_whole {e : Char} {unit : Nat} (short : shortEscape? e = some unit) :
    isHighSurrogate unit = false ∧ isLowSurrogate unit = false := by
  unfold shortEscape? at short
  repeat' split at short
  all_goals cases short
  all_goals first | decide | exact not_surrogate e

theorem joinUnits_whole {unit : Nat} (whole : isHighSurrogate unit = false ∧ isLowSurrogate unit = false)
    {units : List Nat} (rest : (joinUnits units).isSome) : (joinUnits (unit :: units)).isSome := by
  rw [joinUnits.eq_def]
  simp [whole.1, whole.2, rest]

theorem joinUnits_high {unit : Nat} (high : isHighSurrogate unit = true) {units : List Nat}
    (rest : (joinUnits (0xD800 :: units)).isSome) : (joinUnits (unit :: units)).isSome := by
  have first : isHighSurrogate 0xD800 = true := by decide
  rw [joinUnits.eq_def] at rest ⊢
  simp only [high, first, if_true] at rest ⊢
  cases units with
  | nil => exact rest
  | cons low units =>
    cases second : isLowSurrogate low with
    | false => simp [second] at rest
    | true => simpa [second] using rest

theorem joinUnits_low {unit : Nat} (low : isLowSurrogate unit = true) {units : List Nat}
    (rest : (joinUnits units).isSome) : (joinUnits (0xD800 :: unit :: units)).isSome := by
  have first : isHighSurrogate 0xD800 = true := by decide
  rw [joinUnits.eq_def]
  simp [first, low, rest]

theorem named_paired {unit : Nat} {rest : List Char}
    (paired : rest.foldl Escapes.next (.named pending unit) ≠ .lone) :
    (pending = false ∧ isHighSurrogate unit = true ∧ rest.foldl Escapes.next (.plain true) ≠ .lone) ∨
    (pending = isLowSurrogate unit ∧ isHighSurrogate unit = false ∧
      rest.foldl Escapes.next (.plain false) ≠ .lone) := by
  unfold Escapes.named at paired
  split at paired
  · rename_i high
    cases pending with
    | false => exact .inl ⟨rfl, high, paired⟩
    | true => exact absurd (foldl_lone rest) paired
  · rename_i low
    split at paired
    · rename_i same
      exact .inr ⟨same.symm, by simpa using low, paired⟩
    · exact absurd (foldl_lone rest) paired

theorem scanString_cases {text : List Char} {units : List Nat} {rest : List Char}
    (scanned : scanString text = some (units, rest)) :
    (text = '"' :: rest ∧ units = []) ∨
    (∃ a b c d tail unit others, text = '\\' :: 'u' :: a :: b :: c :: d :: tail ∧ hexUnit? a b c d = some unit ∧
      scanString tail = some (others, rest) ∧ units = unit :: others) ∨
    (∃ e tail unit others, text = '\\' :: e :: tail ∧ e ≠ 'u' ∧ shortEscape? e = some unit ∧
      scanString tail = some (others, rest) ∧ units = unit :: others) ∨
    ∃ c tail others, text = c :: tail ∧ c ≠ '\\' ∧ scanString tail = some (others, rest) ∧
    units = c.toNat :: others := by
  rw [scanString.eq_def] at scanned
  split at scanned
  · cases scanned
  rename_i c text
  split at scanned
  · rename_i quote
    cases scanned
    exact .inl ⟨by rw [quote], rfl⟩
  split at scanned
  · rename_i backslash
    subst backslash
    split at scanned
    · cases scanned
    rename_i e text
    split at scanned
    · rename_i letter
      subst letter
      split at scanned
      · rename_i a b c d tail
        obtain ⟨unit, named, scanned⟩ := Option.bind_eq_some_iff.mp scanned
        obtain ⟨⟨others, behind⟩, scanned, same⟩ := Option.map_eq_some_iff.mp scanned
        cases same
        exact .inr (.inl ⟨a, b, c, d, tail, unit, others, rfl, named, scanned, rfl⟩)
      · cases scanned
    · rename_i letter
      obtain ⟨unit, short, scanned⟩ := Option.bind_eq_some_iff.mp scanned
      obtain ⟨⟨others, behind⟩, scanned, same⟩ := Option.map_eq_some_iff.mp scanned
      cases same
      exact .inr (.inr (.inl ⟨e, text, unit, others, rfl, letter, short, scanned, rfl⟩))
  · rename_i backslash
    split at scanned
    · cases scanned
    obtain ⟨⟨others, behind⟩, scanned, same⟩ := Option.map_eq_some_iff.mp scanned
    cases same
    exact .inr (.inr (.inr ⟨c, text, others, rfl, backslash, scanned, rfl⟩))

theorem joinUnits_paired {text : List Char} {units : List Nat} {rest : List Char}
    (scanned : scanString text = some (units, rest)) (paired : text.foldl Escapes.next (.plain pending) ≠ .lone) :
    (joinUnits (awaited pending ++ units)).isSome ∧ rest.foldl Escapes.next (.plain false) ≠ .lone := by
  induction size : text.length using Nat.strongRecOn generalizing text units pending with
  | ind size ih =>
    subst size
    rcases scanString_cases scanned with ⟨rfl, rfl⟩ | ⟨a, b, c, d, tail, unit, others, rfl, named, below, rfl⟩ |
      ⟨e, tail, unit, others, rfl, letter, short, below, rfl⟩ | ⟨c, tail, others, rfl, backslash, below, rfl⟩
    · obtain ⟨rfl, after⟩ := foldl_plain (by decide) paired
      exact ⟨rfl, after⟩
    · rw [foldl_unit named] at paired
      rcases named_paired paired with ⟨rfl, high, after⟩ | ⟨rfl, whole, after⟩
      · obtain ⟨joined, closed⟩ := ih tail.length (by simp only [List.length_cons]; omega) below after rfl
        exact ⟨joinUnits_high high joined, closed⟩
      · obtain ⟨joined, closed⟩ := ih tail.length (by simp only [List.length_cons]; omega) below after rfl
        refine ⟨?_, closed⟩
        cases low : isLowSurrogate unit with
        | false => exact joinUnits_whole ⟨whole, low⟩ joined
        | true => exact joinUnits_low low joined
    · obtain ⟨rfl, after⟩ := foldl_short letter paired
      obtain ⟨joined, closed⟩ := ih tail.length (by simp only [List.length_cons]; omega) below after rfl
      exact ⟨joinUnits_whole (shortEscape?_whole short) joined, closed⟩
    · obtain ⟨rfl, after⟩ := foldl_plain backslash paired
      obtain ⟨joined, closed⟩ := ih tail.length (by simp only [List.length_cons]; omega) below after rfl
      exact ⟨joinUnits_whole (not_surrogate c) joined, closed⟩

theorem string?_paired {text : List Char} (paired : text.foldl Escapes.next (.plain false) ≠ .lone) :
    string? text = none ↔ scanString text = none := by
  unfold string?
  cases scanned : scanString text with
  | none => simp
  | some read =>
    obtain ⟨units, rest⟩ := read
    obtain ⟨chars, joined⟩ := Option.isSome_iff_exists.mp (joinUnits_paired scanned paired).1
    have joined : joinUnits units = some chars := joined
    simp [joined]

end Escapes

/-- Text that a reader of escapes passes over: it comes to its end as it was at its beginning. -/
def Still (text : List Char) : Prop := text.foldl Escapes.next (.plain false) = .plain false

theorem Still.append {front back : List Char} (first : Still front) (second : Still back) : Still (front ++ back) := by
  rw [Still, List.foldl_append, first]
  exact second

theorem Still.cons {c : Char} {text : List Char} (plain : c ≠ '\\') (rest : Still text) : Still (c :: text) := by
  have step : Escapes.next (.plain false) c = .plain false := by simp [Escapes.next, plain]
  rw [Still, List.foldl_cons, step]
  exact rest

theorem still_of_plain {text : List Char} (plain : ∀ c ∈ text, c ≠ '\\') : Still text := by
  induction text with
  | nil => rfl
  | cons c text ih =>
    obtain ⟨first, others⟩ := List.forall_mem_cons.mp plain
    exact .cons first (ih others)

theorem still_flatten {texts : List (List Char)} (each : ∀ text ∈ texts, Still text) : Still texts.flatten := by
  induction texts with
  | nil => rfl
  | cons text texts ih =>
    obtain ⟨first, others⟩ := List.forall_mem_cons.mp each
    exact first.append (ih others)

theorem still_commas {texts : List (List Char)} (each : ∀ text ∈ texts, Still text) : Still (commas texts) := by
  cases texts with
  | nil => rfl
  | cons first others =>
    obtain ⟨opening, rest⟩ := List.forall_mem_cons.mp each
    refine opening.append (still_flatten fun text inside => ?_)
    obtain ⟨other, member, rfl⟩ := List.mem_map.mp inside
    exact .cons (by decide) (rest other member)

theorem still_escaped (c : Char) : Still (escaped c) := by
  rcases escaped_cases c with ⟨e, shape, short⟩ | ⟨a, b, shape, unit⟩ | ⟨shape, _, backslash, _⟩
  · have letter : e ≠ 'u' := by
      rintro rfl
      cases short
    rw [shape]
    simp [Still, Escapes.next, letter]
  · obtain ⟨high, low⟩ := not_surrogate c
    rw [shape, Still, foldl_unit unit, Escapes.named, high, low]
    rfl
  · rw [shape]
    exact .cons backslash rfl

theorem still_quoted (text : String) : Still (quoted text) := by
  refine .cons (by decide) ((still_flatten fun part inside => ?_).append (.cons (by decide) rfl))
  obtain ⟨c, _, rfl⟩ := List.mem_map.mp inside
  exact still_escaped c

theorem still_stringify (json : Json) : Still (stringify json) := by
  induction json using induction with
  | null => rfl
  | bool truth => cases truth <;> rfl
  | number number =>
    apply still_of_plain
    rintro c inside rfl
    exact absurd (number.inNumber_of_mem _ inside) (by decide)
  | string text => exact still_quoted text
  | array items ih =>
    rw [stringify, texts_eq]
    refine .cons (by decide) ((still_commas fun text inside => ?_).append (.cons (by decide) rfl))
    obtain ⟨item, member, rfl⟩ := List.mem_map.mp inside
    exact ih item member
  | object members ih =>
    rw [stringify, memberTexts_eq]
    refine .cons (by decide) ((still_commas fun text inside => ?_).append (.cons (by decide) rfl))
    obtain ⟨member, named, rfl⟩ := List.mem_map.mp inside
    exact (still_quoted member.1).append (.cons (by decide) (ih member named))

theorem paired_stringify (json : Json) : paired (stringify json) = true := by
  have still : (stringify json).foldl Escapes.next (.plain false) = .plain false := still_stringify json
  rw [paired, still]
  rfl

end Codec.Json
