import AppGateway.Proxy.PathSpelling

namespace GatewayProof

open GatewayModel

inductive Fits (canonicalize : Char → Char) : List Token → List Char → Prop where
  | finish : Fits canonicalize [] []
  | slash : Fits canonicalize [] ['/']
  | text {value : String} {tokens : List Token} {spelled rest : List Char}
      (same : spelled.map canonicalize = value.toList.map canonicalize) (tail : Fits canonicalize tokens rest) :
      Fits canonicalize (.text value :: tokens) (spelled ++ rest)
  | param {name : String} {tokens : List Token} {capture rest : List Char} (some_char : capture ≠ [])
      (segment : '/' ∉ capture) (tail : Fits canonicalize tokens rest) :
      Fits canonicalize (.param name :: tokens) (capture ++ rest)
  | wildcard {name : String} {tokens : List Token} {capture rest : List Char} (some_char : capture ≠ [])
      (tail : Fits canonicalize tokens rest) : Fits canonicalize (.wildcard name :: tokens) (capture ++ rest)

/-- What is documented of path-to-regexp 8: `alternatives` are the tokens of a pattern with each of its optional groups
    taken or left out, escapes resolved; a path that the pattern matches fits one of them. Ignoring case, only a slash
    is a slash. -/
structure PathSyntax (env : ProxyEnv) where
  canonicalize : Char → Char
  slash : ∀ c, canonicalize c = canonicalize '/' → c = '/'
  alternatives : String → List (List Token)
  fits : ∀ pattern path, env.matchPath pattern path = .ok true →
    ∃ tokens ∈ alternatives pattern, Fits canonicalize tokens path.toList

def leadingText : List Token → List Char
  | .text value :: rest => value.toList ++ leadingText rest
  | _ => []

def textOnly : List Token → Bool
  | [] => true
  | .text _ :: rest => textOnly rest
  | _ :: _ => false

/-- What is stripped is spelled by leading literal segments of the tokens: up to a slash of the literal text, or all of
    it where nothing else follows. -/
def StripsSegments (canonicalize : Char → Char) (tokens : List Token) (path forwardPath : List Char) : Prop :=
  ∃ literal rest segments, leadingText tokens = literal ++ rest ∧
    (literal = [] ∨ rest.head? = some '/' ∨ (rest = [] ∧ textOnly tokens = true)) ∧
    segments.map canonicalize = literal.map canonicalize ∧
    ((path = segments ++ forwardPath ∧ forwardPath.head? = some '/') ∨
      ((path = segments ∨ path = segments ++ ['/']) ∧ forwardPath = ['/']))

/-- Where the text of a pattern has its first `:`, `*` or brace, or ends; a slash right before it, unless it is the
    first character, is not counted. -/
def literalCut (pattern : String) : Nat :=
  let literal := pattern.toList.takeWhile fun c => c ∉ [':', '*', '\x7b']
  let units := (literal.map fun c => if c.toNat < 65536 then 1 else 2).sum
  if literal.getLast? = some '/' ∧ 1 < literal.length then units - 1 else units

/-- At the cut the literal text has a slash, or there is no other token and it has ended; or nothing is cut off. -/
def Aligned (cut : Nat) (tokens : List Token) (path : List Char) : Prop :=
  (leadingText tokens)[cut]? = some '/' ∨ (textOnly tokens = true ∧ (leadingText tokens).length ≤ cut) ∨
    ((cut = 0 ∨ path = ['/']) ∧ path.head? = some '/')

section Stripping

variable {canonicalize : Char → Char} {tokens : List Token} {path forwardPath : List Char} {cut : Nat}

theorem Fits.spelled (fits : Fits canonicalize tokens path) : ∃ spelled rest, path = spelled ++ rest ∧
    spelled.map canonicalize = (leadingText tokens).map canonicalize ∧
    (textOnly tokens = true → rest = [] ∨ rest = ['/']) ∧ (rest = [] → textOnly tokens = true) := by
  induction fits with
  | finish => exact ⟨[], [], rfl, rfl, fun _ => .inl rfl, fun _ => rfl⟩
  | slash => exact ⟨[], ['/'], rfl, rfl, fun _ => .inr rfl, nofun⟩
  | @text value tokens spelled rest same tail ih =>
    obtain ⟨more, last, rfl, same', only, whole⟩ := ih
    refine ⟨spelled ++ more, last, (List.append_assoc ..).symm, ?_, only, whole⟩
    rw [leadingText, List.map_append, List.map_append, same, same']
  | @param name tokens capture rest some_char segment tail ih =>
    refine ⟨[], capture ++ rest, rfl, rfl, nofun, fun nothing => ?_⟩
    exact absurd (List.append_eq_nil_iff.mp nothing).1 some_char
  | @wildcard name tokens capture rest some_char tail ih =>
    refine ⟨[], capture ++ rest, rfl, rfl, nofun, fun nothing => ?_⟩
    exact absurd (List.append_eq_nil_iff.mp nothing).1 some_char

def sliced (cut : Nat) (path : List Char) : List Char :=
  match path.drop cut with
  | [] => ['/']
  | rest => rest

theorem sliced_cases (cut : Nat) (path : List Char) :
    (path.length ≤ cut ∧ sliced cut path = ['/']) ∨ (cut < path.length ∧ sliced cut path = path.drop cut) := by
  unfold sliced
  cases left : path.drop cut with
  | nil => exact .inl ⟨List.drop_eq_nil_iff.mp left, rfl⟩
  | cons first rest =>
    refine .inr ⟨?_, rfl⟩
    by_contra inside
    rw [List.drop_eq_nil_iff.mpr (Nat.not_lt.mp inside)] at left
    cases left

theorem slash_iff {spelled literal : List Char} (slash : ∀ c, canonicalize c = canonicalize '/' → c = '/')
    (same : spelled.map canonicalize = literal.map canonicalize) :
    spelled[cut]? = some '/' ↔ literal[cut]? = some '/' := by
  have there : spelled[cut]?.map canonicalize = literal[cut]?.map canonicalize := by
    rw [← List.getElem?_map, same, List.getElem?_map]
  have only : ∀ letter : Option Char, letter.map canonicalize = some (canonicalize '/') ↔ letter = some '/' := by
    intro letter
    cases letter with
    | none => simp
    | some c =>
      constructor
      · intro equal
        rw [slash c (Option.some.inj equal)]
      · rintro ⟨⟩
        rfl
  rw [← only, there, only]

theorem sliced_uncut (uncut : cut = 0 ∨ path = ['/']) (begins : path.head? = some '/') : sliced cut path = path := by
  rcases uncut with rfl | rfl
  · rcases sliced_cases 0 path with ⟨short, _⟩ | ⟨_, kept⟩
    · rw [List.length_eq_zero_iff.mp (Nat.le_zero.mp short)] at begins
      cases begins
    · exact kept
  · rcases sliced_cases cut ['/'] with ⟨_, emptied⟩ | ⟨long, kept⟩
    · exact emptied
    · rw [List.length_singleton, Nat.lt_one_iff] at long
      rw [kept, long]
      rfl

theorem aligned_strips (fits : Fits canonicalize tokens path)
    (slash : ∀ c, canonicalize c = canonicalize '/' → c = '/') (aligned : Aligned cut tokens path) :
    StripsSegments canonicalize tokens path (sliced cut path) := by
  obtain ⟨spelled, rest, whole, same, only, _⟩ := fits.spelled
  have lengths : spelled.length = (leadingText tokens).length := by
    have mapped := congrArg List.length same
    simpa using mapped
  rcases aligned with found | ⟨text, fit⟩ | ⟨uncut, begins⟩
  · -- the path has a slash where the literal text has one
    have inside : cut < spelled.length := by
      rw [lengths]
      exact (List.getElem?_eq_some_iff.mp found).1
    have letter : spelled[cut]? = some '/' := (slash_iff slash same).mpr found
    rcases sliced_cases cut path with ⟨short, _⟩ | ⟨_, kept⟩
    · rw [whole, List.length_append] at short
      omega
    refine ⟨(leadingText tokens).take cut, (leadingText tokens).drop cut, spelled.take cut,
      (List.take_append_drop ..).symm, .inr (.inl ?_), ?_, .inl ⟨?_, ?_⟩⟩
    · rw [List.head?_drop, found]
    · rw [List.map_take, same, List.map_take]
    · rw [kept, whole, List.drop_append_of_le_length (Nat.le_of_lt inside), ← List.append_assoc, List.take_append_drop]
    · rw [kept, whole, List.head?_drop, List.getElem?_append_left inside, letter]
  · refine ⟨leadingText tokens, [], spelled, (List.append_nil _).symm, .inr (.inr ⟨rfl, text⟩), same, .inr ?_⟩
    rcases only text with rfl | rfl
    · rw [List.append_nil] at whole
      rcases sliced_cases cut path with ⟨_, emptied⟩ | ⟨long, _⟩
      · exact ⟨.inl whole, emptied⟩
      · rw [whole] at long
        omega
    · refine ⟨.inr whole, ?_⟩
      rcases sliced_cases cut path with ⟨_, emptied⟩ | ⟨long, kept⟩
      · exact emptied
      · have last : cut = spelled.length := by
          rw [whole, List.length_append, List.length_singleton] at long
          omega
        rw [kept, whole, last, List.drop_left]
  · rw [sliced_uncut uncut begins]
    exact ⟨[], leadingText tokens, [], rfl, .inl rfl, rfl, .inl ⟨rfl, begins⟩⟩

theorem strips_aligned (fits : Fits canonicalize tokens path)
    (slash : ∀ c, canonicalize c = canonicalize '/' → c = '/')
    (strips : StripsSegments canonicalize tokens path (sliced cut path)) : Aligned cut tokens path := by
  obtain ⟨spelled, more, whole, same, _, ended⟩ := fits.spelled
  have spelling : spelled.length = (leadingText tokens).length := by
    have mapped := congrArg List.length same
    simpa using mapped
  have total : path.length = (leadingText tokens).length + more.length := by
    rw [whole, List.length_append, spelling]
  obtain ⟨literal, rest, segments, split, boundary, matched, stripped⟩ := strips
  have parts : (leadingText tokens).length = literal.length + rest.length := by
    rw [split, List.length_append]
  have segmented : segments.length = literal.length := by
    have mapped := congrArg List.length matched
    simpa using mapped
  have exhausted : path.length = (leadingText tokens).length → textOnly tokens = true := by
    intro equal
    exact ended (List.length_eq_zero_iff.mp (by omega))
  have joined : path = segments ++ sliced cut path → (sliced cut path).head? = some '/' → Aligned cut tokens path := by
    intro joined begins
    rcases sliced_cases cut path with ⟨short, emptied⟩ | ⟨long, kept⟩
    · rw [emptied] at joined
      have lengths := congrArg List.length joined
      rw [List.length_append, List.length_singleton] at lengths
      rcases boundary with rfl | bounded | ⟨rfl, text⟩
      · obtain rfl := List.length_eq_zero_iff.mp segmented
        exact .inr (.inr ⟨.inr joined, by rw [joined]; rfl⟩)
      · obtain ⟨tail, rfl⟩ := List.head?_eq_some_iff.mp bounded
        rw [List.length_cons] at parts
        exact .inr (.inl ⟨exhausted (by omega), by omega⟩)
      · rw [List.length_nil] at parts
        exact .inr (.inl ⟨text, by omega⟩)
    · have lengths := congrArg List.length joined
      rw [kept, List.length_append, List.length_drop] at lengths
      have place : literal.length = cut := by omega
      rcases boundary with rfl | bounded | ⟨rfl, text⟩
      · obtain rfl := List.length_eq_zero_iff.mp segmented
        rw [kept, ← place, List.length_nil, List.drop_zero] at begins
        exact .inr (.inr ⟨.inl place.symm, begins⟩)
      · left
        rw [split, ← place, List.getElem?_append_right (Nat.le_refl _), Nat.sub_self, ← List.head?_eq_getElem?, bounded]
      · rw [List.length_nil] at parts
        exact .inr (.inl ⟨text, by omega⟩)
  rcases stripped with ⟨apart, begins⟩ | ⟨spent | slashed, root⟩
  · exact joined apart begins
  · rcases boundary with rfl | bounded | ⟨rfl, text⟩
    · have nothing := congrArg List.length spent
      rw [segmented, List.length_nil] at nothing
      exact .inr (.inl ⟨exhausted (by omega), by omega⟩)
    · obtain ⟨tail, rfl⟩ := List.head?_eq_some_iff.mp bounded
      have lengths := congrArg List.length spent
      rw [List.length_cons] at parts
      omega
    · rw [List.append_nil] at split
      rcases sliced_cases cut path with ⟨short, _⟩ | ⟨long, kept⟩
      · rw [List.length_nil] at parts
        exact .inr (.inl ⟨text, by omega⟩)
      · -- the path spells the literal text, and ends in a slash behind the cut
        left
        rw [split, ← slash_iff slash matched, ← spent, ← List.head?_drop, ← kept, root]
        rfl
  · refine joined ?_ (by rw [root]; rfl)
    rw [root]
    exact slashed

end Stripping

section Routes

variable {env : ProxyEnv} {routes : List RouteConfig} {path : String} {resolved : ResolvedRoute}

theorem literalCut_eq (pattern : String) : utf16Length (staticPrefixOf pattern) = literalCut pattern := by
  unfold utf16Length staticPrefixOf literalCut
  simp only
  split
  · rename_i slashed
    obtain ⟨front, split⟩ := List.getLast?_eq_some_iff.mp slashed.1
    rw [split, List.dropLast_concat, String.toList_ofList, List.map_append, List.sum_append]
    rfl
  · rw [String.toList_ofList]

theorem stripPrefix_toList (pattern path : String) :
    (stripPrefix pattern path).toList = sliced (literalCut pattern) path.toList := by
  unfold stripPrefix sliced
  rw [literalCut_eq]
  cases path.toList.drop (literalCut pattern) with
  | nil => rfl
  | cons first rest => exact String.toList_ofList

theorem resolveRoute_forwardPath (found : resolveRoute env path routes = .ok (some resolved)) :
    resolved.forwardPath = if resolved.route.strip_prefix then stripPrefix resolved.route.path path else path := by
  induction routes with
  | nil => cases found
  | cons route routes ih =>
    simp only [resolveRoute] at found
    split at found
    · cases found
    · cases found
      rfl
    · exact ih found

/-- The path fits some tokens of the pattern; and stripping takes whole literal segments of such tokens exactly when
    some of them are aligned with the cut. -/
theorem strip_prefix_whole_segments_iff (package : PathSyntax env)
    (found : resolveRoute env path routes = .ok (some resolved)) (strip : resolved.route.strip_prefix = true) :
    (∃ tokens ∈ package.alternatives resolved.route.path, Fits package.canonicalize tokens path.toList) ∧
    ((∃ tokens ∈ package.alternatives resolved.route.path, Fits package.canonicalize tokens path.toList ∧
        StripsSegments package.canonicalize tokens path.toList resolved.forwardPath.toList) ↔
      ∃ tokens ∈ package.alternatives resolved.route.path, Fits package.canonicalize tokens path.toList ∧
        Aligned (literalCut resolved.route.path) tokens path.toList) := by
  obtain ⟨before, after, _, matched, _⟩ := resolveRoute_first found
  have forwarded := resolveRoute_forwardPath found
  rw [strip, if_pos rfl] at forwarded
  rw [forwarded, stripPrefix_toList]
  refine ⟨package.fits _ _ matched, ?_, ?_⟩
  · rintro ⟨tokens, member, fits, strips⟩
    exact ⟨tokens, member, fits, strips_aligned fits package.slash strips⟩
  · rintro ⟨tokens, member, fits, aligned⟩
    exact ⟨tokens, member, fits, aligned_strips fits package.slash aligned⟩

end Routes

/-! A parameter that is a segment, and one in the middle of a segment -/

def idRegexp (literal pattern : String) : Option (String → Option (List String)) :=
  if pattern = literal ++ ":id" then
    some fun path =>
      let rest := path.toList.drop literal.length
      if literal.toList.isPrefixOf path.toList ∧ rest ≠ [] ∧ '/' ∉ rest then some [String.ofList rest] else none
  else none

def idProxy (literal : String) : ProxyEnv := { sampleProxy with matchPath := matchOf (idRegexp literal) }

theorem idRegexp_fits (literal : String) {pattern path : String}
    (matched : (idProxy literal).matchPath pattern path = .ok true) :
    pattern = literal ++ ":id" ∧ Fits Char.toUpper [.text literal, .param "id"] path.toList := by
  by_cases same : pattern = literal ++ ":id"
  · refine ⟨same, ?_⟩
    simp only [idProxy, matchOf, idRegexp, same, if_true] at matched
    split at matched
    · cases matched
    · rename_i captures hit
      split at hit
      · rename_i conditions
        obtain ⟨begins, some_char, segment⟩ := conditions
        obtain ⟨rest, whole⟩ := List.isPrefixOf_iff_prefix.mp begins
        rw [← whole, ← String.length_toList, List.drop_left] at some_char segment
        have tail : Fits Char.toUpper [.param "id"] (rest ++ []) := .param some_char segment .finish
        rw [← whole]
        exact .text rfl (by simpa using tail)
      · cases hit
  · simp [idProxy, matchOf, idRegexp, same] at matched

def idSyntax (literal : String) : PathSyntax (idProxy literal) where
  canonicalize := Char.toUpper
  slash c same := toUpper_symbol (by decide) same
  alternatives pattern := if pattern = literal ++ ":id" then [[.text literal, .param "id"]] else []
  fits pattern path matched := by
    obtain ⟨same, fits⟩ := idRegexp_fits literal matched
    exact ⟨_, by rw [if_pos same]; exact List.mem_singleton_self _, fits⟩

def strippingRoute (path : String) : RouteConfig := { usersRoute with path := path, strip_prefix := true }

theorem whole_segment_stripped :
    resolveRoute (idProxy "/api/users/") "/api/users/42" [strippingRoute "/api/users/:id"] =
      .ok (some ⟨strippingRoute "/api/users/:id", "/42"⟩) ∧
    ∃ tokens ∈ (idSyntax "/api/users/").alternatives "/api/users/:id",
      Fits Char.toUpper tokens "/api/users/42".toList ∧
        StripsSegments Char.toUpper tokens "/api/users/42".toList "/42".toList := by
  have found : resolveRoute (idProxy "/api/users/") "/api/users/42" [strippingRoute "/api/users/:id"] =
      .ok (some ⟨strippingRoute "/api/users/:id", "/42"⟩) := by decide +kernel
  obtain ⟨⟨tokens, member, fits⟩, exact_when⟩ := strip_prefix_whole_segments_iff (idSyntax "/api/users/") found rfl
  have only : tokens ∈ [[Token.text "/api/users/", Token.param "id"]] := member
  refine ⟨found, exact_when.mpr ⟨tokens, member, fits, .inl ?_⟩⟩
  rw [List.mem_singleton.mp only]
  decide +kernel

/-- Half of a segment is stripped, and what is forwarded does not even begin with a slash. -/
theorem half_segment_stripped : ∃ resolved,
    resolveRoute (idProxy "/api/user-") "/api/user-42" [strippingRoute "/api/user-:id"] = .ok (some resolved) ∧
    resolved.route.strip_prefix = true ∧ resolved.forwardPath = "42" ∧
    ∀ tokens, ¬ StripsSegments (idSyntax "/api/user-").canonicalize tokens "/api/user-42".toList
      resolved.forwardPath.toList := by
  refine ⟨⟨strippingRoute "/api/user-:id", "42"⟩, by decide +kernel, rfl, rfl, ?_⟩
  rintro tokens ⟨literal, rest, segments, _, _, _, ⟨_, begins⟩ | ⟨_, root⟩⟩
  · exact absurd begins (by decide)
  · exact absurd root (by decide)

end GatewayProof
