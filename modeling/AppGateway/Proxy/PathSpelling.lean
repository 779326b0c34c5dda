import AppGateway.Proxy.RouteResolution

namespace GatewayProof

open Async GatewayModel
open Codec.Percent (decodeURIComponent decodeUnreserved WellFormed decodes_iff)

inductive Token where
  | text (value : String)
  | param (name : String)
  | wildcard (name : String)
deriving DecidableEq, Repr

def Delimited : List Token → Prop
  | [] => True
  | .text value :: _ => value.toList.head? = some '/'
  | _ => False

def PlainTokens : List Token → Prop
  | [] => True
  | .text value :: rest => (∀ c ∈ value.toList, c.toNat < 128 ∧ c ≠ '%') ∧ PlainTokens rest
  | .param _ :: rest => Delimited rest ∧ PlainTokens rest
  | .wildcard _ :: rest => Delimited rest ∧ PlainTokens rest

def Token.isWildcard : Token → Bool
  | .wildcard _ => true
  | _ => false

/-- Of several wildcards the documentation does not say where each of them ends. -/
def PlainPattern (tokens : List Token) : Prop := PlainTokens tokens ∧ tokens.countP Token.isWildcard ≤ 1

/-- A path divided among the tokens of a pattern: text in any case, a parameter within a segment, a wildcard
    across segments, and perhaps one slash at the end. -/
inductive Splits : List Token → List Char → List (List Char) → Prop where
  | finish : Splits [] [] []
  | slash : Splits [] ['/'] []
  | text {value : String} {tokens : List Token} {spelled rest : List Char} {captures : List (List Char)}
      (same : spelled.map Char.toUpper = value.toList.map Char.toUpper) (tail : Splits tokens rest captures) :
      Splits (.text value :: tokens) (spelled ++ rest) captures
  | param {name : String} {tokens : List Token} {capture rest : List Char} {captures : List (List Char)}
      (some_char : capture ≠ []) (segment : '/' ∉ capture) (tail : Splits tokens rest captures) :
      Splits (.param name :: tokens) (capture ++ rest) (capture :: captures)
  | wildcard {name : String} {tokens : List Token} {capture rest : List Char} {captures : List (List Char)}
      (some_char : capture ≠ []) (tail : Splits tokens rest captures) :
      Splits (.wildcard name :: tokens) (capture ++ rest) (capture :: captures)

/-- What is documented of the paths a pattern of plain tokens matches; `parse` gives the alternatives that optional
    groups leave. -/
structure PathGrammar {env : ProxyEnv} (package : PathToRegexp env) where
  parse : String → Option (List (List Token))
  compiled : ∀ pattern alternatives, parse pattern = some alternatives →
  (∀ tokens ∈ alternatives, PlainPattern tokens) →
    ∃ exec, package.regexp pattern = some exec ∧
      (∀ path captures, exec path = some captures → ∃ tokens ∈ alternatives, ∃ texts, Splits tokens path.toList texts ∧
        captures.map String.toList = texts.flatMap fun text => text.splitOn '/') ∧
      ∀ path, exec path = none → ∀ tokens ∈ alternatives, ∀ texts, ¬ Splits tokens path.toList texts

theorem toUpper_letter {c : Char} (letter : c.toUpper ≠ c) : 65 ≤ c.toUpper.toNat ∧ 65 ≤ c.toNat := by
  unfold Char.toUpper at letter ⊢
  split at letter
  · rename_i lower
    rw [dif_pos lower]
    have bounds := lower
    simp only [UInt32.le_iff_toNat_le] at bounds
    have first : ('a').val.toNat = 97 := rfl
    have last : ('z').val.toNat = 122 := rfl
    have shift : (('A').val - ('a').val).toNat = 4294967264 := rfl
    simp only [Char.toNat, UInt32.toNat_add, shift]
    omega
  · exact absurd rfl letter

theorem toUpper_symbol {c symbol : Char} (below : symbol.toNat < 65)
    (same : c.toUpper = symbol.toUpper) : c = symbol := by
  have kept : symbol.toUpper = symbol := by
    by_contra letter
    have bounds := toUpper_letter letter
    omega
  rw [kept] at same
  by_contra different
  have bounds := toUpper_letter (c := c) (by rw [same]; exact Ne.symm different)
  rw [same] at bounds
  omega

theorem spelled_plain {spelled : List Char} {value : String} (plain : ∀ c ∈ value.toList, c.toNat < 128 ∧ c ≠ '%')
    (same : spelled.map Char.toUpper = value.toList.map Char.toUpper) : '%' ∉ spelled := by
  intro member
  have upper : ('%').toUpper ∈ value.toList.map Char.toUpper := same ▸ List.mem_map_of_mem member
  obtain ⟨c, inside, equal⟩ := List.mem_map.mp upper
  exact (plain c inside).2 (toUpper_symbol (by decide) equal)

theorem Splits.delimited {tokens : List Token} {rest : List Char} {captures : List (List Char)}
    (splits : Splits tokens rest captures) (delimited : Delimited tokens) : rest = [] ∨ ∃ tail, rest = '/' :: tail := by
  cases splits with
  | finish => exact .inl rfl
  | slash => exact .inr ⟨[], rfl⟩
  | @text value tokens spelled rest captures same tail =>
    right
    cases letters : value.toList with
    | nil => simp [Delimited, letters] at delimited
    | cons first letters' =>
      obtain rfl : first = '/' := by simpa [Delimited, letters] using delimited
      cases spelled with
      | nil => simp [letters] at same
      | cons c spelled =>
        rw [letters, List.map_cons, List.map_cons] at same
        have slash := toUpper_symbol (by decide) (List.cons.inj same).1
        exact ⟨spelled ++ rest, by rw [slash]; rfl⟩
  | param => exact delimited.elim
  | wildcard => exact delimited.elim

theorem decodeUnreserved_delimited {text rest : List Char} (delimited : rest = [] ∨ ∃ tail, rest = '/' :: tail) :
    decodeUnreserved (text ++ rest) = decodeUnreserved text ++ decodeUnreserved rest := by
  rcases delimited with rfl | ⟨tail, rfl⟩
  · simp [decodeUnreserved]
  · rw [Codec.Percent.decodeUnreserved_slash, Codec.Percent.decodeUnreserved_cons (by decide)]

/-- A pattern that matches a path as it is spelled matches the path with its unreserved characters decoded. -/
theorem Splits.decoded {tokens : List Token} {path : List Char} {captures : List (List Char)}
    (splits : Splits tokens path captures) (plain : PlainTokens tokens) :
    Splits tokens (decodeUnreserved path) (captures.map decodeUnreserved) := by
  induction splits with
  | finish => exact .finish
  | slash => exact .slash
  | text same _ ih =>
    rw [Codec.Percent.decodeUnreserved_append (spelled_plain plain.1 same)]
    exact .text same (ih plain.2)
  | param some_char segment tail ih =>
    rw [decodeUnreserved_delimited (tail.delimited plain.1)]
    exact .param (Codec.Percent.decodeUnreserved_ne_nil some_char) (Codec.Percent.slash_not_mem segment) (ih plain.2)
  | wildcard some_char tail ih =>
    rw [decodeUnreserved_delimited (tail.delimited plain.1)]
    exact .wildcard (Codec.Percent.decodeUnreserved_ne_nil some_char) (ih plain.2)

theorem Splits.wellFormed {tokens : List Token} {path : List Char} {captures : List (List Char)}
    (splits : Splits tokens path captures) (plain : PlainTokens tokens) (wellFormed : WellFormed path) :
    ∀ capture ∈ captures, WellFormed capture := by
  have part : ∀ {capture rest : List Char}, (rest = [] ∨ ∃ tail, rest = '/' :: tail) → WellFormed (capture ++ rest) →
      WellFormed capture ∧ WellFormed rest := by
    rintro capture rest (rfl | ⟨tail, rfl⟩) whole
    · rw [List.append_nil] at whole
      exact ⟨whole, .nil⟩
    · exact ⟨whole.split.1, .plain (by decide) whole.split.2⟩
  induction splits with
  | finish => simp
  | slash => simp
  | text same _ ih => exact ih plain.2 (wellFormed.drop (spelled_plain plain.1 same))
  | param some_char segment tail ih =>
    obtain ⟨front, back⟩ := part (tail.delimited plain.1) wellFormed
    intro capture member
    rcases List.mem_cons.mp member with rfl | later
    · exact front
    · exact ih plain.2 back capture later
  | wildcard some_char tail ih =>
    obtain ⟨front, back⟩ := part (tail.delimited plain.1) wellFormed
    intro capture member
    rcases List.mem_cons.mp member with rfl | later
    · exact front
    · exact ih plain.2 back capture later

def canonical (path : String) : String := String.ofList (decodeUnreserved path.toList)

section Selection

variable {env : ProxyEnv} {package : PathToRegexp env} {grammar : PathGrammar package} {routes : List RouteConfig}
  {route : RouteConfig} {path : String}

def PathGrammar.PlainRoute (grammar : PathGrammar package) (route : RouteConfig) : Prop :=
  ∃ alternatives, grammar.parse route.path = some alternatives ∧ ∀ tokens ∈ alternatives, PlainPattern tokens

def PathGrammar.Matches (grammar : PathGrammar package) (route : RouteConfig) (path : String) : Prop :=
  ∃ alternatives, grammar.parse route.path = some alternatives ∧ ∃ tokens ∈ alternatives, ∃ texts,
    Splits tokens path.toList texts

theorem matchPath_plain (plain : grammar.PlainRoute route) (wellFormed : WellFormed path.toList) :
    (env.matchPath route.path path = .ok true ∧ grammar.Matches route path) ∨
      (env.matchPath route.path path = .ok false ∧ ¬ grammar.Matches route path) := by
  obtain ⟨alternatives, parsed, every⟩ := plain
  obtain ⟨exec, compiled, hits, misses⟩ := grammar.compiled _ _ parsed every
  cases hit : exec path with
  | none =>
    refine .inr ⟨package.unmatched _ _ exec compiled hit, ?_⟩
    rintro ⟨others, parsed', tokens, member, texts, splits⟩
    rw [parsed] at parsed'
    cases parsed'
    exact misses path hit tokens member texts splits
  | some captures =>
    obtain ⟨tokens, member, texts, splits, segments⟩ := hits path captures hit
    refine .inl ⟨package.matched _ _ exec captures compiled hit fun capture captured => ?_,
      alternatives, parsed, tokens, member, texts, splits⟩
    have listed : capture.toList ∈ texts.flatMap fun text => text.splitOn '/' :=
      segments ▸ List.mem_map_of_mem captured
    obtain ⟨text, taken, segment⟩ := List.mem_flatMap.mp listed
    have whole := splits.wellFormed (every tokens member).1 wellFormed text taken
    exact decodes_iff.mpr (whole.segments _ segment)

theorem PathGrammar.Matches.decoded (plain : grammar.PlainRoute route) (hit : grammar.Matches route path) :
    grammar.Matches route (canonical path) := by
  obtain ⟨alternatives, parsed, every⟩ := plain
  obtain ⟨others, parsed', tokens, member, texts, splits⟩ := hit
  rw [parsed] at parsed'
  cases parsed'
  refine ⟨alternatives, parsed, tokens, member, texts.map decodeUnreserved, ?_⟩
  rw [canonical, String.toList_ofList]
  exact splits.decoded (every tokens member).1

def SelectsFrom (env : ProxyEnv) (routes : List RouteConfig) (path : String) : Option ResolvedRoute → Prop
  | none => resolveRoute env path routes = .ok none
  | some selected => ∃ before after, routes = before ++ selected.route :: after ∧
    ((env.matchPath selected.route.path path = .ok true ∧
        ∃ forwardPath, resolveRoute env path routes = .ok (some ⟨selected.route, forwardPath⟩)) ∨
      (env.matchPath selected.route.path path = .ok false ∧ (resolveRoute env path routes = .ok none ∨
        ∃ later ∈ after, ∃ forwardPath, resolveRoute env path routes = .ok (some ⟨later, forwardPath⟩))))

theorem resolveRoute_plain (plain : ∀ route ∈ routes, grammar.PlainRoute route) (wellFormed : WellFormed path.toList) :
    resolveRoute env path routes = .ok none ∨
      ∃ route ∈ routes, ∃ forwardPath, resolveRoute env path routes = .ok (some ⟨route, forwardPath⟩) := by
  induction routes with
  | nil => exact .inl rfl
  | cons route routes ih =>
    unfold resolveRoute
    rcases matchPath_plain (plain route (List.mem_cons_self ..)) wellFormed with ⟨hit, _⟩ | ⟨missed, _⟩
    · rw [hit]
      exact .inr ⟨route, List.mem_cons_self .., _, rfl⟩
    · rw [missed]
      rcases ih fun other member => plain other (List.mem_cons_of_mem _ member) with nothing | ⟨later, member, found⟩
      · exact .inl nothing
      · exact .inr ⟨later, List.mem_cons_of_mem _ member, found⟩

theorem selectsFrom_canonical (plain : ∀ route ∈ routes, grammar.PlainRoute route)
    (wellFormed : WellFormed path.toList) :
    ∃ selected, resolveRoute env (canonical path) routes = .ok selected ∧ SelectsFrom env routes path selected := by
  have decoded : WellFormed (canonical path).toList := by
    rw [canonical, String.toList_ofList]
    exact wellFormed.decodeUnreserved
  induction routes with
  | nil => exact ⟨none, rfl, rfl⟩
  | cons route routes ih =>
    have here := plain route (List.mem_cons_self ..)
    have rest : ∀ other ∈ routes, grammar.PlainRoute other := fun other member =>
      plain other (List.mem_cons_of_mem _ member)
    rcases matchPath_plain here decoded with ⟨hit, _⟩ | ⟨missed, unmatched⟩
    · refine ⟨some ⟨route, if route.strip_prefix then stripPrefix route.path (canonical path) else canonical path⟩,
        by simp only [resolveRoute, hit], [], routes, rfl, ?_⟩
      rcases matchPath_plain here wellFormed with ⟨spelled, _⟩ | ⟨spelled, _⟩
      · exact .inl ⟨spelled, _, by simp only [resolveRoute, spelled]; rfl⟩
      · refine .inr ⟨spelled, ?_⟩
        simp only [resolveRoute, spelled]
        exact resolveRoute_plain rest wellFormed
    · obtain ⟨selected, found, selects⟩ := ih rest
      have skipped : env.matchPath route.path path = .ok false := by
        rcases matchPath_plain here wellFormed with ⟨_, spelled⟩ | ⟨spelled, _⟩
        · exact absurd (spelled.decoded here) unmatched
        · exact spelled
      refine ⟨selected, by simp only [resolveRoute, missed, found], ?_⟩
      cases selected with
      | none =>
        simp only [SelectsFrom] at selects ⊢
        simp only [resolveRoute, skipped, selects]
      | some selected =>
        obtain ⟨before, after, rfl, either⟩ := selects
        refine ⟨route :: before, after, rfl, ?_⟩
        simp only [resolveRoute, skipped]
        exact either

/-- Of two spellings of one path each selects the entry of the decoded path if the pattern of this entry matches it,
    and can otherwise only fall to a later entry. -/
theorem respelled_selects (grammar : PathGrammar package) {path path' : String}
    (plain : ∀ route ∈ routes, grammar.PlainRoute route) (wellFormed : WellFormed path.toList)
    (wellFormed' : WellFormed path'.toList) (equivalent : canonical path = canonical path') :
    ∃ selected, resolveRoute env (canonical path) routes = .ok selected ∧ SelectsFrom env routes path selected ∧
      SelectsFrom env routes path' selected := by
  obtain ⟨selected, found, selects⟩ := selectsFrom_canonical plain wellFormed
  obtain ⟨selected', found', selects'⟩ := selectsFrom_canonical plain wellFormed'
  rw [← equivalent, found] at found'
  cases found'
  exact ⟨selected, found, selects, selects'⟩

end Selection

/-! A strict entry before one for the rest -/

def apiPatterns : List (String × String) := [("/api/admin/*rest", "/api/admin/"), ("/api/*rest", "/api/")]

def apiRest (value : String) (path : List Char) : Option (List Char) :=
  let rest := path.drop value.toList.length
  if (path.take value.toList.length).map Char.toUpper = value.toList.map Char.toUpper ∧
    rest ≠ [] then some rest else none

def apiRegexp (pattern : String) : Option (String → Option (List String)) :=
  (apiPatterns.find? fun entry => entry.1 = pattern).map fun entry path =>
    (apiRest entry.2 path.toList).map fun rest => (rest.splitOn '/').map String.ofList

def apiProxy : ProxyEnv := { sampleProxy with matchPath := matchOf apiRegexp }

theorem apiRest_splits {value : String} {path rest : List Char} (taken : apiRest value path = some rest) :
    Splits [.text value, .wildcard "rest"] path [rest] := by
  unfold apiRest at taken
  dsimp only at taken
  split at taken
  · rename_i fits
    cases taken
    have whole : Splits [.text value, .wildcard "rest"]
        (path.take value.toList.length ++ (path.drop value.toList.length ++ [])) [path.drop value.toList.length] :=
      .text fits.1 (.wildcard fits.2 .finish)
    rwa [List.append_nil, List.take_append_drop] at whole
  · cases taken

theorem apiRest_none {value : String} {path : List Char} (missed : apiRest value path = none)
    (texts : List (List Char)) :
    ¬ Splits [.text value, .wildcard "rest"] path texts := by
  intro splits
  cases splits with
  | @text _ _ spelled rest _ same tail =>
    have length : spelled.length = value.toList.length := by simpa using congrArg List.length same
    cases tail with
    | @wildcard _ _ capture rest _ some_char tail =>
      have fits : apiRest value (spelled ++ (capture ++ rest)) = some (capture ++ rest) := by
        unfold apiRest
        simp [← length, same, some_char]
      rw [fits] at missed
      cases missed

theorem apiPatterns_plain : ∀ entry ∈ apiPatterns, PlainPattern [.text entry.2, .wildcard "rest"] := by
  intro entry member
  have each : (apiPatterns.all fun entry => entry.2.toList.all fun c => c.toNat < 128 && c ≠ '%') = true := by decide
  have ascii : ∀ c ∈ entry.2.toList, c.toNat < 128 ∧ c ≠ '%' := by
    simpa only [List.all_eq_true, Bool.and_eq_true, decide_eq_true_eq] using List.all_eq_true.mp each entry member
  have single : [Token.text entry.2, Token.wildcard "rest"].countP Token.isWildcard ≤ 1 := by
    simp [Token.isWildcard]
  exact ⟨⟨ascii, trivial, trivial⟩, single⟩

def apiGrammar : PathGrammar (PathToRegexp.of sampleProxy apiRegexp) where
  parse pattern := (apiPatterns.find? fun entry => entry.1 = pattern).map fun entry =>
    [[.text entry.2, .wildcard "rest"]]
  compiled := by
    intro pattern alternatives parsed _
    obtain ⟨entry, found, rfl⟩ := Option.map_eq_some_iff.mp parsed
    refine ⟨fun path => (apiRest entry.2 path.toList).map fun rest => (rest.splitOn '/').map String.ofList,
      ?_, fun path captures hit => ?_, fun path missed tokens member texts => ?_⟩
    · simp only [PathToRegexp.of, apiRegexp, found]
      rfl
    · obtain ⟨rest, taken, rfl⟩ := Option.map_eq_some_iff.mp hit
      exact ⟨_, List.mem_singleton_self _, [rest], apiRest_splits taken, by simp⟩
    · rw [List.mem_singleton.mp member]
      exact apiRest_none (Option.map_eq_none_iff.mp missed) texts

def apiRoutes : List RouteConfig :=
  [{ usersRoute with path := "/api/admin/*rest", auth_required := true, allowed_roles := some ["admin"] },
    { usersRoute with path := "/api/*rest" }]

theorem apiRoutes_select : ∃ selected, resolveRoute apiProxy (canonical "/api/%61dmin/x") apiRoutes = .ok selected ∧
    SelectsFrom apiProxy apiRoutes "/api/%61dmin/x" selected ∧
    SelectsFrom apiProxy apiRoutes "/api/admin/x" selected := by
  refine respelled_selects apiGrammar ?_ (decodes_iff.mp (by decide)) (decodes_iff.mp (by decide)) (by decide)
  intro route member
  have listed : ∃ entry ∈ apiPatterns, apiPatterns.find? (fun entry => entry.1 = route.path) = some entry := by
    simp only [apiRoutes, List.mem_cons, List.not_mem_nil, or_false] at member
    rcases member with rfl | rfl
    · exact ⟨apiPatterns[0], by decide, by decide⟩
    · exact ⟨apiPatterns[1], by decide, by decide⟩
  obtain ⟨entry, known, found⟩ := listed
  refine ⟨[[.text entry.2, .wildcard "rest"]], by simp only [apiGrammar, found]; rfl, ?_⟩
  intro tokens one
  rw [List.mem_singleton.mp one]
  exact apiPatterns_plain entry known

/-- A client that writes the path with an escape falls through to the open entry. -/
theorem escaped_path_skips_entry : canonical "/api/%61dmin/x" = canonical "/api/admin/x" ∧
    (∀ route ∈ apiRoutes, (apiRegexp route.path).isSome = true) ∧
    ∃ first second, resolveRoute apiProxy "/api/admin/x" apiRoutes = .ok (some first) ∧
      resolveRoute apiProxy "/api/%61dmin/x" apiRoutes = .ok (some second) ∧
      first.route.auth_required = true ∧ first.route.allowed_roles = some ["admin"] ∧
      second.route.auth_required = false ∧ second.route.allowed_roles = none := by
  refine ⟨by decide, by decide, ⟨apiRoutes[0], "/api/admin/x"⟩, ⟨apiRoutes[1], "/api/%61dmin/x"⟩, ?_⟩
  decide

end GatewayProof
