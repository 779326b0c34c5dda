import AppGateway.Codec.JsonRoundTrip
import AppGateway.Codec.SchemaLaws
import AppGateway.Model.RouteConfigFile

namespace GatewayProof

open Codec GatewayModel
open Codec.Schema (parse fields)

/-- The entry of a file stands for this route. -/
structure Specifies (isUrl : String → Bool) (item : Json) (route : RouteConfig) : Prop where
  object : ∃ members, item = .object members
  path : item.member? "path" = some (.string route.path) ∧ 1 ≤ utf16Length route.path
  upstream : item.member? "upstream" = some (.string route.upstream) ∧ isUrl route.upstream = true
  auth_required : item.member? "auth_required" = some (.bool route.auth_required)
  required_scope : item.member? "required_scope" = some (route.required_scope.elim .null .string)
  allowed_roles : item.member? "allowed_roles" =
    some (route.allowed_roles.elim .null fun roles => .array (roles.map .string))
  rate_limit_override :
    (route.rate_limit_override = none ∧ item.member? "rate_limit_override" = some .null) ∨
    ∃ limit number, route.rate_limit_override = some limit ∧
      item.member? "rate_limit_override" = some (.number number) ∧
      number.whole? = some (limit : Int) ∧ 0 < limit ∧ limit ≤ 100000
  strip_prefix : item.member? "strip_prefix" = some (.bool route.strip_prefix)
  timeout_ms : ∃ number, (item.member? "timeout_ms").getD (.nat 30000) = .number number ∧
    number.whole? = some (route.timeout_ms : Int) ∧ 0 < route.timeout_ms
  audit_allowed_requests : (item.member? "audit_allowed_requests").getD (.bool false) =
    .bool route.audit_allowed_requests

/-! One entry -/

section Entries

variable {isUrl : String → Bool}

theorem routeConfigShape_distinct : ((routeConfigShape isUrl).map (·.1)).Nodup := by
  show ["path", "upstream", "auth_required", "required_scope", "allowed_roles", "rate_limit_override", "strip_prefix",
    "timeout_ms", "audit_allowed_requests"].Nodup
  decide

theorem whole_checks {number : Json.Number} : intCheck.1 number = true ∧ positiveCheck.1 number = true ↔
    ∃ n : Nat, number.whole? = some (n : Int) ∧ 0 < n := by
  simp only [intCheck, positiveCheck]
  constructor
  · rintro ⟨whole, positive⟩
    obtain ⟨n, whole⟩ := Option.isSome_iff_exists.mp whole
    have above := (Json.Number.isPositive_iff whole).mp positive
    exact ⟨n.toNat, by rw [whole]; congr 1; omega, by omega⟩
  · rintro ⟨n, whole, positive⟩
    exact ⟨by rw [whole]; rfl, (Json.Number.isPositive_iff whole).mpr (by omega)⟩

theorem limit_checks {number : Json.Number} :
    intCheck.1 number = true ∧ positiveCheck.1 number = true ∧ maxCheck.1 number = true ↔
      ∃ n : Nat, number.whole? = some (n : Int) ∧ 0 < n ∧ n ≤ 100000 := by
  rw [← and_assoc, whole_checks]
  constructor
  · rintro ⟨⟨n, whole, positive⟩, most⟩
    have below := (Json.Number.atMost_iff whole 100000).mp most
    exact ⟨n, whole, positive, by omega⟩
  · rintro ⟨n, whole, positive, below⟩
    exact ⟨⟨n, whole, positive⟩, (Json.Number.atMost_iff whole 100000).mpr (by omega)⟩

theorem entry_passes_iff {item : Json} : (fields (routeConfigShape isUrl) item).1 = [] ↔
    (∃ path, item.member? "path" = some (.string path) ∧ 1 ≤ utf16Length path) ∧
    (∃ upstream, item.member? "upstream" = some (.string upstream) ∧ isUrl upstream = true) ∧
    (∃ truth, item.member? "auth_required" = some (.bool truth)) ∧
    (item.member? "required_scope" = some .null ∨ ∃ scope, item.member? "required_scope" = some (.string scope)) ∧
    (item.member? "allowed_roles" = some .null ∨ ∃ given, item.member? "allowed_roles" = some (.array given) ∧
      ∀ each ∈ given, ∃ role, each = .string role) ∧
    (item.member? "rate_limit_override" = some .null ∨ ∃ number,
      item.member? "rate_limit_override" = some (.number number) ∧
      ∃ n : Nat, number.whole? = some (n : Int) ∧ 0 < n ∧ n ≤ 100000) ∧
    (∃ truth, item.member? "strip_prefix" = some (.bool truth)) ∧
    (∃ number, (item.member? "timeout_ms").getD (.nat 30000) = .number number ∧
      ∃ n : Nat, number.whole? = some (n : Int) ∧ 0 < n) ∧
    ∃ truth, (item.member? "audit_allowed_requests").getD (.bool false) = .bool truth := by
  simp only [Schema.fields_issues, routeConfigShape, List.forall_mem_cons, List.not_mem_nil, false_implies,
    implies_true, and_true, Schema.parse_default, Schema.parse_nullable, Schema.parse_array, Schema.parse_testing,
    Schema.parse_boolean, Schema.parse_number, whole_checks, limit_checks, anyString, notEmpty, decide_eq_true_eq,
    Option.some.injEq]

theorem texts_of_strings {given : List Json} (each : ∀ own ∈ given, ∃ role, own = .string role) :
    ∃ roles : List String, given = roles.map .string := by
  induction given with
  | nil => exact ⟨[], rfl⟩
  | cons item rest ih =>
    obtain ⟨role, rfl⟩ := each item (List.mem_cons_self ..)
    obtain ⟨roles, rfl⟩ := ih fun own inside => each own (List.mem_cons_of_mem _ inside)
    exact ⟨role :: roles, rfl⟩

theorem strings_texts (roles : List String) : (roles.map Json.string).filterMap Json.text? = roles := by
  rw [List.filterMap_map]
  exact List.filterMap_some

theorem parse_anyString (text : String) : parse anyString (some (.string text)) = ([], some (.string text)) := rfl

theorem read_roles (roles : List String) :
    (parse (.nullable (.array anyString)) (some (.array (roles.map .string)))).2 =
    some (.array (roles.map .string)) := by
  rw [Schema.read_nullable (by simp)]
  apply Schema.read_array
  intro own inside
  obtain ⟨role, _, rfl⟩ := List.mem_map.mp inside
  exact parse_anyString role

theorem read_limit (number : Json.Number) :
    (parse (.nullable (.number [intCheck, positiveCheck, maxCheck])) (some (.number number))).2 =
      some (.number number) := rfl

section Read

variable {item made : Json}

theorem scope_read
    (given : item.member? "required_scope" = some .null ∨ ∃ scope, item.member? "required_scope" = some (.string scope))
    (read : made.member? "required_scope" = (parse (.nullable anyString) (item.member? "required_scope")).2) :
    item.member? "required_scope" = some ((RouteConfig.ofJson made).required_scope.elim .null .string) := by
  rcases given with absent | ⟨text, given⟩
  · rw [absent] at read
    simp only [RouteConfig.ofJson, read, absent]
    rfl
  · rw [given, Schema.read_nullable (by simp), parse_anyString] at read
    simp only [RouteConfig.ofJson, read, given]
    rfl

theorem roles_read
    (given : item.member? "allowed_roles" = some .null ∨ ∃ given, item.member? "allowed_roles" = some (.array given) ∧
      ∀ each ∈ given, ∃ role, each = .string role)
    (read : made.member? "allowed_roles" = (parse (.nullable (.array anyString)) (item.member? "allowed_roles")).2) :
    item.member? "allowed_roles" =
      some ((RouteConfig.ofJson made).allowed_roles.elim .null fun roles => .array (roles.map .string)) := by
  rcases given with absent | ⟨given, there, texts⟩
  · rw [absent] at read
    simp only [RouteConfig.ofJson, read, absent]
    rfl
  · obtain ⟨roles, rfl⟩ := texts_of_strings texts
    rw [there, read_roles] at read
    simp only [RouteConfig.ofJson, read, there, Option.bind_some, Json.items?, Option.map_some, strings_texts,
      Option.elim_some]

theorem limit_read
    (given : item.member? "rate_limit_override" = some .null ∨ ∃ number,
      item.member? "rate_limit_override" = some (.number number) ∧
      ∃ n : Nat, number.whole? = some (n : Int) ∧ 0 < n ∧ n ≤ 100000)
    (read : made.member? "rate_limit_override" = (parse (.nullable (.number [intCheck, positiveCheck, maxCheck]))
      (item.member? "rate_limit_override")).2) :
    ((RouteConfig.ofJson made).rate_limit_override = none ∧ item.member? "rate_limit_override" = some .null) ∨
      ∃ limit number, (RouteConfig.ofJson made).rate_limit_override = some limit ∧
        item.member? "rate_limit_override" = some (.number number) ∧
        number.whole? = some (limit : Int) ∧ 0 < limit ∧ limit ≤ 100000 := by
  rcases given with absent | ⟨number, given, n, whole, above, below⟩
  · rw [absent] at read
    refine .inl ⟨?_, absent⟩
    simp only [RouteConfig.ofJson, read]
    rfl
  · rw [given, read_limit] at read
    refine .inr ⟨n, number, ?_, given, whole, above, below⟩
    have shown : (RouteConfig.ofJson made).rate_limit_override =
        ((made.member? "rate_limit_override").bind Json.whole?).map Int.toNat := rfl
    rw [shown, read, Option.bind_some, Json.whole?_number, whole]
    rfl

theorem timeout_read {timeout : Json.Number} {ms : Nat} (whole : timeout.whole? = some (ms : Int))
    (read : made.member? "timeout_ms" = (parse (.number [intCheck, positiveCheck]) (some (.number timeout))).2) :
    (RouteConfig.ofJson made).timeout_ms = ms := by
  have shown : (RouteConfig.ofJson made).timeout_ms = (((made.member? "timeout_ms").bind Json.whole?).getD 0).toNat :=
    rfl
  have plain : made.member? "timeout_ms" = some (.number timeout) := read
  rw [shown, plain, Option.bind_some, Json.whole?_number, whole]
  rfl

theorem specifies_read (object : ∃ members, item = .object members)
    (passed : (fields (routeConfigShape isUrl) item).1 = [])
    (read : ∀ field ∈ routeConfigShape isUrl, made.member? field.1 = (parse field.2 (item.member? field.1)).2) :
    Specifies isUrl item (RouteConfig.ofJson made) := by
  obtain ⟨⟨path, atPath, long⟩, ⟨upstream, atUpstream, url⟩, ⟨auth, atAuth⟩, atScope, atRoles, atLimit,
    ⟨strip, atStrip⟩, ⟨timeout, atTimeout, ms, whole, positive⟩, ⟨audit, atAudit⟩⟩ := entry_passes_iff.mp passed
  simp only [routeConfigShape, List.forall_mem_cons, List.not_mem_nil, false_implies, implies_true, and_true] at read
  obtain ⟨readPath, readUpstream, readAuth, readScope, readRoles, readLimit, readStrip, readTimeout, readAudit⟩ := read
  rw [atPath, Schema.read_testing] at readPath
  rw [atUpstream, Schema.read_testing] at readUpstream
  rw [atAuth] at readAuth
  rw [atStrip] at readStrip
  rw [Schema.parse_default, atTimeout] at readTimeout
  rw [Schema.parse_default, atAudit] at readAudit
  have ms := timeout_read whole readTimeout
  exact
    { object
      path := by simp only [RouteConfig.ofJson, readPath]; exact ⟨atPath, long⟩
      upstream := by simp only [RouteConfig.ofJson, readUpstream]; exact ⟨atUpstream, url⟩
      auth_required := by simp only [RouteConfig.ofJson, readAuth]; exact atAuth
      required_scope := scope_read atScope readScope
      allowed_roles := roles_read atRoles readRoles
      rate_limit_override := limit_read atLimit readLimit
      strip_prefix := by simp only [RouteConfig.ofJson, readStrip]; exact atStrip
      timeout_ms := ⟨timeout, atTimeout, by rw [ms]; exact whole, by rw [ms]; exact positive⟩
      audit_allowed_requests := by simp only [RouteConfig.ofJson, readAudit]; exact atAudit }

end Read

theorem Specifies.passes {item : Json} {route : RouteConfig} (specified : Specifies isUrl item route) :
    (fields (routeConfigShape isUrl) item).1 = [] := by
  rw [entry_passes_iff]
  refine ⟨⟨_, specified.path⟩, ⟨_, specified.upstream⟩, ⟨_, specified.auth_required⟩, ?_, ?_, ?_,
    ⟨_, specified.strip_prefix⟩, ?_, ⟨_, specified.audit_allowed_requests⟩⟩
  · have scope := specified.required_scope
    cases given : route.required_scope <;> rw [given] at scope
    · exact .inl scope
    · exact .inr ⟨_, scope⟩
  · have roles := specified.allowed_roles
    cases given : route.allowed_roles <;> rw [given] at roles
    · exact .inl roles
    · refine .inr ⟨_, roles, fun each inside => ?_⟩
      obtain ⟨role, _, rfl⟩ := List.mem_map.mp inside
      exact ⟨role, rfl⟩
  · rcases specified.rate_limit_override with ⟨_, absent⟩ | ⟨limit, number, _, given, rest⟩
    · exact .inl absent
    · exact .inr ⟨number, given, limit, rest⟩
  · obtain ⟨number, given, rest⟩ := specified.timeout_ms
    exact ⟨number, given, _, rest⟩

theorem elim_string_injective {scope scope' : Option String}
    (same : scope.elim Json.null .string = scope'.elim .null .string) : scope = scope' := by
  cases scope <;> cases scope' <;> simp_all

theorem elim_strings_injective {roles roles' : Option (List String)}
    (same : roles.elim Json.null (fun roles => .array (roles.map .string)) =
      roles'.elim .null fun roles => .array (roles.map .string)) : roles = roles' := by
  have strings : Function.Injective Json.string := fun _ _ equal => by cases equal; rfl
  cases roles <;> cases roles' <;> simp_all [List.map_inj_right]

theorem Specifies.unique {item : Json} {route route' : RouteConfig} (first : Specifies isUrl item route)
    (second : Specifies isUrl item route') : route = route' := by
  have path := first.path.1.symm.trans second.path.1
  have upstream := first.upstream.1.symm.trans second.upstream.1
  have auth := first.auth_required.symm.trans second.auth_required
  have scope := elim_string_injective (Option.some.inj (first.required_scope.symm.trans second.required_scope))
  have roles := elim_strings_injective (Option.some.inj (first.allowed_roles.symm.trans second.allowed_roles))
  have strip := first.strip_prefix.symm.trans second.strip_prefix
  have audit := first.audit_allowed_requests.symm.trans second.audit_allowed_requests
  have timeout : route.timeout_ms = route'.timeout_ms := by
    obtain ⟨number, given, whole, _⟩ := first.timeout_ms
    obtain ⟨number', given', whole', _⟩ := second.timeout_ms
    cases given.symm.trans given'
    exact Int.ofNat.inj (Option.some.inj (whole.symm.trans whole'))
  have limit : route.rate_limit_override = route'.rate_limit_override := by
    rcases first.rate_limit_override with ⟨unset, absent⟩ | ⟨limit, number, set, given, whole, _⟩ <;>
      rcases second.rate_limit_override with ⟨unset', absent'⟩ | ⟨limit', number', set', given', whole', _⟩
    · rw [unset, unset']
    · cases absent.symm.trans given'
    · cases given.symm.trans absent'
    · cases given.symm.trans given'
      rw [set, set', Int.ofNat.inj (Option.some.inj (whole.symm.trans whole'))]
  cases route
  cases route'
  simp_all

theorem entry_specifies {item : Json} {route : RouteConfig} :
    (∃ read, parse (.object (routeConfigShape isUrl)) (some item) = ([], some read) ∧ RouteConfig.ofJson read = route) ↔
      Specifies isUrl item route := by
  constructor
  · rintro ⟨read, accepted, rfl⟩
    obtain ⟨given, members, own, made, each⟩ := Schema.parse_object_member routeConfigShape_distinct accepted
    cases own
    cases made
    have passed : (fields (routeConfigShape isUrl) (.object given)).1 = [] :=
      Schema.fields_issues.mpr fun field inside => congrArg Prod.fst (each field inside)
    exact specifies_read ⟨given, rfl⟩ passed fun field inside => (congrArg Prod.snd (each field inside)).symm
  · intro specified
    obtain ⟨members, rfl⟩ := specified.object
    have passed := specified.passes
    have read : ∀ field ∈ routeConfigShape isUrl,
        (Json.object (fields (routeConfigShape isUrl) (.object members)).2).member? field.1 =
          (parse field.2 ((Json.object members).member? field.1)).2 :=
      fun field inside => Schema.fields_member? routeConfigShape_distinct inside _
    refine ⟨.object (fields (routeConfigShape isUrl) (.object members)).2, ?_, ?_⟩
    · simp only [parse, passed]
    · exact (specifies_read ⟨members, rfl⟩ passed read).unique specified

theorem entries_specify {items : List Json} {index : Nat} {routes : List RouteConfig} :
    (∃ read, Schema.items (fun value => parse (.object (routeConfigShape isUrl)) value) index items = ([], read) ∧
      read.map RouteConfig.ofJson = routes) ↔ List.Forall₂ (Specifies isUrl) items routes := by
  induction items generalizing index routes with
  | nil =>
    constructor
    · rintro ⟨read, accepted, rfl⟩
      cases accepted
      exact .nil
    · intro each
      cases each
      exact ⟨[], rfl, rfl⟩
  | cons item items ih =>
    constructor
    · rintro ⟨read, accepted, rfl⟩
      simp only [Schema.items] at accepted
      generalize first : parse (.object (routeConfigShape isUrl)) (some item) = parsed at accepted
      generalize after : Schema.items (fun value => parse (.object (routeConfigShape isUrl)) value) (index + 1) items =
        others at accepted
      obtain ⟨issues, value⟩ := parsed
      obtain ⟨more, later⟩ := others
      simp only [Prod.mk.injEq, List.append_eq_nil_iff, List.map_eq_nil_iff] at accepted
      obtain ⟨⟨rfl, rfl⟩, rfl⟩ := accepted
      cases value with
      | none => exact absurd first (Schema.parse_some _ item)
      | some made => exact .cons (entry_specifies.mp ⟨made, first, rfl⟩) (ih.mp ⟨later, after, rfl⟩)
    · rintro (_ | ⟨specified, each⟩)
      obtain ⟨made, first, own⟩ := entry_specifies.mpr specified
      obtain ⟨later, after, others⟩ := (@ih (index + 1) _).mpr each
      refine ⟨made :: later, ?_, by rw [List.map_cons, own, others]⟩
      simp only [Schema.items, first, after]
      rfl

theorem parse_items (item : Schema) (given : List Json) : parse (.array item) (some (.array given)) =
    ((Schema.items (fun value => parse item value) 0 given).1,
      some (.array (Schema.items (fun value => parse item value) 0 given).2)) := by
  rw [parse]

theorem file_accepts {parsed : Json} {values : List Json} :
    parse (routeConfigFileSchema isUrl) (some parsed) = ([], some (.array values)) ↔ ∃ items, parsed = .array items ∧
      Schema.items (fun value => parse (.object (routeConfigShape isUrl)) value) 0 items = ([], values) := by
  cases parsed with
  | array items =>
    rw [routeConfigFileSchema, parse_items]
    constructor
    · intro accepted
      injection accepted with passed same
      cases same
      exact ⟨items, rfl, Prod.ext passed rfl⟩
    · rintro ⟨own, same, made⟩
      cases same
      rw [made]
  | _ => simp [routeConfigFileSchema, parse, Schema.mismatch]

theorem file_read {parsed : Json} {data : Option Json}
    (accepted : parse (routeConfigFileSchema isUrl) (some parsed) = ([], data)) :
    ∃ values, data = some (.array values) := by
  cases parsed with
  | array items =>
    rw [routeConfigFileSchema, parse_items] at accepted
    exact ⟨_, (congrArg Prod.snd accepted).symm⟩
  | _ => cases accepted

end Entries

def FileHolds (setup : RouteFileEnv) (raw : Except String (List Char)) (routes : List RouteConfig) : Prop :=
  ∃ text items, raw = .ok text ∧ Json.parse text = some (.array items) ∧
    List.Forall₂ (Specifies setup.isUrl) items routes

section Loading

variable {setup : RouteFileEnv} {raw : Except String (List Char)} {routes : List RouteConfig}

def PairedFile (raw : Except String (List Char)) : Prop := ∀ text, raw = .ok text → Json.paired text = true

theorem loads_iff (paired : PairedFile raw) :
    loadRouteConfig setup raw = .routes routes ↔ FileHolds setup raw routes := by
  constructor
  · intro loaded
    unfold loadRouteConfig at loaded
    split at loaded
    · cases loaded
    · rename_i text
      rw [if_pos (paired text rfl)] at loaded
      split at loaded
      · cases loaded
      · rename_i parsed read
        split at loaded
        · cases loaded
        · rename_i data accepted
          rw [setup.zod.safeParse_eq] at accepted
          obtain ⟨values, rfl⟩ := file_read (Schema.safeParse_ok.mp accepted)
          obtain ⟨items, rfl, made⟩ := file_accepts.mp (Schema.safeParse_ok.mp accepted)
          cases loaded
          exact ⟨text, items, rfl, read, entries_specify.mp ⟨values, made, rfl⟩⟩
  · rintro ⟨text, items, rfl, read, each⟩
    obtain ⟨values, made, rfl⟩ := entries_specify.mpr each
    have accepted := Schema.safeParse_ok.mpr (file_accepts.mpr ⟨items, rfl, made⟩)
    simp only [loadRouteConfig, paired text rfl, if_true, read, setup.zod.safeParse_eq, accepted]
    rfl

theorem load_exits (paired : PairedFile raw) {code : Nat} {printed : String}
    (exited : loadRouteConfig setup raw = .exit code printed) : code = 1 := by
  unfold loadRouteConfig at exited
  split at exited
  · cases exited
    rfl
  · rename_i text
    rw [if_pos (paired text rfl)] at exited
    repeat' split at exited
    all_goals cases exited
    all_goals rfl

end Loading

/-- The process starts with the routes that the file holds, and with no file that holds none. -/
theorem loaded_routes_specified (setup : RouteFileEnv) (raw : Except String (List Char)) (paired : PairedFile raw) :
    (∀ routes, loadRouteConfig setup raw = .routes routes ↔ FileHolds setup raw routes) ∧
    ((∀ routes, ¬ FileHolds setup raw routes) → ∃ printed, loadRouteConfig setup raw = .exit 1 printed) := by
  refine ⟨fun routes => loads_iff paired, fun holds => ?_⟩
  cases loaded : loadRouteConfig setup raw with
  | routes routes => exact absurd ((loads_iff paired).mp loaded) (holds routes)
  | exit code printed =>
    rw [load_exits paired loaded]
    exact ⟨printed, rfl⟩

def sampleRouteFile : RouteFileEnv where
  zod := .interpreter
  configPath := "./upstream-services.json"
  isUrl := fun url => "http://".toList.isPrefixOf url.toList
  syntaxError := fun _ => "Unexpected token"
  unpaired := fun _ => .exit 1 ""

theorem loaded_routes_specified_empty :
    loadRouteConfig sampleRouteFile (.ok ['[', ']']) = .routes [] ∧
    ∃ printed, loadRouteConfig sampleRouteFile (.error "ENOENT: no such file or directory") = .exit 1 printed := by
  constructor
  · have paired : PairedFile (.ok ['[', ']']) := by
      rintro text ⟨⟩
      decide
    refine ((loaded_routes_specified sampleRouteFile _ paired).1 []).mpr ⟨['[', ']'], [], rfl, ?_, .nil⟩
    exact Json.parse_stringify (.array [])
  · have paired : PairedFile (.error "ENOENT: no such file or directory") := by
      rintro text ⟨⟩
    apply (loaded_routes_specified sampleRouteFile _ paired).2
    rintro routes ⟨text, items, same, _⟩
    cases same

/-! What the gateway's own type of entries writes -/

section Typed

variable {isUrl : String → Bool} {input : RouteConfigInput}

def SafeInput (input : RouteConfigInput) : Prop :=
  (∀ limit ∈ input.rate_limit_override, Json.Safe limit) ∧ ∀ ms ∈ input.timeout_ms, Json.Safe ms

def Passes (isUrl : String → Bool) (input : RouteConfigInput) : Prop :=
  1 ≤ utf16Length input.path ∧ isUrl input.upstream = true ∧
    (∀ limit ∈ input.rate_limit_override, 0 < limit ∧ limit ≤ 100000) ∧ ∀ ms ∈ input.timeout_ms, 0 < ms

theorem routeIssues_eq_nil (index : Nat) : routeIssues isUrl index input = [] ↔ Passes isUrl input := by
  have silent : ∀ (passes : Bool) (path : Nat × String) (message : Option String),
      check passes path message = [] ↔ passes = true := by
    intro passes path message
    cases passes <;> simp [check]
  simp only [routeIssues, List.append_eq_nil_iff, silent, decide_eq_true_eq, Option.all_eq_true, Passes, and_assoc]
  constructor
  · rintro ⟨long, url, above, below, positive⟩
    exact ⟨long, url, fun limit given => ⟨above limit given, below limit given⟩, positive⟩
  · rintro ⟨long, url, limits, positive⟩
    exact ⟨long, url, fun limit given => (limits limit given).1, fun limit given => (limits limit given).2, positive⟩

theorem routeConfigListSchema_ok {inputs : List RouteConfigInput} {routes : List RouteConfig} :
    routeConfigListSchema isUrl inputs = .ok routes ↔
      (∀ input ∈ inputs, Passes isUrl input) ∧ inputs.map RouteConfigInput.parsed = routes := by
  unfold routeConfigListSchema
  split
  · rename_i none
    have all : ∀ input ∈ inputs, Passes isUrl input := by
      intro input member
      obtain ⟨place, inside⟩ := List.getElem?_of_mem member
      exact (routeIssues_eq_nil place).mp
        (List.flatMap_eq_nil_iff.mp none (input, place) (List.mem_zipIdx_iff_getElem?.mpr inside))
    constructor
    · intro made
      cases made
      exact ⟨all, rfl⟩
    · rintro ⟨_, rfl⟩
      rfl
  · rename_i some
    constructor
    · intro made
      cases made
    · rintro ⟨all, _⟩
      refine (some ?_).elim
      rw [List.flatMap_eq_nil_iff]
      rintro ⟨input, place⟩ inside
      exact (routeIssues_eq_nil place).mpr (all input (List.mem_of_getElem? (List.mem_zipIdx_iff_getElem?.mp inside)))

theorem toJson_members (input : RouteConfigInput) :
    input.toJson.member? "path" = some (.string input.path) ∧
    input.toJson.member? "upstream" = some (.string input.upstream) ∧
    input.toJson.member? "auth_required" = some (.bool input.auth_required) ∧
    input.toJson.member? "required_scope" = some (input.required_scope.elim .null .string) ∧
    input.toJson.member? "allowed_roles" =
      some (input.allowed_roles.elim .null fun roles => .array (roles.map .string)) ∧
    input.toJson.member? "rate_limit_override" =
      some (input.rate_limit_override.elim .null fun limit => .number (Json.intNumber limit)) ∧
    input.toJson.member? "strip_prefix" = some (.bool input.strip_prefix) ∧
    input.toJson.member? "timeout_ms" = input.timeout_ms.map (fun ms => .number (Json.intNumber ms)) ∧
    input.toJson.member? "audit_allowed_requests" = input.audit_allowed_requests.map .bool := by
  unfold RouteConfigInput.toJson
  cases input.timeout_ms <;> cases input.audit_allowed_requests <;>
    simp [Json.member?]

theorem Passes.specifies (passes : Passes isUrl input) (safe : SafeInput input) :
    Specifies isUrl input.toJson input.parsed := by
  obtain ⟨long, url, limits, positive⟩ := passes
  obtain ⟨path, upstream, auth, scope, roles, limit, strip, timeout, audit⟩ := toJson_members input
  exact
    { object := ⟨_, rfl⟩
      path := ⟨path, long⟩
      upstream := ⟨upstream, url⟩
      auth_required := auth
      required_scope := scope
      allowed_roles := roles
      rate_limit_override := by
        cases given : input.rate_limit_override with
        | none => exact .inl ⟨by rw [RouteConfigInput.parsed, given]; rfl, by rw [limit, given]; rfl⟩
        | some n =>
          obtain ⟨above, below⟩ := limits n given
          have shown : input.parsed.rate_limit_override = some n.toNat := by rw [RouteConfigInput.parsed, given]; rfl
          refine .inr ⟨n.toNat, Json.intNumber n, shown, by rw [limit, given]; rfl, ?_⟩
          rw [Json.whole?_intNumber (safe.1 n given)]
          exact ⟨by congr 1; omega, by omega, by omega⟩
      strip_prefix := strip
      timeout_ms := by
        cases given : input.timeout_ms with
        | none =>
          have shown : input.parsed.timeout_ms = 30000 := by rw [RouteConfigInput.parsed, given]; rfl
          refine ⟨Json.intNumber (30000 : Nat), by rw [timeout, given, ← Json.nat_eq_intNumber]; rfl, ?_⟩
          rw [Json.whole?_intNumber (show Json.Safe (30000 : Nat) by unfold Json.Safe; decide), shown]
          exact ⟨rfl, by decide⟩
        | some ms =>
          have above := positive ms given
          refine ⟨Json.intNumber ms, by rw [timeout, given]; rfl, ?_⟩
          have shown : input.parsed.timeout_ms = ms.toNat := by rw [RouteConfigInput.parsed, given]; rfl
          rw [Json.whole?_intNumber (safe.2 ms given), shown]
          exact ⟨by congr 1; omega, by omega⟩
      audit_allowed_requests := by
        rw [audit, RouteConfigInput.parsed]
        cases input.audit_allowed_requests <;> rfl }

theorem Specifies.typed {route : RouteConfig} (specified : Specifies isUrl input.toJson route)
    (safe : SafeInput input) :
    Passes isUrl input := by
  obtain ⟨path, upstream, auth, scope, roles, limit, strip, timeout, audit⟩ := toJson_members input
  refine ⟨?_, ?_, ?_, ?_⟩
  · obtain ⟨own, long⟩ := specified.path
    have same := path.symm.trans own
    rw [Option.some.injEq, Json.string.injEq] at same
    rw [same]
    exact long
  · obtain ⟨own, url⟩ := specified.upstream
    have same := upstream.symm.trans own
    rw [Option.some.injEq, Json.string.injEq] at same
    rw [same]
    exact url
  · intro n given
    rw [given] at limit
    rcases specified.rate_limit_override with ⟨_, absent⟩ | ⟨count, number, _, own, whole, above, below⟩
    · cases limit.symm.trans absent
    · cases limit.symm.trans own
      cases (Json.whole?_intNumber (safe.1 n given)).symm.trans whole
      omega
  · intro ms given
    rw [given] at timeout
    obtain ⟨number, own, whole, above⟩ := specified.timeout_ms
    rw [timeout] at own
    cases own
    have same := Option.some.inj ((Json.whole?_intNumber (safe.2 ms given)).symm.trans whole)
    omega

theorem typed_specifies (safe : SafeInput input) {route : RouteConfig} :
    Specifies isUrl input.toJson route ↔ Passes isUrl input ∧ input.parsed = route := by
  constructor
  · intro specified
    have passes := specified.typed safe
    exact ⟨passes, (passes.specifies safe).unique specified⟩
  · rintro ⟨passes, rfl⟩
    exact passes.specifies safe

theorem typed_specify {inputs : List RouteConfigInput} (safe : ∀ input ∈ inputs, SafeInput input)
    {routes : List RouteConfig} :
    List.Forall₂ (Specifies isUrl) (inputs.map RouteConfigInput.toJson) routes ↔
      routeConfigListSchema isUrl inputs = .ok routes := by
  rw [routeConfigListSchema_ok]
  induction inputs generalizing routes with
  | nil =>
    constructor
    · intro each
      cases each
      exact ⟨by simp, rfl⟩
    · rintro ⟨_, rfl⟩
      exact .nil
  | cons input inputs ih =>
    have own := safe input (List.mem_cons_self ..)
    have rest := @ih fun other member => safe other (List.mem_cons_of_mem _ member)
    constructor
    · rintro (_ | ⟨specified, each⟩)
      obtain ⟨passes, rfl⟩ := (typed_specifies own).mp specified
      obtain ⟨others, rfl⟩ := rest.mp each
      exact ⟨List.forall_mem_cons.mpr ⟨passes, others⟩, rfl⟩
    · rintro ⟨all, rfl⟩
      obtain ⟨passes, others⟩ := List.forall_mem_cons.mp all
      exact .cons (passes.specifies own) (rest.mpr ⟨others, rfl⟩)

end Typed

/-- Routes that are written to a file are loaded from it exactly when the schema of their types accepts them, and then
    as it returns them. -/
theorem typed_routes_loaded (setup : RouteFileEnv) (inputs : List RouteConfigInput)
    (safe : ∀ input ∈ inputs, SafeInput input) (routes : List RouteConfig) :
    loadRouteConfig setup (.ok (Json.stringify (.array (inputs.map RouteConfigInput.toJson)))) = .routes routes ↔
      routeConfigListSchema setup.isUrl inputs = .ok routes := by
  have paired : PairedFile (.ok (Json.stringify (.array (inputs.map RouteConfigInput.toJson)))) := by
    rintro text ⟨⟩
    exact Json.paired_stringify _
  rw [loads_iff paired, ← typed_specify safe]
  constructor
  · rintro ⟨text, items, same, read, each⟩
    cases same
    rw [Json.parse_stringify] at read
    cases read
    exact each
  · intro each
    exact ⟨_, _, rfl, Json.parse_stringify _, each⟩

def limitedInput : RouteConfigInput where
  path := "/api/users/*rest"
  upstream := "http://users:3000"
  auth_required := true
  required_scope := none
  allowed_roles := some ["admin"]
  rate_limit_override := some 100
  strip_prefix := false
  timeout_ms := none
  audit_allowed_requests := none

theorem typed_routes_loaded_limited :
    loadRouteConfig sampleRouteFile (.ok (Json.stringify (.array ([limitedInput].map RouteConfigInput.toJson)))) =
      .routes [limitedInput.parsed] := by
  have safe : ∀ input ∈ [limitedInput], SafeInput input := by
    intro input member
    rw [List.mem_singleton.mp member]
    refine ⟨?_, ?_⟩
    · rintro limit ⟨⟩
      show Int.natAbs 100 < 2 ^ 53
      decide
    · rintro ms ⟨⟩
  exact (typed_routes_loaded sampleRouteFile [limitedInput] safe [limitedInput.parsed]).mpr rfl

end GatewayProof
