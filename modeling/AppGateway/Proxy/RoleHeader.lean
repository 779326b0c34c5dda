import AppGateway.Proxy.IdentityHeaders

namespace GatewayProof

open GatewayModel

def rolesSeen (claims : JwtAccessTokenClaims) (requestId : String) : Option (List String) :=
  ((buildIdentityHeaders claims requestId).get "x-user-roles").map (split ',')

def Separable (roles : List String) : Prop := roles ≠ [] ∧ ∀ role ∈ roles, ',' ∉ role.toList

/-- The roles once each is cut at its commas; no roles are sent as one empty role. -/
def separated : List String → List String
  | [] => [""]
  | roles => roles.flatMap (split ',')

/-- The same caller, as far as the headers tell. -/
structure SameCaller (claims claims' : JwtAccessTokenClaims) : Prop where
  sub : claims.sub = claims'.sub
  email : claims.email = claims'.email
  roles : separated claims.roles = separated claims'.roles
  auth_method : claims.auth_method = claims'.auth_method
  tenant_id : claims.tenant_id.getD "" = claims'.tenant_id.getD ""

section Split

variable {roles : List String}

theorem intercalate_split (text : String) : ",".intercalate (split ',' text) = text := by
  apply String.toList_injective
  have characters : ((text.toList.splitOn ',').map String.ofList).map String.toList = text.toList.splitOn ',' := by
    simp [List.map_map, Function.comp_def]
  rw [split, String.toList_intercalate, characters]
  exact List.intercalate_splitOn ','

theorem split_append (first rest : String) : split ',' (first ++ "," ++ rest) = split ',' first ++ split ',' rest := by
  have characters : (first ++ "," ++ rest).toList = first.toList ++ ',' :: rest.toList := by
    simp [String.toList_append]
  rw [split, characters, List.splitOn_append_cons_self, List.map_append]
  rfl

theorem split_intercalate : ∀ roles, split ',' (",".intercalate roles) = separated roles
  | [] => rfl
  | [role] => by simp [separated]
  | role :: second :: roles => by
    have ih := split_intercalate (second :: roles)
    rw [String.intercalate_cons_cons, split_append, ih]
    rfl

theorem split_ne_nil (text : String) : split ',' text ≠ [] := by
  simp [split, List.splitOn_ne_nil]

theorem split_eq_singleton_iff {text : String} : split ',' text = [text] ↔ ',' ∉ text.toList := by
  constructor
  · intro whole member
    obtain ⟨before, after, cut⟩ := List.append_of_mem member
    rw [split, cut, List.splitOn_append_cons_self, List.map_append] at whole
    have pieces := congrArg List.length whole
    have first := List.length_pos_iff.mpr (List.splitOn_ne_nil ',' before)
    have last := List.length_pos_iff.mpr (List.splitOn_ne_nil ',' after)
    simp only [List.length_append, List.length_map, List.length_singleton] at pieces
    omega
  · intro free
    rw [split, List.splitOn_eq_singleton free]
    simp

theorem length_le_flatMap_split (roles : List String) : roles.length ≤ (roles.flatMap (split ',')).length := by
  induction roles with
  | nil => exact Nat.le_refl 0
  | cons role roles ih =>
    have piece := List.length_pos_iff.mpr (split_ne_nil role)
    simp only [List.flatMap_cons, List.length_append, List.length_cons]
    omega

theorem flatMap_split_eq_iff : ∀ roles : List String, roles.flatMap (split ',') = roles ↔
    ∀ role ∈ roles, ',' ∉ role.toList
  | [] => by simp
  | role :: roles => by
    have ih := flatMap_split_eq_iff roles
    rw [List.flatMap_cons, List.forall_mem_cons, ← ih, ← split_eq_singleton_iff]
    constructor
    · intro same
      have lengths := congrArg List.length same
      have others := length_le_flatMap_split roles
      have piece := List.length_pos_iff.mpr (split_ne_nil role)
      simp only [List.length_append, List.length_cons] at lengths
      have cut : split ',' role ++ roles.flatMap (split ',') = [role] ++ roles := same
      refine List.append_inj cut ?_
      rw [List.length_singleton]
      omega
    · rintro ⟨single, others⟩
      rw [single, others]
      rfl

theorem separated_eq_iff : separated roles = roles ↔ Separable roles := by
  cases roles with
  | nil => simp [separated, Separable]
  | cons role roles =>
    rw [separated, flatMap_split_eq_iff, Separable]
    · simp
    · simp

end Split

section Headers

variable {claims claims' : JwtAccessTokenClaims} {requestId : String}

theorem rolesSeen_eq : rolesSeen claims requestId = some (separated claims.roles) := by
  rw [← split_intercalate]
  rfl

theorem intercalate_inj_iff {roles roles' : List String} :
    ",".intercalate roles = ",".intercalate roles' ↔ separated roles = separated roles' := by
  rw [← split_intercalate, ← split_intercalate]
  constructor
  · exact congrArg (split ',')
  · intro same
    have joined := congrArg (String.intercalate ",") same
    rwa [intercalate_split, intercalate_split] at joined

theorem authMethod_text_inj {method method' : AuthMethod} (same : method.text = method'.text) : method = method' := by
  cases method <;> cases method' <;> first | rfl | simp [AuthMethod.text] at same

theorem tenant_header_iff {tenant tenant' : Option String} :
    tenant.filter (· ≠ "") = tenant'.filter (· ≠ "") ↔ tenant.getD "" = tenant'.getD "" := by
  have present : ∀ tenant : Option String, (tenant.filter (· ≠ "")).getD "" = tenant.getD "" := by
    intro tenant
    cases tenant with
    | none => rfl
    | some text =>
      by_cases empty : text = ""
      · simp [Option.filter_some, empty]
      · simp [Option.filter_some, empty]
  have canonical : ∀ tenant : Option String, tenant.filter (· ≠ "") = (some (tenant.getD "")).filter (· ≠ "") := by
    intro tenant
    cases tenant <;> rfl
  constructor
  · intro same
    rw [← present tenant, same, present]
  · intro same
    rw [canonical tenant, same, ← canonical]

theorem buildIdentityHeaders_eq_iff :
    buildIdentityHeaders claims requestId = buildIdentityHeaders claims' requestId ↔ SameCaller claims claims' := by
  have fields : buildIdentityHeaders claims requestId = buildIdentityHeaders claims' requestId ↔
      claims.sub = claims'.sub ∧ claims.email = claims'.email ∧
      ",".intercalate claims.roles = ",".intercalate claims'.roles ∧
      claims.auth_method.text = claims'.auth_method.text ∧
      claims.tenant_id.filter (· ≠ "") = claims'.tenant_id.filter (· ≠ "") := by
    unfold buildIdentityHeaders
    cases claims.tenant_id.filter (· ≠ "") <;> cases claims'.tenant_id.filter (· ≠ "") <;> simp
  rw [fields, intercalate_inj_iff, tenant_header_iff]
  constructor
  · rintro ⟨sub, email, roles, method, tenant⟩
    exact ⟨sub, email, roles, authMethod_text_inj method, tenant⟩
  · intro same
    exact ⟨same.sub, same.email, same.roles, congrArg AuthMethod.text same.auth_method, same.tenant_id⟩

/-- Equal headers are for the same caller up to the cuts at commas, so for the same list of roles where no role is cut;
    and the upstream reads the list the gateway has checked exactly when no role is cut. -/
theorem identity_headers_determine (claims claims' : JwtAccessTokenClaims) (requestId : String) :
    (buildIdentityHeaders claims requestId = buildIdentityHeaders claims' requestId ↔ SameCaller claims claims') ∧
    (Separable claims.roles → Separable claims'.roles →
      buildIdentityHeaders claims requestId = buildIdentityHeaders claims' requestId → claims.roles = claims'.roles) ∧
    (rolesSeen claims requestId = some claims.roles ↔ Separable claims.roles) := by
  refine ⟨buildIdentityHeaders_eq_iff, fun whole whole' same => ?_, ?_⟩
  · have roles := (buildIdentityHeaders_eq_iff.mp same).roles
    rwa [separated_eq_iff.mpr whole, separated_eq_iff.mpr whole'] at roles
  · rw [rolesSeen_eq, Option.some.injEq]
    exact separated_eq_iff

theorem separable_roles_recovered : rolesSeen callerClaims "req" = some callerClaims.roles ∧
    (∀ requestId, buildIdentityHeaders callerClaims requestId = buildIdentityHeaders callerClaims requestId →
      callerClaims.roles = callerClaims.roles) := by
  have separable : Separable callerClaims.roles := ⟨by decide, by decide⟩
  exact ⟨(identity_headers_determine callerClaims callerClaims "req").2.2.mpr separable,
    fun requestId => (identity_headers_determine callerClaims callerClaims requestId).2.1 separable separable⟩

/-- A user with the role `a,b` and one with the roles `a` and `b` look alike. -/
theorem comma_roles_collide : ∃ claims claims' requestId,
    buildIdentityHeaders claims requestId = buildIdentityHeaders claims' requestId ∧ claims.roles ≠ claims'.roles ∧
      rolesSeen claims requestId ≠ some claims.roles :=
  ⟨{ callerClaims with roles := ["a,b"] }, { callerClaims with roles := ["a", "b"] }, "req",
    by decide +kernel, by decide, by decide +kernel⟩

end Headers
end GatewayProof
