import AppGateway.Codec.Decimal
import AppGateway.Tenants.Ledger

namespace GatewayProof

open Async GatewayModel
open Async.System (Modular advance_cases)

/-! A key of `dekCache` names one tenant and one version. -/

theorem cacheKey_inj {tenantKeyId tenantKeyId' : String} {keyVersion keyVersion' : Nat}
    (same : cacheKey tenantKeyId keyVersion = cacheKey tenantKeyId' keyVersion') :
    tenantKeyId = tenantKeyId' ∧ keyVersion = keyVersion' :=
  Codec.Decimal.numbered_inj same

section Steps

variable {choice : KeyChoice} {before after : KeyState} {effect : KeyEffect} {reply : Except Thrown effect.Reply}

theorem execKey_caches (executed : execKey effect choice before = some (reply, after)) :
    after.caches = before.caches ∨ effect.isLocal = true ∧ respondKey choice before effect = some (reply, after) := by
  have remote : ∀ {reply after}, effect.isLocal ≠ true → respondKey choice before effect = some (reply, after) →
      after.caches = before.caches := by
    intro reply after remote responded
    cases effect with
    | activeVersionGet | activeVersionSet | dekGet | dekSet | randomBytes | dateNow => exact absurd rfl remote
    | selectActive | selectVersion | begin | rollback => cases responded; rfl
    | insertFirst | selectActiveIn | commit =>
      simp only [respondKey] at responded
      split at responded <;> cases responded <;> rfl
    | retireIn =>
      simp only [respondKey] at responded
      split at responded
      · cases responded
        rfl
      · split at responded
        · cases responded
        · split at responded <;> cases responded <;> rfl
    | insertIn =>
      simp only [respondKey] at responded
      split at responded
      · cases responded
        rfl
      · split at responded <;> cases responded <;> rfl
  unfold execKey at executed
  split at executed
  · by_cases here : effect.isLocal = true
    · exact .inr ⟨here, executed⟩
    · exact .inl (remote here executed)
  · split at executed
    · cases executed
    · cases executed
      split <;> exact .inl rfl
  · split at executed
    · cases executed
    · rename_i away
      obtain ⟨⟨reply', after'⟩, responded, same⟩ := Option.map_eq_some_iff.mp executed
      cases same
      exact .inl (remote away responded)

theorem execKey_dekCache (executed : execKey effect choice before = some (reply, after)) {process : Nat}
    {entry : String × Buffer} (member : entry ∈ (after.caches process).dekCache.store) :
    entry ∈ (before.caches process).dekCache.store ∨ ∃ tenantKeyId keyVersion dek,
      effect = .dekSet process tenantKeyId keyVersion dek ∧ entry = (cacheKey tenantKeyId keyVersion, dek) := by
  rcases execKey_caches executed with same | ⟨here, responded⟩
  · rw [same] at member
    exact .inl member
  cases effect with
  | activeVersionGet owner | activeVersionSet owner =>
    cases responded
    by_cases own : process = owner
    · subst own
      simp only [KeyState.setCaches, Function.update_self] at member
      exact .inl member
    · simp only [KeyState.setCaches, Function.update_of_ne own] at member
      exact .inl member
  | dekGet owner tenantKeyId keyVersion =>
    cases responded
    by_cases own : process = owner
    · subst own
      simp only [KeyState.setCaches, Function.update_self] at member
      exact .inl (Store.BoundedLru.mem_get member)
    · simp only [KeyState.setCaches, Function.update_of_ne own] at member
      exact .inl member
  | dekSet owner tenantKeyId keyVersion dek =>
    cases responded
    by_cases own : process = owner
    · subst own
      simp only [KeyState.setCaches, Function.update_self] at member
      rcases Store.BoundedLru.mem_set member with kept | new
      · exact .inl kept
      · exact .inr ⟨tenantKeyId, keyVersion, dek, rfl, new⟩
    · simp only [KeyState.setCaches, Function.update_of_ne own] at member
      exact .inl member
  | randomBytes =>
    simp only [respondKey] at responded
    split at responded <;> cases responded
    exact .inl member
  | dateNow =>
    cases responded
    exact .inl member
  | _ => cases here

theorem execKey_activeVersions (executed : execKey effect choice before = some (reply, after)) {process : Nat}
    {entry : String × Nat} (member : entry ∈ (after.caches process).activeVersionCache.store) :
    entry ∈ (before.caches process).activeVersionCache.store ∨ ∃ tenantKeyId keyVersion,
      effect = .activeVersionSet process tenantKeyId keyVersion ∧ entry = (tenantKeyId, keyVersion) := by
  rcases execKey_caches executed with same | ⟨here, responded⟩
  · rw [same] at member
    exact .inl member
  cases effect with
  | dekGet owner | dekSet owner =>
    cases responded
    by_cases own : process = owner
    · subst own
      simp only [KeyState.setCaches, Function.update_self] at member
      exact .inl member
    · simp only [KeyState.setCaches, Function.update_of_ne own] at member
      exact .inl member
  | activeVersionGet owner tenantKeyId =>
    cases responded
    by_cases own : process = owner
    · subst own
      simp only [KeyState.setCaches, Function.update_self] at member
      exact .inl (Store.BoundedLru.mem_get member)
    · simp only [KeyState.setCaches, Function.update_of_ne own] at member
      exact .inl member
  | activeVersionSet owner tenantKeyId keyVersion =>
    cases responded
    by_cases own : process = owner
    · subst own
      simp only [KeyState.setCaches, Function.update_self] at member
      rcases Store.BoundedLru.mem_set member with kept | new
      · exact .inl kept
      · exact .inr ⟨tenantKeyId, keyVersion, rfl, new⟩
    · simp only [KeyState.setCaches, Function.update_of_ne own] at member
      exact .inl member
  | randomBytes =>
    simp only [respondKey] at responded
    split at responded <;> cases responded
    exact .inl member
  | dateNow =>
    cases responded
    exact .inl member
  | _ => cases here

theorem execKey_activeVersionGet {process keyVersion : Nat} {tenantKeyId : String}
    (executed : execKey (.activeVersionGet process tenantKeyId) choice before = some (.ok (some keyVersion), after)) :
    (tenantKeyId, keyVersion) ∈ (before.caches process).activeVersionCache.store := by
  have found : ((before.caches process).activeVersionCache.get tenantKeyId).1 = some keyVersion := by
    have responded := execKey_ok executed
    simp only [respondKey, Option.some.injEq, Prod.mk.injEq, Except.ok.injEq] at responded
    exact responded.1
  rw [Store.BoundedLru.get_fst] at found
  exact Store.BoundedLru.mem_of_find found

theorem execKey_dekGet {process keyVersion : Nat} {tenantKeyId : String} {dek : Buffer}
    (executed : execKey (.dekGet process tenantKeyId keyVersion) choice before = some (.ok (some dek), after)) :
    (cacheKey tenantKeyId keyVersion, dek) ∈ (before.caches process).dekCache.store := by
  have found : ((before.caches process).dekCache.get (cacheKey tenantKeyId keyVersion)).1 = some dek := by
    have responded := execKey_ok executed
    simp only [respondKey, Option.some.injEq, Prod.mk.injEq, Except.ok.injEq] at responded
    exact responded.1
  rw [Store.BoundedLru.get_fst] at found
  exact Store.BoundedLru.mem_of_find found

end Steps

section Contents

variable {env : CryptoEnv} {right : List TenantKeyRow → String → Nat → Buffer → Prop}
  {guards : KeyState → KeyThread → Prop}

def CachesHold (right : List TenantKeyRow → String → Nat → Buffer → Prop) (state : KeyState) : Prop :=
  ∀ process, ∀ entry ∈ (state.caches process).dekCache.store, ∃ tenantKeyId keyVersion,
    entry.1 = cacheKey tenantKeyId keyVersion ∧ right state.rows tenantKeyId keyVersion entry.2

def HitsHold (right : List TenantKeyRow → String → Nat → Buffer → Prop) (state : KeyState)
    (thread : KeyThread) : Prop :=
  ∀ process tenantKeyId keyVersion dek, ⟨.dekGet process tenantKeyId keyVersion, .ok (some dek)⟩ ∈ thread.past →
    right state.rows tenantKeyId keyVersion dek

theorem CachesHold.hit {state : KeyState} (cached : CachesHold right state) {process keyVersion : Nat}
    {tenantKeyId : String} {dek : Buffer}
    (member : (cacheKey tenantKeyId keyVersion, dek) ∈ (state.caches process).dekCache.store) :
    right state.rows tenantKeyId keyVersion dek := by
  obtain ⟨tenantKeyId', keyVersion', same, good⟩ := cached process _ member
  obtain ⟨rfl, rfl⟩ := cacheKey_inj same
  exact good

theorem caches_modular
    (grow : ∀ {before after}, KeysGrow before after → ∀ {tenantKeyId keyVersion dek},
      right before.rows tenantKeyId keyVersion dek → right after.rows tenantKeyId keyVersion dek)
    (lawful : ∀ state thread, guards state thread → System.Disciplined (KeyPermits env) (KeyEnds env) thread)
    (sound : ∀ state thread tenantKeyId keyVersion dek, guards state thread →
      Holds env thread.past tenantKeyId keyVersion dek → tenantKeyId = thread.call.tenantKeyId →
      right state.rows tenantKeyId keyVersion dek) :
    Modular (gateways env) guards (CachesHold right) KeysGrow (HitsHold right) where
  call := fun _ _ _ => by simp [HitsHold, Thread.start]
  step := by
    intro choice state thread moved later guard cached hits advanced
    obtain ⟨effect, resume, reply, _, program, executed, rfl⟩ := advance_cases advanced
    have growth : KeysGrow state later := (execKey_step executed).grow
    refine ⟨fun process entry member => ?_, growth, fun process tenantKeyId keyVersion dek hit => ?_⟩
    · rcases execKey_dekCache executed member with kept | ⟨tenantKeyId, keyVersion, dek, rfl, rfl⟩
      · obtain ⟨tenantKeyId, keyVersion, named, good⟩ := cached process entry kept
        exact ⟨tenantKeyId, keyVersion, named, grow growth good⟩
      · obtain ⟨_, own, holds⟩ := (lawful state thread guard).permitted program
        exact ⟨tenantKeyId, keyVersion, rfl, grow growth (sound state thread _ _ _ guard holds own)⟩
    · rcases List.mem_append.mp hit with earlier | last
      · exact grow growth (hits process tenantKeyId keyVersion dek earlier)
      · cases List.mem_singleton.mp last
        exact grow growth (cached.hit (execKey_dekGet executed))
  external := by
    intro event state cached
    have growth : KeysGrow state (externalKey event state) := (externalKey_step event state .dateNow).grow
    refine ⟨fun process entry member => ?_, growth⟩
    have same : ((gateways env).external event state).caches = state.caches := by cases event <;> rfl
    rw [same] at member
    obtain ⟨tenantKeyId, keyVersion, named, good⟩ := cached process entry member
    exact ⟨tenantKeyId, keyVersion, named, grow growth good⟩
  stable := fun _ _ _ growth hits process tenantKeyId keyVersion dek hit =>
    grow growth (hits process tenantKeyId keyVersion dek hit)
  crash := fun _ _ hits => hits

end Contents

end GatewayProof
