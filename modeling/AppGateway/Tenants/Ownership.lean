import AppGateway.Tenants.Caches
import AppGateway.Tenants.Cipher

namespace GatewayProof

open Async GatewayModel
open Async.System (Separated Reaches advance_cases)

/-! Whose bytes are whose -/

def Draws (thread : KeyThread) (bytes : Buffer) : Prop := ∃ size, ⟨.randomBytes size, .ok bytes⟩ ∈ thread.past

theorem respondKey_drawn {choice : KeyChoice} {before after : KeyState} {effect : KeyEffect}
    {reply : Except Thrown effect.Reply} (remote : ∀ size, effect ≠ .randomBytes size)
    (responded : respondKey choice before effect = some (reply, after)) : after.drawn = before.drawn := by
  cases effect with
  | randomBytes size => exact absurd rfl (remote size)
  | activeVersionGet | activeVersionSet | dekGet | dekSet | dateNow | selectActive | selectVersion | begin |
    rollback => cases responded; rfl
  | insertFirst | selectActiveIn | commit =>
    simp only [respondKey] at responded
    split at responded <;> cases responded <;> rfl
  | retireIn =>
    simp only [respondKey] at responded
    split at responded
    · cases responded
      rfl
    · split at responded
      · cases responded
      · split at responded <;> cases responded <;> rfl
  | insertIn =>
    simp only [respondKey] at responded
    split at responded
    · cases responded
      rfl
    · split at responded <;> cases responded <;> rfl

theorem execKey_randomBytes {choice : KeyChoice} {before after : KeyState} {size : Nat}
    {reply : Except Thrown Buffer} (executed : execKey (.randomBytes size) choice before = some (reply, after)) :
    ∃ bytes, reply = .ok bytes ∧ bytes ∉ before.drawn ∧ after.drawn = bytes :: before.drawn := by
  unfold execKey at executed
  split at executed
  · simp only [respondKey] at executed
    split at executed
    · rename_i fresh
      cases executed
      exact ⟨_, rfl, fresh.2, rfl⟩
    · cases executed
  · cases executed
  · cases executed

theorem execKey_drawn {choice : KeyChoice} {before after : KeyState} {effect : KeyEffect}
    {reply : Except Thrown effect.Reply} (executed : execKey effect choice before = some (reply, after)) :
    before.drawn ⊆ after.drawn ∧ ∀ size bytes, (⟨effect, reply⟩ : KeyEvent) = ⟨.randomBytes size, .ok bytes⟩ →
      bytes ∉ before.drawn ∧ bytes ∈ after.drawn := by
  by_cases draws : ∃ size, effect = .randomBytes size
  · obtain ⟨size, rfl⟩ := draws
    obtain ⟨bytes, rfl, fresh, later⟩ := execKey_randomBytes executed
    rw [later]
    refine ⟨List.subset_cons_self .., fun size' bytes' same => ?_⟩
    cases same
    exact ⟨fresh, List.mem_cons_self ..⟩
  · have other : ∀ size, effect ≠ .randomBytes size := fun size same => draws ⟨size, same⟩
    have same : after.drawn = before.drawn := by
      unfold execKey at executed
      split at executed
      · exact respondKey_drawn other executed
      · split at executed
        · cases executed
        · cases executed
          split <;> rfl
      · split at executed
        · cases executed
        · obtain ⟨⟨_, _⟩, responded, same⟩ := Option.map_eq_some_iff.mp executed
          cases same
          exact respondKey_drawn other responded
    rw [same]
    refine ⟨List.Subset.refl _, fun size bytes drawn => ?_⟩
    cases drawn
    exact absurd rfl (other size)

theorem draws_snoc {thread : KeyThread} {effect : KeyEffect} {reply : Except Thrown effect.Reply}
    {resume : Keys KeyAnswer} {bytes : Buffer}
    (draws : Draws { thread with past := thread.past ++ [⟨effect, reply⟩], program := resume } bytes) :
    Draws thread bytes ∨ ∃ size, (⟨effect, reply⟩ : KeyEvent) = ⟨.randomBytes size, .ok bytes⟩ := by
  obtain ⟨size, member⟩ := draws
  rcases List.mem_append.mp member with earlier | last
  · exact .inl ⟨size, earlier⟩
  · exact .inr ⟨size, (List.mem_singleton.mp last).symm⟩

theorem draws_separated (env : CryptoEnv) : Separated (gateways env) (fun _ _ => True) (fun _ => True)
    (fun state thread => ∀ bytes, Draws thread bytes → bytes ∈ state.drawn)
    (fun first second => ∀ bytes, Draws first bytes → ¬ Draws second bytes) where
  symm := fun _ _ apart bytes draws draws' => apart bytes draws' draws
  call := by
    intro state call _
    refine ⟨fun bytes draws => ?_, fun _ _ bytes draws => ?_⟩ <;> obtain ⟨_, member⟩ := draws <;> cases member
  step := by
    intro choice state thread moved later _ _ known advanced
    obtain ⟨effect, resume, reply, _, _, executed, rfl⟩ := advance_cases advanced
    obtain ⟨kept, fresh⟩ := execKey_drawn executed
    refine ⟨trivial, fun bytes draws => ?_, fun other known' apart =>
      ⟨fun bytes draws => kept (known' bytes draws), ?_⟩⟩
    · rcases draws_snoc draws with earlier | ⟨size, now⟩
      · exact kept (known bytes earlier)
      · exact (fresh size bytes now).2
    · intro bytes draws draws'
      rcases draws_snoc draws with earlier | ⟨size, now⟩
      · exact apart bytes earlier draws'
      · exact (fresh size bytes now).1 (known' bytes draws')
  external := fun event _ _ => ⟨trivial, fun _ known bytes draws => by cases event <;> exact known bytes draws⟩
  crash := fun _ _ known => ⟨known, fun _ apart => apart⟩

theorem draws_run {env : CryptoEnv} {allowed : KeyConfig → KeyLabel → Prop} {clock : Nat} {config : KeyConfig}
    (reached : Reaches (gateways env) allowed (freshGateways clock) config) :
    Separated.Holds (fun _ => True) (fun state thread => ∀ bytes, Draws thread bytes → bytes ∈ state.drawn)
      (fun first second => ∀ bytes, Draws first bytes → ¬ Draws second bytes) config :=
  (draws_separated env).run (fun _ _ _ _ _ _ _ _ => trivial) reached (.initial trivial rfl)

theorem draws_known {env : CryptoEnv} {allowed : KeyConfig → KeyLabel → Prop} {clock : Nat} {config : KeyConfig}
    (reached : Reaches (gateways env) allowed (freshGateways clock) config) {thread : KeyThread}
    (member : thread ∈ config.threads) {bytes : Buffer} (draws : Draws thread bytes) : bytes ∈ config.state.drawn := by
  obtain ⟨index, found⟩ := List.getElem?_of_mem member
  exact (draws_run reached).each index thread found bytes draws

theorem draws_unique {env : CryptoEnv} {allowed : KeyConfig → KeyLabel → Prop} {clock : Nat} {config : KeyConfig}
    (reached : Reaches (gateways env) allowed (freshGateways clock) config) {index other : Nat}
    {first second : KeyThread} (here : config.threads[index]? = some first)
    (there : config.threads[other]? = some second) {bytes : Buffer} (draws : Draws first bytes)
    (draws' : Draws second bytes) : index = other := by
  by_contra differs
  exact (draws_run reached).apart index other first second differs here there bytes draws draws'

inductive Obtains (env : CryptoEnv) (thread : KeyThread) (dek : Buffer) : Prop where
  | resolved (keyVersion : Nat) (answered : thread.answered (.ok (.resolved { dek, keyVersion })))
  | dek (answered : thread.answered (.ok (.dek dek)))
  | fetched (keyVersion : Nat)
      (fetched : Fetched env thread.call.process thread.past thread.call.tenantKeyId keyVersion dek)

theorem Resolves.fetched {env : CryptoEnv} {process : Nat} {past : List KeyEvent} {tenantKeyId : String}
    {resolved : ResolvedDek} (resolves : Resolves env process past tenantKeyId resolved) :
    Fetched env process past tenantKeyId resolved.keyVersion resolved.dek := by
  cases resolves with
  | warm began => exact .cached (began.subset (by simp))
  | cold _ fetched => exact fetched

theorem Obtains.cases {env : CryptoEnv} {state : KeyState} {thread : KeyThread} {dek : Buffer}
    (obtains : Obtains env thread dek) (ledger : Ledger env state thread) :
    (∃ keyVersion, Fetched env thread.call.process thread.past thread.call.tenantKeyId keyVersion dek) ∨
      RotatesKey thread.call ∧ Draws thread dek := by
  cases obtains with
  | fetched keyVersion fetched => exact .inl ⟨keyVersion, fetched⟩
  | resolved keyVersion answered =>
    have ended := ledger.disciplined.ended answered
    cases call : thread.call with
    | getActiveDek process tenantId =>
      rw [call] at ended
      exact .inl ⟨keyVersion, Resolves.fetched ended⟩
    | rotateTenantKey process tenantId =>
      rw [call] at ended
      obtain ⟨before, _, _, candidate, _, whole⟩ := ended
      exact .inr ⟨⟨process, tenantId, rfl⟩, _, by rw [whole]; exact List.mem_append_left _ candidate.1⟩
    | encryptEmail | decryptEmail | getDekForVersion =>
      rw [call] at ended
      exact ended.elim
  | dek answered =>
    have ended := ledger.disciplined.ended answered
    cases call : thread.call with
    | getDekForVersion process tenantId keyVersion =>
      rw [call] at ended
      exact .inl ⟨keyVersion, ended⟩
    | encryptEmail | decryptEmail | getActiveDek | rotateTenantKey =>
      rw [call] at ended
      exact ended.elim

end GatewayProof
