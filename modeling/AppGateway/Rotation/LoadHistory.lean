import AppGateway.Model.KeyLoading
import AppGateway.Refinement.Simulation

namespace GatewayProof

open GatewayModel GatewayModel.KeyMemory

/-- No call fails that was made when loading would have succeeded, or after a load had succeeded. -/
def NeverSpoiled (memory : KeyMemory) : Prop :=
  ∀ user ∈ memory.users, user.entitled = true → ∀ thrown, memory.outcome user.promise ≠ some (.error thrown)

/-- The call that fills the promise of the JWKS document is made when loading would succeed, or after a load has
    succeeded. -/
def FillsLoadable (memory : KeyMemory) : KeyMemory.Label → Prop
  | .call use now =>
    use ≠ .signAccessToken → memory.cachedJwksDocument = none → now.isOk = true ∨ memory.succeeded = true
  | .settle _ => True

def keyMemories (allowed : KeyMemory → KeyMemory.Label → Prop) : Refinement.Machine KeyMemory KeyMemory.Label where
  start memory := memory = KeyMemory.initial
  step before label after := allowed before label ∧ before.next label = some after

def Sound (memory : KeyMemory) : KeyPromise → Prop
  | .resolved _ => True
  | .load index => ∃ load, memory.loads[index]? = some load ∧ load.outcome.isOk = true

structure Coherent (memory : KeyMemory) : Prop where
  keys : memory.cachedKeys.isSome = memory.succeeded
  verify : memory.cachedVerifyKeySet.isSome = true → memory.cachedJwksDocument.isSome = true

/-- No cached promise, and none of a call that may count on the keys, can fail. -/
structure Unspoiled (memory : KeyMemory) : Prop where
  jwks : ∀ promise, memory.cachedJwksDocument = some promise → Sound memory promise
  verify : ∀ promise, memory.cachedVerifyKeySet = some promise → Sound memory promise
  users : ∀ user ∈ memory.users, user.entitled = true → Sound memory user.promise

structure Asks (now : Except Thrown SigningKeys) (memory asked : KeyMemory) : Prop where
  users : asked.users = memory.users
  keys : asked.cachedKeys = memory.cachedKeys
  loads : asked.loads = memory.loads ∨ asked.loads = memory.loads ++ [{ outcome := now, settled := false }]

section Steps

variable {memory asked after : KeyMemory} {now : Except Thrown SigningKeys} {promise : KeyPromise} {use : KeyUse}

theorem loadSigningKeys_asks : Asks now memory (loadSigningKeys now memory).2 := by
  unfold loadSigningKeys
  cases cached : memory.cachedKeys with
  | some keys => exact ⟨rfl, rfl, .inl rfl⟩
  | none => exact ⟨rfl, cached.symm ▸ rfl, .inr rfl⟩

theorem getJwksDocument_asks : Asks now memory (getJwksDocument now memory).2 := by
  unfold getJwksDocument
  cases memory.cachedJwksDocument with
  | some promise => exact ⟨rfl, rfl, .inl rfl⟩
  | none =>
    have asks : Asks now memory (loadSigningKeys now memory).2 := loadSigningKeys_asks
    exact ⟨asks.users, asks.keys, asks.loads⟩

theorem ask_asks : Asks now memory (ask use now memory).2 := by
  cases use with
  | signAccessToken => exact loadSigningKeys_asks
  | getJwks => exact getJwksDocument_asks
  | verifyAccessToken =>
    show Asks now memory (getVerifyKeySet now memory).2
    unfold getVerifyKeySet
    cases memory.cachedVerifyKeySet with
    | some promise => exact ⟨rfl, rfl, .inl rfl⟩
    | none =>
      have asks : Asks now memory (getJwksDocument now memory).2 := getJwksDocument_asks
      exact ⟨asks.users, asks.keys, asks.loads⟩

theorem Asks.sound (asks : Asks now memory asked) (sound : Sound memory promise) : Sound asked promise := by
  cases promise with
  | resolved keys => trivial
  | load index =>
    obtain ⟨load, found, ended⟩ := sound
    rcases asks.loads with same | begun
    · exact ⟨load, by rw [same, found], ended⟩
    · have inside := (List.getElem?_eq_some_iff.mp found).1
      exact ⟨load, by rw [begun, List.getElem?_append_left inside, found], ended⟩

theorem Asks.succeeded (asks : Asks now memory asked) : asked.succeeded = memory.succeeded := by
  unfold KeyMemory.succeeded
  rcases asks.loads with same | begun
  · rw [same]
  · simp [begun]

theorem loadSigningKeys_sound (loadable : now.isOk = true ∨ memory.cachedKeys.isSome = true) :
    Sound (loadSigningKeys now memory).2 (loadSigningKeys now memory).1 := by
  unfold loadSigningKeys
  cases keys : memory.cachedKeys with
  | some found => trivial
  | none =>
    rcases loadable with ok | cached
    · exact ⟨{ outcome := now, settled := false }, List.getElem?_concat_length, ok⟩
    · rw [keys] at cached
      cases cached

theorem getJwksDocument_sound (coherent : Coherent memory) (unspoiled : Unspoiled memory)
    (loadable : memory.cachedJwksDocument = none → now.isOk = true ∨ memory.succeeded = true) :
    Sound (getJwksDocument now memory).2 (getJwksDocument now memory).1 ∧
      (getJwksDocument now memory).2.cachedJwksDocument = some (getJwksDocument now memory).1 ∧
      (getJwksDocument now memory).2.cachedVerifyKeySet = memory.cachedVerifyKeySet := by
  unfold getJwksDocument
  cases document : memory.cachedJwksDocument with
  | some promise => exact ⟨unspoiled.jwks promise document, document, rfl⟩
  | none =>
    have ready := loadable document
    rw [← coherent.keys] at ready
    refine ⟨loadSigningKeys_sound ready, rfl, ?_⟩
    show (loadSigningKeys now memory).2.cachedVerifyKeySet = memory.cachedVerifyKeySet
    unfold loadSigningKeys
    cases memory.cachedKeys <;> rfl

theorem loadSigningKeys_cached : (loadSigningKeys now memory).2.cachedJwksDocument = memory.cachedJwksDocument ∧
    (loadSigningKeys now memory).2.cachedVerifyKeySet = memory.cachedVerifyKeySet := by
  unfold loadSigningKeys
  cases memory.cachedKeys <;> exact ⟨rfl, rfl⟩

theorem ask_caches (coherent : Coherent memory) (unspoiled : Unspoiled memory)
    (loadable : use ≠ .signAccessToken → memory.cachedJwksDocument = none → now.isOk = true ∨ memory.succeeded = true) :
    (∀ promise, (ask use now memory).2.cachedJwksDocument = some promise → Sound (ask use now memory).2 promise) ∧
    (∀ promise, (ask use now memory).2.cachedVerifyKeySet = some promise → Sound (ask use now memory).2 promise) := by
  have asks : Asks now memory (ask use now memory).2 := ask_asks
  cases use with
  | signAccessToken =>
    obtain ⟨jwks, verify⟩ := @loadSigningKeys_cached memory now
    refine ⟨fun promise cached => asks.sound (unspoiled.jwks promise ?_),
      fun promise cached => asks.sound (unspoiled.verify promise ?_)⟩
    · exact jwks.symm.trans cached
    · exact verify.symm.trans cached
  | getJwks =>
    obtain ⟨sound, jwks, verify⟩ := getJwksDocument_sound coherent unspoiled (loadable nofun)
    refine ⟨fun promise cached => ?_, fun promise cached => asks.sound (unspoiled.verify promise ?_)⟩
    · obtain rfl := Option.some.inj (jwks.symm.trans cached)
      exact sound
    · exact verify.symm.trans cached
  | verifyAccessToken =>
    obtain ⟨sound, jwks, _⟩ := getJwksDocument_sound coherent unspoiled (loadable nofun)
    simp only [ask, getVerifyKeySet] at asks ⊢
    cases keySet : memory.cachedVerifyKeySet with
    | some promise =>
      exact ⟨unspoiled.jwks, fun other cached => unspoiled.verify other cached⟩
    | none =>
      refine ⟨fun promise cached => ?_, fun promise cached => ?_⟩
      · obtain rfl := Option.some.inj (jwks.symm.trans cached)
        exact sound
      · obtain rfl := Option.some.inj cached
        exact sound

theorem ask_sound (coherent : Coherent memory) (unspoiled : Unspoiled memory)
    (entitled : now.isOk = true ∨ memory.succeeded = true) :
    Sound (ask use now memory).2 (ask use now memory).1 := by
  obtain ⟨sound, _, _⟩ := getJwksDocument_sound coherent unspoiled fun _ => entitled
  cases use with
  | signAccessToken =>
    rw [← coherent.keys] at entitled
    exact loadSigningKeys_sound entitled
  | getJwks => exact sound
  | verifyAccessToken =>
    simp only [ask, getVerifyKeySet]
    cases keySet : memory.cachedVerifyKeySet with
    | some promise => exact unspoiled.verify promise keySet
    | none => exact sound

theorem ask_verify_cached (coherent : Coherent memory)
    (cached : (ask use now memory).2.cachedVerifyKeySet.isSome = true) :
    (ask use now memory).2.cachedJwksDocument.isSome = true := by
  obtain ⟨jwks, verify⟩ := @loadSigningKeys_cached memory now
  have filled : (getJwksDocument now memory).2.cachedJwksDocument.isSome = true := by
    unfold getJwksDocument
    cases document : memory.cachedJwksDocument with
    | some promise => exact Option.isSome_iff_exists.mpr ⟨promise, document⟩
    | none => rfl
  cases use with
  | signAccessToken =>
    simp only [ask, jwks, verify] at cached ⊢
    exact coherent.verify cached
  | getJwks => exact filled
  | verifyAccessToken =>
    simp only [ask, getVerifyKeySet] at cached ⊢
    cases keySet : memory.cachedVerifyKeySet with
    | some promise => exact coherent.verify (by rw [keySet]; rfl)
    | none => exact filled

/-! One step -/

theorem succeeded_iff : memory.succeeded = true ↔
    ∃ (index : Nat) (load : KeyLoad), memory.loads[index]? = some load ∧ load.settled = true ∧
    load.outcome.isOk = true := by
  unfold KeyMemory.succeeded
  rw [List.any_eq_true]
  constructor
  · rintro ⟨load, member, ended⟩
    obtain ⟨index, found⟩ := List.getElem?_of_mem member
    exact ⟨index, load, found, Bool.and_eq_true_iff.mp ended⟩
  · rintro ⟨index, load, found, ended⟩
    exact ⟨load, List.mem_of_getElem? found, Bool.and_eq_true_iff.mpr ended⟩

theorem settle_getElem? {index place : Nat} {load other : KeyLoad} {loads : List KeyLoad}
    (there : loads[place]? = some load) :
    (loads.set place { load with settled := true })[index]? = some other ↔
      (index = place ∧ other = { load with settled := true }) ∨ (index ≠ place ∧ loads[index]? = some other) := by
  have inside := (List.getElem?_eq_some_iff.mp there).1
  by_cases same : index = place
  · subst same
    rw [List.getElem?_set_self inside]
    simp [eq_comm]
  · rw [List.getElem?_set_ne (Ne.symm same)]
    simp [same]

def settled (memory : KeyMemory) (place : Nat) (load : KeyLoad) : KeyMemory :=
  { memory with
    loads := memory.loads.set place { load with settled := true }
    cachedKeys := match load.outcome with
      | .ok keys => some keys
      | .error _ => memory.cachedKeys }

theorem memory_next_cases {label : KeyMemory.Label} (moved : memory.next label = some after) :
    (∃ use now, label = .call use now ∧ after = { (ask use now memory).2 with
      users := memory.users ++
        [{ use, promise := (ask use now memory).1, entitled := now.isOk || memory.succeeded }] }) ∨
    (∃ place load, label = .settle place ∧ memory.loads[place]? = some load ∧ load.settled = false ∧
      after = settled memory place load) := by
  cases label with
  | call use now => exact .inl ⟨use, now, rfl, (Option.some.inj moved).symm⟩
  | settle place =>
    simp only [KeyMemory.next] at moved
    split at moved
    · cases moved
    · rename_i load there
      split at moved
      · cases moved
      · rename_i pending
        exact .inr ⟨place, load, rfl, there, Bool.eq_false_iff.mpr pending, (Option.some.inj moved).symm⟩

theorem settled_succeeded {place : Nat} {load : KeyLoad} (there : memory.loads[place]? = some load)
    (pending : load.settled = false) :
    (settled memory place load).succeeded = (load.outcome.isOk || memory.succeeded) := by
  rw [Bool.eq_iff_iff, Bool.or_eq_true, succeeded_iff, succeeded_iff]
  constructor
  · rintro ⟨index, other, found, ended, ok⟩
    rcases (settle_getElem? there).mp found with ⟨_, rfl⟩ | ⟨_, earlier⟩
    · exact .inl ok
    · exact .inr ⟨index, other, earlier, ended, ok⟩
  · rintro (ok | ⟨index, other, found, ended, ok⟩)
    · exact ⟨place, { load with settled := true }, (settle_getElem? there).mpr (.inl ⟨rfl, rfl⟩), rfl, ok⟩
    · have apart : index ≠ place := by
        rintro rfl
        obtain rfl := Option.some.inj (found.symm.trans there)
        rw [pending] at ended
        cases ended
      exact ⟨index, other, (settle_getElem? there).mpr (.inr ⟨apart, found⟩), ended, ok⟩

theorem settled_sound {place : Nat} {load : KeyLoad} (there : memory.loads[place]? = some load)
    (sound : Sound memory promise) : Sound (settled memory place load) promise := by
  cases promise with
  | resolved keys => trivial
  | load index =>
    obtain ⟨other, found, ok⟩ := sound
    by_cases same : index = place
    · subst same
      obtain rfl := Option.some.inj (found.symm.trans there)
      exact ⟨{ other with settled := true }, (settle_getElem? there).mpr (.inl ⟨rfl, rfl⟩), ok⟩
    · exact ⟨other, (settle_getElem? there).mpr (.inr ⟨same, found⟩), ok⟩

theorem Coherent.next {label : KeyMemory.Label} (coherent : Coherent memory)
    (moved : memory.next label = some after) : Coherent after := by
  rcases memory_next_cases moved with ⟨use, now, rfl, rfl⟩ | ⟨place, load, rfl, there, pending, rfl⟩
  · have asks : Asks now memory (ask use now memory).2 := ask_asks
    constructor
    · show (ask use now memory).2.cachedKeys.isSome = (ask use now memory).2.succeeded
      rw [asks.keys, asks.succeeded, coherent.keys]
    · exact ask_verify_cached coherent
  · constructor
    · rw [settled_succeeded there pending, ← coherent.keys]
      cases ended : load.outcome with
      | ok keys => simp [settled, ended, Except.isOk, Except.toBool]
      | error thrown => simp [settled, ended, Except.isOk, Except.toBool]
    · exact coherent.verify

theorem Unspoiled.next {label : KeyMemory.Label} (unspoiled : Unspoiled memory) (coherent : Coherent memory)
    (allow : FillsLoadable memory label) (moved : memory.next label = some after) : Unspoiled after := by
  rcases memory_next_cases moved with ⟨use, now, rfl, rfl⟩ | ⟨place, load, rfl, there, _, rfl⟩
  · have asks : Asks now memory (ask use now memory).2 := ask_asks
    obtain ⟨jwks, verify⟩ := ask_caches coherent unspoiled allow
    refine ⟨jwks, verify, fun user member entitled => ?_⟩
    rcases List.mem_append.mp member with earlier | added
    · exact asks.sound (unspoiled.users user earlier entitled)
    · rw [List.mem_singleton.mp added] at entitled ⊢
      exact ask_sound coherent unspoiled (Bool.or_eq_true_iff.mp entitled)
  · exact ⟨fun promise cached => settled_sound there (unspoiled.jwks promise cached),
      fun promise cached => settled_sound there (unspoiled.verify promise cached),
      fun user member entitled => settled_sound there (unspoiled.users user member entitled)⟩

theorem Sound.outcome (sound : Sound memory promise) (thrown : Thrown) :
    memory.outcome promise ≠ some (.error thrown) := by
  intro failed
  cases promise with
  | resolved keys => cases failed
  | load index =>
    obtain ⟨load, found, ok⟩ := sound
    simp only [KeyMemory.outcome, found] at failed
    split at failed
    · rw [Option.some.inj failed] at ok
      cases ok
    · cases failed

theorem ask_fills (coherent : Coherent memory) (verifies : use ≠ .signAccessToken)
    (empty : memory.cachedJwksDocument = none) (unloaded : memory.succeeded = false) :
    (ask use now memory).2.cachedJwksDocument = some (.load memory.loads.length) ∧
      (ask use now memory).2.loads = memory.loads ++ [{ outcome := now, settled := false }] := by
  have keys : memory.cachedKeys = none := by
    have absent := coherent.keys.trans unloaded
    simpa using absent
  have keySet : memory.cachedVerifyKeySet = none := by
    cases cached : memory.cachedVerifyKeySet with
    | none => rfl
    | some promise =>
      have document := coherent.verify (by rw [cached]; rfl)
      rw [empty] at document
      cases document
  cases use with
  | signAccessToken => exact absurd rfl verifies
  | getJwks => simp [ask, getJwksDocument, loadSigningKeys, empty, keys]
  | verifyAccessToken => simp [ask, getVerifyKeySet, getJwksDocument, loadSigningKeys, empty, keys, keySet]

theorem pending_spoils {index : Nat} {thrown : Thrown} (document : memory.cachedJwksDocument = some (.load index))
    (there : memory.loads[index]? = some { outcome := .error thrown, settled := false }) :
    ∃ labels later, (keyMemories fun _ _ => True).Runs memory labels later ∧ ¬ NeverSpoiled later := by
  let keys : SigningKeys :=
    { kid := "kid-1", privateKey := "", publicKey := "", previousKid := none, previousPublicKey := none }
  let failed := settled memory index { outcome := .error thrown, settled := false }
  have asked : getJwksDocument (.ok keys) failed = (.load index, failed) := by
    have cached : failed.cachedJwksDocument = some (.load index) := document
    simp only [getJwksDocument, cached]
  let user : KeyUser := { use := .getJwks, promise := .load index, entitled := true }
  let later : KeyMemory := { failed with users := failed.users ++ [user] }
  have ends : memory.next (.settle index) = some failed := by
    simp only [KeyMemory.next, there]
    rfl
  have calls : failed.next (.call .getJwks (.ok keys)) = some later := by
    simp only [KeyMemory.next, ask, asked]
    rfl
  have first : (keyMemories fun _ _ => True).Runs memory [.settle index] failed :=
    Refinement.Machine.Runs.snoc .refl ⟨trivial, ends⟩
  refine ⟨_, later, first.snoc ⟨trivial, calls⟩, fun never => ?_⟩
  have outcome : later.outcome user.promise = some (.error thrown) := by
    have found : later.loads[index]? = some { outcome := .error thrown, settled := true } :=
      (settle_getElem? there).mpr (.inl ⟨rfl, rfl⟩)
    simp only [KeyMemory.outcome, user, found]
    rfl
  exact never user (List.mem_append_right _ (List.mem_singleton_self user)) rfl thrown outcome

theorem broken_spoils (coherent : Coherent memory) {label : KeyMemory.Label} (moved : memory.next label = some after)
    (broken : ¬ FillsLoadable memory label) :
    ∃ labels later, (keyMemories fun _ _ => True).Runs after labels later ∧ ¬ NeverSpoiled later := by
  rcases memory_next_cases moved with ⟨use, now, rfl, rfl⟩ | ⟨place, load, rfl, _⟩
  · obtain ⟨verifies, empty, failing, unloaded⟩ : use ≠ .signAccessToken ∧ memory.cachedJwksDocument = none ∧
        ¬ now.isOk = true ∧ ¬ memory.succeeded = true := by
      simpa [FillsLoadable] using broken
    obtain ⟨document, loads⟩ := @ask_fills memory now use coherent verifies empty (Bool.eq_false_iff.mpr unloaded)
    cases now with
    | ok keys => exact absurd rfl failing
    | error thrown =>
      refine @pending_spoils _ _ thrown document ?_
      show (ask use (.error thrown) memory).2.loads[memory.loads.length]? = _
      rw [loads]
      exact List.getElem?_concat_length
  · exact absurd trivial broken

end Steps

/-- In every run in which the document is filled by a call that may count on the keys no failed load is remembered; and
    once another call has filled it, some later call fails for that. -/
theorem failed_load_forgotten (memory : KeyMemory) :
    ((keyMemories FillsLoadable).Reachable memory → NeverSpoiled memory) ∧
    ∀ label after, (keyMemories fun _ _ => True).Reachable memory → memory.next label = some after →
      ¬ FillsLoadable memory label →
      ∃ labels later, (keyMemories fun _ _ => True).Runs after labels later ∧ ¬ NeverSpoiled later := by
  have begins : Coherent KeyMemory.initial := ⟨rfl, nofun⟩
  constructor
  · intro reachable
    have sound : Coherent memory ∧ Unspoiled memory := by
      apply reachable.invariant
      · intro state same
        rw [same]
        exact ⟨begins, nofun, nofun, nofun⟩
      · intro before label after holds moved
        exact ⟨holds.1.next moved.2, holds.2.next holds.1 moved.1 moved.2⟩
    exact fun user member entitled thrown => (sound.2.users user member entitled).outcome thrown
  · intro label after reachable moved broken
    have coherent : Coherent memory := by
      apply reachable.invariant
      · intro state same
        rw [same]
        exact begins
      · intro before label after holds moved
        exact holds.next moved.2
    exact broken_spoils coherent moved broken

/-! A failing load that is forgotten, and one that is remembered -/

instance (memory : KeyMemory) (label : KeyMemory.Label) : Decidable (FillsLoadable memory label) :=
  match label with
  | .call use now => inferInstanceAs
      (Decidable (use ≠ .signAccessToken → memory.cachedJwksDocument = none → now.isOk = true ∨
        memory.succeeded = true))
  | .settle _ => inferInstanceAs (Decidable True)

def nextLoadable (memory : KeyMemory) (label : KeyMemory.Label) : Option KeyMemory :=
  if FillsLoadable memory label then memory.next label else none

def failsEntitled (memory : KeyMemory) : Bool :=
  memory.users.any fun user => user.entitled && (memory.outcome user.promise).any fun ended => !ended.isOk

theorem failsEntitled_sound {memory : KeyMemory} (fails : failsEntitled memory = true) : ¬ NeverSpoiled memory := by
  intro never
  obtain ⟨user, member, failed⟩ := List.any_eq_true.mp fails
  obtain ⟨entitled, ended⟩ := Bool.and_eq_true_iff.mp failed
  obtain ⟨outcome, settled, refused⟩ := (Option.any_eq_true _ _).mp ended
  cases outcome with
  | ok keys => cases refused
  | error thrown => exact never user member entitled thrown settled

def loadedKeys : SigningKeys where
  kid := "kid-1"
  privateKey := "key pair"
  publicKey := "key pair"
  previousKid := none
  previousPublicKey := none

def fileMissing : Except Thrown SigningKeys := .error (.error "ENOENT: no such file or directory")

def forgottenLoad : List KeyMemory.Label :=
  [.call .signAccessToken fileMissing, .settle 0, .call .getJwks (.ok loadedKeys), .settle 1,
    .call .verifyAccessToken fileMissing]

theorem forgottenLoad_works : ∃ memory : KeyMemory, memory.users.length = 3 ∧ NeverSpoiled memory := by
  have passed : (Refinement.follow nextLoadable forgottenLoad KeyMemory.initial).any
      (fun memory => memory.users.length = 3) = true := by decide
  obtain ⟨memory, ran, checked⟩ := (Option.any_eq_true _ _).mp passed
  have steps : ∀ before label after, nextLoadable before label = some after →
      (keyMemories FillsLoadable).step before label after := by
    intro before label after moved
    unfold nextLoadable at moved
    split at moved
    · rename_i allow
      exact ⟨allow, moved⟩
    · cases moved
  have reachable : (keyMemories FillsLoadable).Reachable memory :=
    ⟨KeyMemory.initial, forgottenLoad, rfl, Refinement.Machine.Runs.of_follow steps ran⟩
  exact ⟨memory, of_decide_eq_true checked, (failed_load_forgotten memory).1 reachable⟩

/-- The document is asked for while a file is missing: later signing works, and verification never does. -/
def rememberedLoad : List KeyMemory.Label :=
  [.call .getJwks fileMissing, .settle 0, .call .signAccessToken (.ok loadedKeys), .settle 1,
    .call .verifyAccessToken (.ok loadedKeys)]

theorem rememberedLoad_fails : ∃ memory, (keyMemories fun _ _ => True).Reachable memory ∧
    memory.succeeded = true ∧ ¬ NeverSpoiled memory := by
  have passed : (Refinement.follow KeyMemory.next rememberedLoad KeyMemory.initial).any
      (fun memory => memory.succeeded && failsEntitled memory) = true := by decide
  obtain ⟨memory, ran, checked⟩ := (Option.any_eq_true _ _).mp passed
  obtain ⟨loaded, fails⟩ := Bool.and_eq_true_iff.mp checked
  have steps : ∀ before label after, KeyMemory.next before label = some after →
      (keyMemories fun _ _ => True).step before label after := fun _ _ _ moved => ⟨trivial, moved⟩
  have reachable : (keyMemories fun _ _ => True).Reachable memory :=
    ⟨KeyMemory.initial, rememberedLoad, rfl, Refinement.Machine.Runs.of_follow steps ran⟩
  exact ⟨memory, reachable, loaded, failsEntitled_sound fails⟩

end GatewayProof
