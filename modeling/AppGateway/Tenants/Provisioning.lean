import AppGateway.Tenants.Cipher
import AppGateway.Tenants.Ledger

namespace GatewayProof

open Async GatewayModel
open Async.System (Reaches anyStep)

def provisionError (tenantKeyId : String) : Thrown :=
  .error ("Failed to provision or resolve an active DEK for tenant key \"" ++ tenantKeyId ++ "\"")

/-- A lost race, and no active row after it. -/
def Stranded (past : List KeyEvent) : Prop := ∃ before after tenantKeyId wrappedDek,
  past = before ++ ⟨.selectActive tenantKeyId, .ok none⟩ :: after ∧
  ⟨.insertFirst tenantKeyId wrappedDek, .ok false⟩ ∈ before

def GivesUp {α : Type} (past : List KeyEvent) (outcome : Except Thrown α) : Prop :=
  ∀ tenantKeyId, outcome = .error (provisionError tenantKeyId) →
    (∃ event ∈ past, event.reply = .error (provisionError tenantKeyId)) ∨ Stranded past

def Persistent {α : Type} (program : Keys α) : Prop :=
  ∀ past, program.Obeys (fun _ _ => True) GivesUp past

section Rules

variable {α β : Type}

theorem provisionError_ne {message : String} (first : message.toList.head? ≠ some 'F') (tenantKeyId : String) :
    (.error message : Thrown) ≠ provisionError tenantKeyId := by
  intro same
  cases same
  simp at first

theorem GivesUp.grow {past : List KeyEvent} {event : KeyEvent} {thrown : Thrown}
    (gives : GivesUp past (.error thrown : Except Thrown α)) :
    GivesUp (past ++ [event]) (.error thrown : Except Thrown β) := by
  intro tenantKeyId same
  cases same
  rcases gives tenantKeyId rfl with ⟨failed, member, failure⟩ | ⟨before, after, tenant, wrappedDek, split, lost⟩
  · exact .inl ⟨failed, List.mem_append_left _ member, failure⟩
  · exact .inr ⟨before, after ++ [event], tenant, wrappedDek, by simp [split], lost⟩

theorem persistent_value (value : α) : Persistent (.done (.ok value) : Keys α) := fun _ _ => nofun

theorem persistent_throw {thrown : Thrown} (other : ∀ tenantKeyId, thrown ≠ provisionError tenantKeyId) :
    Persistent (.done (.error thrown) : Keys α) := by
  intro past tenantKeyId same
  exact absurd (Except.error.inj same) (other tenantKeyId)

theorem persistent_perform (effect : KeyEffect) : Persistent (Keys.perform effect) := by
  refine fun past => ⟨trivial, fun reply tenantKeyId same => .inl ⟨⟨effect, reply⟩, by simp, same⟩⟩

theorem Persistent.bind {program : Keys α} {next : α → Keys β} (persistent : Persistent program)
    (rest : ∀ value, Persistent (next value)) : Persistent (program.bind next) := by
  intro past
  refine (persistent past).bind ?_ fun whole value _ => rest value whole
  intro whole thrown gives tenantKeyId same
  cases same
  exact gives tenantKeyId rfl

theorem persistent_await {effect : KeyEffect} {resume : Except Thrown effect.Reply → Keys α}
    (rejected : ∀ thrown, resume (.error thrown) = .done (.error thrown))
    (resolved : ∀ value, Persistent (resume (.ok value))) : Persistent (.await effect resume) := by
  refine fun past => ⟨trivial, fun reply => ?_⟩
  cases reply with
  | ok value => exact resolved value _
  | error thrown =>
    rw [rejected]
    exact fun tenantKeyId same => .inl ⟨⟨effect, .error thrown⟩, by simp, by cases same; rfl⟩

theorem persistent_transaction {callback : Nat → Keys α} (persistent : ∀ id, Persistent (callback id)) :
    Persistent (Keys.transaction callback) := by
  refine persistent_await (fun _ => rfl) fun id past => ?_
  refine (((persistent id).bind fun value => (persistent_perform _).bind fun _ => persistent_value value) past).handle
    (fun _ _ gives => gives) fun whole thrown gives => ⟨trivial, fun reply => ?_⟩
  cases reply with
  | ok _ => exact gives.grow
  | error failed => exact fun tenantKeyId same => .inl ⟨⟨.rollback id, .error failed⟩, by simp, by cases same; rfl⟩

end Rules

section Service

variable (env : CryptoEnv) (process : Nat) (tenantId : Option String) (tenantKeyId : String)

theorem encryptWithKey_persistent (key plaintext : Buffer) : Persistent (encryptWithKey env key plaintext) :=
  (persistent_perform _).bind fun _ => persistent_value _

theorem decryptWithKey_persistent (key encoded : Buffer) : Persistent (.done (decryptWithKey env key encoded)) := by
  unfold decryptWithKey
  dsimp only
  split
  · exact persistent_value _
  · exact persistent_throw fun _ => nofun

theorem unwrapAndCache_persistent (keyVersion : Nat) (wrappedDek : Buffer) :
    Persistent (unwrapAndCache env process tenantKeyId keyVersion wrappedDek) := by
  refine (persistent_perform _).bind fun cached => ?_
  cases cached with
  | some dek => exact persistent_value _
  | none =>
    exact (decryptWithKey_persistent env _ wrappedDek).bind fun _ =>
      (persistent_perform _).bind fun _ => persistent_value _

theorem adoptActiveRow_persistent (active : Nat × Buffer) :
    Persistent (adoptActiveRow env process tenantKeyId active) :=
  (persistent_perform _).bind fun _ => unwrapAndCache_persistent env process tenantKeyId _ _

theorem provisionActiveKey_persistent : Persistent (provisionActiveKey env process tenantKeyId) := by
  refine (persistent_perform _).bind fun rawDek => (encryptWithKey_persistent env _ _).bind fun wrappedDek => ?_
  refine fun past => ⟨trivial, fun reply => ?_⟩
  rcases reply with thrown | inserted
  · exact fun _ same => .inl ⟨⟨.insertFirst tenantKeyId wrappedDek, .error thrown⟩, by simp, by cases same; rfl⟩
  cases inserted with
  | true =>
    exact ((persistent_perform _).bind fun _ => (persistent_perform _).bind fun _ => persistent_value _) _
  | false =>
    refine ⟨trivial, fun reply => ?_⟩
    rcases reply with thrown | existing
    · exact fun _ same => .inl ⟨⟨.selectActive tenantKeyId, .error thrown⟩, by simp, by cases same; rfl⟩
    cases existing with
    | some active => exact adoptActiveRow_persistent env process tenantKeyId active _
    | none =>
      intro _ _
      exact .inr ⟨past ++ [⟨.insertFirst tenantKeyId wrappedDek, .ok false⟩], [], tenantKeyId, wrappedDek, by simp,
        by simp⟩

theorem getActiveDek_persistent : Persistent (getActiveDek env process tenantId) := by
  have warm : Persistent (cachedActiveDek process (resolveTenantKeyId tenantId)) := by
    refine (persistent_perform _).bind fun cachedVersion => ?_
    cases cachedVersion with
    | none => exact persistent_value _
    | some keyVersion => exact (persistent_perform _).bind fun _ => persistent_value _
  refine warm.bind fun resolved => ?_
  cases resolved with
  | some resolved => exact persistent_value _
  | none =>
    refine (persistent_perform _).bind fun active => ?_
    cases active with
    | none => exact provisionActiveKey_persistent env process _
    | some active => exact adoptActiveRow_persistent env process _ active

theorem getDekForVersion_persistent (keyVersion : Nat) : Persistent
    (getDekForVersion env process tenantId keyVersion) := by
  refine (persistent_perform _).bind fun cached => ?_
  cases cached with
  | some dek => exact persistent_value _
  | none =>
    refine (persistent_perform _).bind fun row => ?_
    cases row with
    | none => exact persistent_throw (provisionError_ne (by simp))
    | some wrappedDek => exact (unwrapAndCache_persistent env process _ _ _).bind fun _ => persistent_value _

theorem rotateTenantKey_persistent : Persistent (rotateTenantKey env process tenantId) := by
  refine persistent_transaction fun id => (persistent_perform _).bind fun active => ?_
  have insertion : ∀ nextVersion, Persistent (do
      let rawDek ← Keys.randomBytes dekLengthBytes
      let wrappedDek ← wrapDek env rawDek
      Keys.insertIn id (resolveTenantKeyId tenantId) nextVersion wrappedDek
      Keys.dekSet process (resolveTenantKeyId tenantId) nextVersion rawDek
      Keys.activeVersionSet process (resolveTenantKeyId tenantId) nextVersion
      return { dek := rawDek, keyVersion := nextVersion } : Keys ResolvedDek) := by
    intro nextVersion
    refine (persistent_perform _).bind fun _ => (encryptWithKey_persistent env _ _).bind fun _ => ?_
    exact (persistent_perform _).bind fun _ => (persistent_perform _).bind fun _ =>
      (persistent_perform _).bind fun _ => persistent_value _
  cases active with
  | none => exact insertion _
  | some keyVersion => exact (persistent_perform _).bind fun _ => (persistent_perform _).bind fun _ => insertion _

theorem writeUInt16BE_persistent (value : Nat) : Persistent (.done (writeUInt16BE value)) := by
  unfold writeUInt16BE
  split
  · exact persistent_value _
  · exact persistent_throw (provisionError_ne (by decide))

theorem parseEnvelope_persistent (encoded : Buffer) : Persistent (.done (parseDekCiphertextEnvelope encoded)) := by
  match encoded with
  | [] | [_] => exact persistent_throw (provisionError_ne (by decide))
  | _ :: _ :: _ => exact persistent_value _

theorem decryptWithDek_persistent (dek encoded : Buffer) : Persistent (.done (decryptWithDek env dek encoded)) := by
  match encoded with
  | [] | [_] => exact persistent_throw (provisionError_ne (by decide))
  | high :: low :: body =>
    have opening := (decryptWithKey_persistent env dek body).bind fun plaintext => persistent_value (utf8Text plaintext)
    have same : decryptWithDek env dek (high :: low :: body) = (decryptWithKey env dek body).bind fun plaintext =>
      .ok (utf8Text plaintext) := rfl
    rw [same]
    cases opened : decryptWithKey env dek body with
    | ok plaintext => exact persistent_value _
    | error thrown =>
      rw [opened] at opening
      exact opening

theorem keyCall_persistent (call : KeyCall) : Persistent (call.code env) := by
  cases call with
  | encryptEmail process plaintext tenantId =>
    refine ((getActiveDek_persistent env process tenantId).bind fun resolved => ?_).bind fun _ => persistent_value _
    exact (writeUInt16BE_persistent _).bind fun _ => (encryptWithKey_persistent env _ _).bind fun _ =>
      persistent_value _
  | decryptEmail process encoded tenantId =>
    refine ((parseEnvelope_persistent encoded).bind fun envelope => ?_).bind fun _ => persistent_value _
    exact (getDekForVersion_persistent env process tenantId _).bind fun dek => decryptWithDek_persistent env dek encoded
  | getActiveDek process tenantId =>
    exact (getActiveDek_persistent env process tenantId).bind fun _ => persistent_value _
  | getDekForVersion process tenantId keyVersion =>
    exact (getDekForVersion_persistent env process tenantId keyVersion).bind fun _ => persistent_value _
  | rotateTenantKey process tenantId =>
    exact (rotateTenantKey_persistent env process tenantId).bind fun _ => persistent_value _

end Service

theorem respondKey_thrown {choice : KeyChoice} {before after : KeyState} {effect : KeyEffect} {thrown : Thrown}
    (responded : respondKey choice before effect = some (.error thrown, after)) (message : String) :
    thrown ≠ .error message := by
  cases effect with
  | activeVersionGet | activeVersionSet | dekGet | dekSet | dateNow | selectActive | selectVersion | begin |
    rollback => cases responded
  | randomBytes =>
    simp only [respondKey] at responded
    split at responded <;> cases responded
  | selectActiveIn | commit | insertFirst =>
    simp only [respondKey] at responded
    split at responded <;> cases responded
    intro same
    cases same
  | retireIn =>
    simp only [respondKey] at responded
    split at responded
    · cases responded
      intro same
      cases same
    · split at responded
      · cases responded
      · split at responded <;> cases responded
  | insertIn =>
    simp only [respondKey] at responded
    split at responded
    · cases responded
      intro same
      cases same
    · split at responded <;> cases responded <;>
      · intro same
        cases same

theorem execKey_thrown {choice : KeyChoice} {before after : KeyState} {effect : KeyEffect} {thrown : Thrown}
    (executed : execKey effect choice before = some (.error thrown, after)) (message : String) :
    thrown ≠ .error message := by
  unfold execKey at executed
  split at executed
  · exact respondKey_thrown executed message
  · split at executed <;> cases executed
    exact nofun
  · split at executed
    · cases executed
    · obtain ⟨_, _, same⟩ := Option.map_eq_some_iff.mp executed
      cases same
      exact nofun

/-- In every state of every run the versions of a tenant are 1, …, n with n the active one, and its rows
    never lose their wrapped DEK; so provisioning never misses the winner's row and never meets the
    index on active rows. -/
theorem key_table_invariant {env : CryptoEnv} {clock : Nat} {config : KeyConfig}
    (reached : Reaches (gateways env) anyStep (freshGateways clock) config) :
    (∀ tenantKeyId, ∃ n, Chain config.state.rows tenantKeyId n) ∧
    (∀ later, Reaches (gateways env) anyStep config later → KeysGrow config.state later.state) ∧
    (∀ thread ∈ config.threads, ∀ tenantKeyId, ¬ thread.answered (.error (provisionError tenantKeyId))) ∧
    ∀ thread ∈ config.threads, ∀ tenantKeyId wrappedDek,
      ⟨.insertFirst tenantKeyId wrappedDek, .error activeIndexViolation⟩ ∉ thread.past := by
  have holds : KeysHold env config := keysHold_run reached
  refine ⟨holds.valid.chain, fun later => keysGrow_run, ?_, ?_⟩
  · intro thread member tenantKeyId answered
    obtain ⟨index, found⟩ := List.getElem?_of_mem member
    have persistent := Reaches.disciplined (fun call => keyCall_persistent env call []) reached rfl thread member
    rcases persistent.ended answered tenantKeyId rfl with ⟨event, awaited, failed⟩ | stranded
    · obtain ⟨choice, before, later, executed⟩ := reached.executed rfl member awaited
      rw [failed] at executed
      exact execKey_thrown executed _ rfl
    · obtain ⟨before, after, tenant, wrappedDek, split, lost⟩ := stranded
      exact (holds.each index thread found).provisioned before after tenant wrappedDek split lost
  · intro thread member tenantKeyId wrappedDek violated
    obtain ⟨index, found⟩ := List.getElem?_of_mem member
    exact (holds.each index thread found).told _ violated rfl

/-! Runs of single calls -/

def onThread (index : Nat) (choices : List KeyChoice) : List KeyLabel := choices.map (.step index)

def calmly (count : Nat) : List KeyChoice := List.replicate count {}

def nonce (byte : UInt8) : KeyChoice := { bytes := List.replicate gcmIvLength byte }

def newDek (byte : UInt8) : KeyChoice := { bytes := List.replicate dekLengthBytes byte }

def provisioning (dek iv : UInt8) : List KeyChoice := [{}, {}, newDek dek, nonce iv, {}, {}, {}]

def rotating (dek iv : UInt8) : List KeyChoice := [{}, {}, {}, {}, newDek dek, nonce iv, {}, {}, {}]

def firstTwoKeys : List KeyLabel :=
  .call (.getActiveDek 0 none) :: onThread 0 (provisioning 1 2) ++
    .call (.rotateTenantKey 1 none) :: onThread 1 (rotating 3 4 ++ calmly 1)

theorem key_table_after_rotation : ∃ config,
    Reaches (gateways idealCipher) anyStep (freshGateways 0) config ∧
    config.state.rows.map (·.keyVersion) = [1, 2] ∧ ∀ tenantKeyId, ∃ n, Chain config.state.rows tenantKeyId n := by
  have passed : ((gateways idealCipher).run firstTwoKeys (freshGateways 0)).any
      (fun config => config.state.rows.map (·.keyVersion) = [1, 2]) = true := by decide +kernel
  obtain ⟨config, reached, check⟩ := Reaches.of_check passed
  exact ⟨config, reached, by simpa using check, (key_table_invariant reached).1⟩

end GatewayProof
