import AppGateway.Codec.Bytes
import AppGateway.Tenants.Isolation
import AppGateway.Tenants.Orphans

namespace GatewayProof

open Async GatewayModel
open Async.Program (Completes Computes completes_await completes_done)
open Async.System (Reaches anyStep)

section Steps

variable {α : Type} {state after : KeyState} {outcome : Except Thrown α}

theorem computes_perform {effect : KeyEffect} {value : effect.Reply} {last : KeyState}
    (settled : ∀ size, effect ≠ .randomBytes size) (responded : respondKey {} state effect = some (.ok value, last)) :
    Computes execKey Faultless (Keys.perform effect) state value last := by
  intro outcome after
  rw [Keys.perform, Program.perform, completes_await]
  constructor
  · rintro ⟨choice, reply, middle, good, executed, rest⟩
    rw [@execKey_settled effect choice {} state settled good rfl] at executed
    cases executed.symm.trans responded
    exact completes_done.mp rest
  · rintro ⟨rfl, rfl⟩
    exact ⟨{}, _, _, rfl, responded, .done _ _⟩

theorem completes_randomBytes {size : Nat} {resume : Except Thrown Buffer → Keys α} :
    Completes execKey Faultless (.await (.randomBytes size) resume) state outcome after ↔
      ∃ bytes, bytes.length = size ∧ bytes ∉ state.drawn ∧
        Completes execKey Faultless (resume (.ok bytes)) { state with drawn := bytes :: state.drawn }
          outcome after := by
  rw [completes_await]
  constructor
  · rintro ⟨choice, reply, middle, good, executed, rest⟩
    unfold execKey at executed
    rw [good] at executed
    simp only [respondKey] at executed
    split at executed
    · rename_i fresh
      cases executed
      exact ⟨_, fresh.1, fresh.2, rest⟩
    · cases executed
  · rintro ⟨bytes, length, fresh, rest⟩
    exact ⟨{ bytes }, _, _, rfl, if_pos ⟨length, fresh⟩, rest⟩

end Steps

/-! `getActiveDek` on its own -/

section Resolution

variable {env : CryptoEnv} {state : KeyState} {process : Nat} {tenantKeyId : String}

def Warm (state : KeyState) (process : Nat) (tenantKeyId : String) (resolved : ResolvedDek) : Prop :=
  (state.caches process).activeVersionCache.find tenantKeyId = some resolved.keyVersion ∧
    (state.caches process).dekCache.find (cacheKey tenantKeyId resolved.keyVersion) = some resolved.dek

structure CachesOnly (before after : KeyState) : Prop where
  rows : after.rows = before.rows
  transactions : after.transactions = before.transactions
  drawn : after.drawn = before.drawn

theorem CachesOnly.trans {first second third : KeyState} (before : CachesOnly first second)
    (after : CachesOnly second third) : CachesOnly first third :=
  ⟨after.rows.trans before.rows, after.transactions.trans before.transactions, after.drawn.trans before.drawn⟩

theorem activeVersionGet_computes (state : KeyState) (process : Nat) (tenantKeyId : String) : ∃ last,
    Computes execKey Faultless (Keys.activeVersionGet process tenantKeyId) state
      ((state.caches process).activeVersionCache.find tenantKeyId) last ∧
    CachesOnly state last ∧ (last.caches process).dekCache = (state.caches process).dekCache := by
  refine ⟨state.setCaches process { state.caches process with
    activeVersionCache := ((state.caches process).activeVersionCache.get tenantKeyId).2 },
    computes_perform (fun _ => nofun) ?_, ⟨rfl, rfl, rfl⟩, ?_⟩
  · rw [← Store.BoundedLru.get_fst]
    rfl
  · simp only [KeyState.setCaches, Function.update_self]

theorem dekGet_computes (state : KeyState) (process : Nat) (tenantKeyId : String) (keyVersion : Nat) : ∃ last,
    Computes execKey Faultless (Keys.dekGet process tenantKeyId keyVersion) state
      ((state.caches process).dekCache.find (cacheKey tenantKeyId keyVersion)) last ∧ CachesOnly state last := by
  refine ⟨state.setCaches process { state.caches process with
    dekCache := ((state.caches process).dekCache.get (cacheKey tenantKeyId keyVersion)).2 },
    computes_perform (fun _ => nofun) ?_, rfl, rfl, rfl⟩
  rw [← Store.BoundedLru.get_fst]
  rfl

theorem dekSet_computes (state : KeyState) (process : Nat) (tenantKeyId : String) (keyVersion : Nat) (dek : Buffer) :
    ∃ last, Computes execKey Faultless (Keys.dekSet process tenantKeyId keyVersion dek) state () last ∧
      CachesOnly state last :=
  ⟨_, computes_perform (fun _ => nofun) rfl, rfl, rfl, rfl⟩

theorem activeVersionSet_computes (state : KeyState) (process : Nat) (tenantKeyId : String) (keyVersion : Nat) :
    ∃ last, Computes execKey Faultless (Keys.activeVersionSet process tenantKeyId keyVersion) state () last ∧
      CachesOnly state last :=
  ⟨_, computes_perform (fun _ => nofun) rfl, rfl, rfl, rfl⟩

theorem cachedActiveDek_computes (state : KeyState) (process : Nat) (tenantKeyId : String) : ∃ warm last,
    Computes execKey Faultless (cachedActiveDek process tenantKeyId) state warm last ∧ CachesOnly state last ∧
    ∀ resolved, warm = some resolved ↔ Warm state process tenantKeyId resolved := by
  obtain ⟨pointed, pointer, same, deks⟩ := activeVersionGet_computes state process tenantKeyId
  cases cached : (state.caches process).activeVersionCache.find tenantKeyId with
  | none =>
    rw [cached] at pointer
    refine ⟨none, pointed, pointer.then (.done none), same, fun resolved => ?_⟩
    simp [Warm, cached]
  | some keyVersion =>
    rw [cached] at pointer
    obtain ⟨looked, lookup, same'⟩ := dekGet_computes pointed process tenantKeyId keyVersion
    rw [deks] at lookup
    refine ⟨_, looked, pointer.then (lookup.then (.done _)), same.trans same', fun resolved => ?_⟩
    rw [Warm, cached, Option.some.injEq, Option.map_eq_some_iff]
    constructor
    · rintro ⟨dek, found, rfl⟩
      exact ⟨rfl, found⟩
    · rintro ⟨rfl, found⟩
      exact ⟨resolved.dek, found, rfl⟩

theorem adoptActiveRow_computes (state : KeyState) (process : Nat) (tenantKeyId : String) {active : Nat × Buffer}
    {dek : Buffer} (unwrapped : unwrapDek env active.2 = .ok dek) : ∃ resolved last,
    Computes execKey Faultless (adoptActiveRow env process tenantKeyId active) state resolved last ∧
    CachesOnly state last ∧ resolved.keyVersion = active.1 := by
  obtain ⟨pointed, pointer, same⟩ := activeVersionSet_computes state process tenantKeyId active.1
  obtain ⟨looked, lookup, same'⟩ := dekGet_computes pointed process tenantKeyId active.1
  cases cached : (pointed.caches process).dekCache.find (cacheKey tenantKeyId active.1) with
  | some dek' =>
    rw [cached] at lookup
    exact ⟨_, looked, pointer.then (lookup.then (.done _)), same.trans same', rfl⟩
  | none =>
    rw [cached] at lookup
    obtain ⟨stored, store, same''⟩ := dekSet_computes looked process tenantKeyId active.1 dek
    refine ⟨{ dek, keyVersion := active.1 }, stored, pointer.then (lookup.then ?_),
      (same.trans same').trans same'', rfl⟩
    have opened : Computes execKey Faultless (.done (unwrapDek env active.2) : Keys Buffer) looked dek looked := by
      rw [unwrapped]
      exact .done dek
    exact opened.then (store.then (.done _))

theorem findActiveRow_computes (state : KeyState) (tenantKeyId : String) :
    Computes execKey Faultless (findActiveRow tenantKeyId) state
      ((state.rows.find? fun row => row.activeFor tenantKeyId).map fun row => (row.keyVersion, row.wrappedDek)) state :=
  computes_perform (fun _ => nofun) rfl

theorem getActiveDek_warm (tenantId : Option String) {resolved : ResolvedDek}
    (warm : Warm state process (resolveTenantKeyId tenantId) resolved) : ∃ last,
    Computes execKey Faultless (getActiveDek env process tenantId) state resolved last ∧ CachesOnly state last := by
  obtain ⟨found, last, lookup, same, hit⟩ := cachedActiveDek_computes state process (resolveTenantKeyId tenantId)
  rw [(hit resolved).mpr warm] at lookup
  exact ⟨last, lookup.then (.done resolved), same⟩

theorem getActiveDek_cold (tenantId : Option String)
    (cold : ∀ resolved, ¬ Warm state process (resolveTenantKeyId tenantId) resolved) : ∃ last, CachesOnly state last ∧
    ∀ outcome after, Completes execKey Faultless (getActiveDek env process tenantId) state outcome after ↔
      Completes execKey Faultless
        (match (state.rows.find? fun row => row.activeFor (resolveTenantKeyId tenantId)) with
          | none => provisionActiveKey env process (resolveTenantKeyId tenantId)
          | some row => adoptActiveRow env process (resolveTenantKeyId tenantId) (row.keyVersion, row.wrappedDek))
        last outcome after := by
  obtain ⟨found, last, lookup, same, hit⟩ := cachedActiveDek_computes state process (resolveTenantKeyId tenantId)
  cases found with
  | some resolved => exact absurd ((hit resolved).mp rfl) (cold resolved)
  | none =>
    refine ⟨last, same, fun outcome after => ?_⟩
    have select := findActiveRow_computes last (resolveTenantKeyId tenantId)
    rw [same.rows] at select
    refine lookup.bind.trans (select.bind.trans ?_)
    cases state.rows.find? fun row => row.activeFor (resolveTenantKeyId tenantId) <;> rfl

end Resolution

/-! The first key of a tenant -/

def Room (state : KeyState) : Prop := state.drawn.length + 3 ≤ 256 ^ gcmIvLength

theorem fresh_bytes {state : KeyState} (room : state.drawn.length < 256 ^ gcmIvLength) {size : Nat}
    (large : gcmIvLength ≤ size) : ∃ bytes : Buffer, bytes.length = size ∧ bytes ∉ state.drawn :=
  Codec.Bytes.exists_fresh (Nat.lt_of_lt_of_le room (Nat.pow_le_pow_right (by decide) large))

section Provisioning

variable {env : CryptoEnv} {state after : KeyState} {process : Nat} {tenantKeyId : String}

theorem first_fits (absent : ∀ row ∈ state.rows, row.tenantId ≠ tenantKeyId)
    (free : checkIndexes state.rows state.transactions tenantKeyId 1 ≠ .blocked) :
    checkIndexes state.rows state.transactions tenantKeyId 1 = .fits := by
  have unnamed : ¬ (state.rows.any fun row => row.named tenantKeyId 1) = true := by
    rw [List.any_eq_true]
    rintro ⟨row, member, named⟩
    exact absent row member (named_iff.mp named).1
  have inactive : (state.rows.find? fun row => row.activeFor tenantKeyId) = none :=
    List.find?_eq_none.mpr fun row member active => absent row member (activeFor_iff.mp active).1
  unfold checkIndexes at free ⊢
  rw [if_neg unnamed, inactive] at free ⊢
  split at free
  · exact absurd rfl free
  · rename_i alone
    exact if_neg alone

theorem insertFirst_computes (env : CryptoEnv) (process : Nat) (dek wrappedDek : Buffer)
    (fits : checkIndexes state.rows state.transactions tenantKeyId 1 = .fits) : ∃ last,
    Computes execKey Faultless (do
      let inserted ← Keys.insertFirst tenantKeyId wrappedDek
      if inserted then
        Keys.dekSet process tenantKeyId 1 dek
        Keys.activeVersionSet process tenantKeyId 1
        return { dek, keyVersion := 1 }
      else
        let existing ← findActiveRow tenantKeyId
        match existing with
        | none =>
          throw (.error ("Failed to provision or resolve an active DEK for tenant key \"" ++ tenantKeyId ++ "\""))
        | some active => adoptActiveRow env process tenantKeyId active) state { dek, keyVersion := 1 } last ∧
    last.rows = state.rows ++ [activeRow tenantKeyId 1 wrappedDek] ∧ last.drawn = state.drawn := by
  have insert : Computes execKey Faultless (Keys.insertFirst tenantKeyId wrappedDek) state true
      { state with rows := state.rows ++ [activeRow tenantKeyId 1 wrappedDek] } := by
    refine computes_perform (fun _ => nofun) ?_
    simp only [respondKey, fits]
  obtain ⟨stored, store, same⟩ := dekSet_computes
    { state with rows := state.rows ++ [activeRow tenantKeyId 1 wrappedDek] } process tenantKeyId 1 dek
  obtain ⟨pointed, pointer, same'⟩ := activeVersionSet_computes stored process tenantKeyId 1
  have whole := same.trans same'
  exact ⟨pointed, insert.then (store.then (pointer.then (.done _))), whole.rows, whole.drawn⟩

theorem provisionActiveKey_ends (absent : ∀ row ∈ state.rows, row.tenantId ≠ tenantKeyId)
    {outcome : Except Thrown ResolvedDek}
    (completes : Completes execKey Faultless (provisionActiveKey env process tenantKeyId) state outcome after) :
    checkIndexes state.rows state.transactions tenantKeyId 1 ≠ .blocked ∧ ∃ dek wrappedDek,
      outcome = .ok { dek, keyVersion := 1 } ∧ after.rows = state.rows ++ [activeRow tenantKeyId 1 wrappedDek] ∧
      after.drawn.length = state.drawn.length + 2 := by
  obtain ⟨dek, _, _, completes⟩ := completes_randomBytes.mp completes
  obtain ⟨iv, _, _, completes⟩ := completes_randomBytes.mp completes
  have free : checkIndexes state.rows state.transactions tenantKeyId 1 ≠ .blocked := by
    intro blocked
    obtain ⟨choice, reply, middle, good, executed, _⟩ := completes_await.mp completes
    unfold execKey at executed
    rw [good] at executed
    simp only [respondKey, blocked] at executed
    cases executed
  have fits := first_fits absent free
  obtain ⟨last, computes, rows, drawn⟩ :=
    @insertFirst_computes { state with drawn := iv :: dek :: state.drawn } tenantKeyId env process dek _ fits
  obtain ⟨rfl, rfl⟩ := (computes _ _).mp completes
  exact ⟨free, dek, _, rfl, rows, by rw [drawn]; rfl⟩

theorem provisionActiveKey_runs (env : CryptoEnv) (process : Nat)
    (absent : ∀ row ∈ state.rows, row.tenantId ≠ tenantKeyId)
    (free : checkIndexes state.rows state.transactions tenantKeyId 1 ≠ .blocked) (room : Room state) :
    ∃ outcome after, Completes execKey Faultless (provisionActiveKey env process tenantKeyId) state outcome after := by
  unfold Room at room
  obtain ⟨dek, length, fresh⟩ :=
    fresh_bytes (show state.drawn.length < _ by omega) (show gcmIvLength ≤ dekLengthBytes by decide)
  have more : ({ state with drawn := dek :: state.drawn } : KeyState).drawn.length < 256 ^ gcmIvLength := by
    rw [List.length_cons]
    omega
  obtain ⟨iv, length', fresh'⟩ := fresh_bytes more (Nat.le_refl gcmIvLength)
  have fits := first_fits absent free
  obtain ⟨last, computes, _⟩ :=
    @insertFirst_computes { state with drawn := iv :: dek :: state.drawn } tenantKeyId env process dek _ fits
  exact ⟨_, last, completes_randomBytes.mpr ⟨dek, length, fresh, completes_randomBytes.mpr ⟨iv, length', fresh',
    (computes _ _).mpr ⟨rfl, rfl⟩⟩⟩⟩

end Provisioning

/-! `encryptEmail` on its own -/

def ActiveVersion (rows : List TenantKeyRow) (tenantKeyId : String) (keyVersion : Nat) : Prop :=
  ∃ row ∈ rows, row.tenantId = tenantKeyId ∧ row.status = .active ∧ row.keyVersion = keyVersion

/-- Every encryption in the process that runs on its own and without faults returns, and its envelope names
    the active version. -/
def EncryptsActive (env : CryptoEnv) (state : KeyState) (process : Nat) (tenantId : Option String) : Prop :=
  ∀ plaintext,
    (∃ outcome after, Completes execKey Faultless (encryptEmail env process plaintext tenantId) state outcome after) ∧
    ∀ outcome after, Completes execKey Faultless (encryptEmail env process plaintext tenantId) state outcome after →
      ∃ encoded envelope, outcome = .ok encoded ∧ parseDekCiphertextEnvelope encoded = .ok envelope ∧
        ActiveVersion after.rows (resolveTenantKeyId tenantId) envelope.keyVersion

section Encrypting

variable {env : CryptoEnv} {state after : KeyState} {process : Nat} {tenantId : Option String} {keyVersion : Nat}

theorem encryptWithDek_ends {dek : Buffer} {plaintext : String} {outcome : Except Thrown Buffer}
    (completes : Completes execKey Faultless (encryptWithDek env dek keyVersion plaintext) state outcome after) :
    after.rows = state.rows ∧ if keyVersion ≤ 65535 then
      ∃ encoded body, outcome = .ok encoded ∧ parseDekCiphertextEnvelope encoded = .ok { keyVersion, body }
    else ∃ thrown, outcome = .error thrown := by
  unfold encryptWithDek at completes
  cases version : writeUInt16BE keyVersion with
  | error thrown =>
    rw [version] at completes
    obtain ⟨rfl, rfl⟩ := completes_done.mp completes
    have large : ¬ keyVersion ≤ 65535 := by
      intro small
      rw [writeUInt16BE, if_pos small] at version
      cases version
    rw [if_neg large]
    exact ⟨rfl, thrown, rfl⟩
  | ok versionPrefix =>
    rw [version] at completes
    have small : keyVersion ≤ 65535 := by
      by_contra large
      rw [writeUInt16BE, if_neg large] at version
      cases version
    obtain ⟨iv, _, _, completes⟩ := completes_randomBytes.mp completes
    obtain ⟨rfl, rfl⟩ := completes_done.mp completes
    rw [if_pos small]
    exact ⟨rfl, _, _, rfl, parseEnvelope_written _ version⟩

theorem encryptWithDek_runs (env : CryptoEnv) (dek : Buffer) (keyVersion : Nat) (plaintext : String)
    (room : state.drawn.length < 256 ^ gcmIvLength) :
    ∃ outcome after, Completes execKey Faultless (encryptWithDek env dek keyVersion plaintext) state outcome after := by
  obtain ⟨iv, length, fresh⟩ := fresh_bytes room (Nat.le_refl gcmIvLength)
  unfold encryptWithDek
  cases writeUInt16BE keyVersion with
  | error thrown => exact ⟨_, _, .done _ _⟩
  | ok versionPrefix => exact ⟨_, _, completes_randomBytes.mpr ⟨iv, length, fresh, .done _ _⟩⟩

structure ResolvesTo (env : CryptoEnv) (state : KeyState) (process : Nat) (tenantId : Option String) (keyVersion : Nat)
    (active : Prop) : Prop where
  ends : ∀ outcome after, Completes execKey Faultless (getActiveDek env process tenantId) state outcome after →
    ∃ resolved, outcome = .ok resolved ∧ resolved.keyVersion = keyVersion ∧
      (ActiveVersion after.rows (resolveTenantKeyId tenantId) keyVersion ↔ active)
  runs : ∃ outcome after, Completes execKey Faultless (getActiveDek env process tenantId) state outcome after ∧
    after.drawn.length < 256 ^ gcmIvLength

theorem ResolvesTo.encrypts_iff {active : Prop} (resolves : ResolvesTo env state process tenantId keyVersion active) :
    EncryptsActive env state process tenantId ↔ keyVersion ≤ 65535 ∧ active := by
  have runs : ∀ plaintext, ∃ outcome after,
      Completes execKey Faultless (encryptEmail env process plaintext tenantId) state outcome after := by
    intro plaintext
    obtain ⟨outcome, middle, first, room⟩ := resolves.runs
    obtain ⟨resolved, rfl, _⟩ := resolves.ends _ _ first
    obtain ⟨outcome, after, rest⟩ := encryptWithDek_runs env resolved.dek resolved.keyVersion plaintext room
    exact ⟨outcome, after, first.bind rest⟩
  constructor
  · intro encrypts
    obtain ⟨outcome, after, completes⟩ := runs ""
    obtain ⟨encoded, envelope, rfl, parsed, names⟩ := (encrypts "").2 _ _ completes
    obtain ⟨resolved, middle, first, rest⟩ := completes.bind_ok
    obtain ⟨_, same, rfl, activity⟩ := resolves.ends _ _ first
    cases same
    obtain ⟨rows, ended⟩ := encryptWithDek_ends rest
    by_cases small : resolved.keyVersion ≤ 65535
    · rw [if_pos small] at ended
      obtain ⟨_, body, same, written⟩ := ended
      cases same
      cases parsed.symm.trans written
      rw [rows] at names
      exact ⟨small, activity.mp names⟩
    · rw [if_neg small] at ended
      obtain ⟨_, same⟩ := ended
      cases same
  · rintro ⟨small, holds⟩ plaintext
    refine ⟨runs plaintext, fun outcome after completes => ?_⟩
    rcases completes.bind_cases with ⟨resolved, middle, first, rest⟩ | ⟨thrown, _, failed⟩
    · obtain ⟨_, same, rfl, activity⟩ := resolves.ends _ _ first
      cases same
      obtain ⟨rows, ended⟩ := encryptWithDek_ends rest
      rw [if_pos small] at ended
      obtain ⟨encoded, body, rfl, written⟩ := ended
      refine ⟨encoded, _, rfl, written, ?_⟩
      rw [rows]
      exact activity.mpr holds
    · obtain ⟨_, same, _⟩ := resolves.ends _ _ failed
      cases same

end Encrypting

def RowsUnwrap (env : CryptoEnv) (rows : List TenantKeyRow) : Prop :=
  ∀ row ∈ rows, ∃ dek, unwrapDek env row.wrappedDek = .ok dek

section Cases

variable {env : CryptoEnv} {state : KeyState} {process : Nat} {tenantId : Option String} {version : Nat}

theorem Chain.active_iff {rows : List TenantKeyRow} {tenantKeyId : String} (chain : Chain rows tenantKeyId version)
    {keyVersion : Nat} : ActiveVersion rows tenantKeyId keyVersion ↔ keyVersion = version ∧ 1 ≤ version := by
  constructor
  · rintro ⟨row, member, owned, active, rfl⟩
    have bounds := chain.bounds member owned
    exact ⟨(chain.active row member owned).mp active, by omega⟩
  · rintro ⟨rfl, positive⟩
    obtain ⟨row, member, owned, same⟩ := chain.exists_row positive (Nat.le_refl _)
    exact ⟨row, member, owned, (chain.active row member owned).mpr same, same⟩

theorem Chain.unblocked {rows : List TenantKeyRow} {tenantKeyId : String} (chain : Chain rows tenantKeyId version)
    (positive : 1 ≤ version) (others : List KeyTransaction) : checkIndexes rows others tenantKeyId 1 ≠ .blocked := by
  obtain ⟨row, member, owned, one⟩ := chain.exists_row (Nat.le_refl 1) positive
  have present : (rows.any fun row => row.named tenantKeyId 1) = true :=
    List.any_eq_true.mpr ⟨row, member, named_iff.mpr ⟨owned, one⟩⟩
  rw [checkIndexes, if_pos present]
  exact nofun

theorem resolvesTo_warm {resolved : ResolvedDek} (warm : Warm state process (resolveTenantKeyId tenantId) resolved)
    (room : Room state) : ResolvesTo env state process tenantId resolved.keyVersion
      (ActiveVersion state.rows (resolveTenantKeyId tenantId) resolved.keyVersion) := by
  obtain ⟨last, computes, same⟩ := @getActiveDek_warm env state process tenantId resolved warm
  refine ⟨fun outcome after completes => ?_, _, last, (computes _ _).mpr ⟨rfl, rfl⟩, ?_⟩
  · obtain ⟨rfl, rfl⟩ := (computes _ _).mp completes
    exact ⟨resolved, rfl, rfl, by rw [same.rows]⟩
  · rw [same.drawn]
    unfold Room at room
    omega

theorem resolvesTo_active (chain : Chain state.rows (resolveTenantKeyId tenantId) version) (positive : 1 ≤ version)
    (unwraps : RowsUnwrap env state.rows)
    (cold : ∀ resolved, ¬ Warm state process (resolveTenantKeyId tenantId) resolved) (room : Room state) :
    ResolvesTo env state process tenantId version True := by
  obtain ⟨last, same, cases⟩ := @getActiveDek_cold env state process tenantId cold
  obtain ⟨first, present, owned, active, _⟩ := chain.active_iff.mpr ⟨rfl, positive⟩
  have listed : first.activeFor (resolveTenantKeyId tenantId) = true := activeFor_iff.mpr ⟨owned, active⟩
  cases found : state.rows.find? fun row => row.activeFor (resolveTenantKeyId tenantId) with
  | none => exact absurd listed (List.find?_eq_none.mp found first present)
  | some row =>
    have member := List.mem_of_find?_eq_some found
    have picked := List.find?_some found
    obtain ⟨owned', active'⟩ := activeFor_iff.mp picked
    have newest := (chain.active row member owned').mp active'
    obtain ⟨dek, unwrapped⟩ := unwraps row member
    obtain ⟨resolved, adopted, computes, same', names⟩ := adoptActiveRow_computes last process
      (resolveTenantKeyId tenantId) (show unwrapDek env (row.keyVersion, row.wrappedDek).2 = .ok dek from unwrapped)
    rw [found] at cases
    refine ⟨fun outcome after completes => ?_, _, adopted, (cases _ _).mpr ((computes _ _).mpr ⟨rfl, rfl⟩), ?_⟩
    · obtain ⟨rfl, rfl⟩ := (computes _ _).mp ((cases _ _).mp completes)
      refine ⟨resolved, rfl, names.trans newest, iff_true_intro ?_⟩
      rw [same'.rows, same.rows]
      exact chain.active_iff.mpr ⟨rfl, positive⟩
    · rw [same'.drawn, same.drawn]
      unfold Room at room
      omega

theorem Chain.absent {rows : List TenantKeyRow} {tenantKeyId : String} (chain : Chain rows tenantKeyId 0) :
    ∀ row ∈ rows, row.tenantId ≠ tenantKeyId := by
  intro row member owned
  have bounds := chain.bounds member owned
  omega

theorem getActiveDek_first (chain : Chain state.rows (resolveTenantKeyId tenantId) 0)
    (cold : ∀ resolved, ¬ Warm state process (resolveTenantKeyId tenantId) resolved) : ∃ last, CachesOnly state last ∧
    ∀ outcome after, Completes execKey Faultless (getActiveDek env process tenantId) state outcome after ↔
      Completes execKey Faultless (provisionActiveKey env process (resolveTenantKeyId tenantId))
      last outcome after := by
  obtain ⟨last, same, cases⟩ := @getActiveDek_cold env state process tenantId cold
  have none : (state.rows.find? fun row => row.activeFor (resolveTenantKeyId tenantId)) = none :=
    List.find?_eq_none.mpr fun row member active => chain.absent row member (activeFor_iff.mp active).1
  rw [none] at cases
  exact ⟨last, same, cases⟩

theorem resolvesTo_first (chain : Chain state.rows (resolveTenantKeyId tenantId) 0)
    (free : checkIndexes state.rows state.transactions (resolveTenantKeyId tenantId) 1 ≠ .blocked)
    (cold : ∀ resolved, ¬ Warm state process (resolveTenantKeyId tenantId) resolved) (room : Room state) :
    ResolvesTo env state process tenantId 1 True := by
  obtain ⟨last, same, cases⟩ := @getActiveDek_first env state process tenantId chain cold
  have absent := chain.absent
  rw [← same.rows] at absent
  have ends : ∀ outcome after, Completes execKey Faultless (getActiveDek env process tenantId) state outcome after →
      ∃ dek wrappedDek, outcome = .ok { dek, keyVersion := 1 } ∧
        after.rows = last.rows ++ [activeRow (resolveTenantKeyId tenantId) 1 wrappedDek] ∧
        after.drawn.length = last.drawn.length + 2 := fun outcome after completes =>
    (provisionActiveKey_ends absent ((cases outcome after).mp completes)).2
  refine ⟨fun outcome after completes => ?_, ?_⟩
  · obtain ⟨dek, wrappedDek, rfl, rows, _⟩ := ends outcome after completes
    refine ⟨_, rfl, rfl, iff_true_intro ⟨activeRow _ 1 wrappedDek, ?_, rfl, rfl, rfl⟩⟩
    rw [rows]
    exact List.mem_append_right _ (List.mem_singleton_self _)
  · have room' : Room last := by rwa [Room, same.drawn]
    rw [← same.rows, ← same.transactions] at free
    obtain ⟨outcome, after, provisions⟩ := provisionActiveKey_runs env process absent free room'
    have completes := (cases outcome after).mpr provisions
    obtain ⟨_, _, _, _, drawn⟩ := ends outcome after completes
    refine ⟨outcome, after, completes, ?_⟩
    unfold Room at room'
    omega

/-- An encryption succeeds under the active version when that has a place in the envelope, the caches do
    not point elsewhere, and no open transaction holds the first key back. -/
theorem encryptsActive_iff (chain : Chain state.rows (resolveTenantKeyId tenantId) version)
    (unwraps : RowsUnwrap env state.rows) (room : Room state) : EncryptsActive env state process tenantId ↔
      version ≤ 65535 ∧
      (∀ resolved, Warm state process (resolveTenantKeyId tenantId) resolved → resolved.keyVersion = version ∧
        1 ≤ version) ∧
      checkIndexes state.rows state.transactions (resolveTenantKeyId tenantId) 1 ≠ .blocked := by
  by_cases warm : ∃ resolved, Warm state process (resolveTenantKeyId tenantId) resolved
  · obtain ⟨resolved, warm⟩ := warm
    have only : ∀ other, Warm state process (resolveTenantKeyId tenantId) other →
      other.keyVersion = resolved.keyVersion :=
      fun other warm' => Option.some.inj (warm'.1.symm.trans warm.1)
    rw [(resolvesTo_warm warm room).encrypts_iff, chain.active_iff]
    constructor
    · rintro ⟨small, same, positive⟩
      rw [same] at small
      exact ⟨small, fun other warm' => ⟨(only other warm').trans same, positive⟩, chain.unblocked positive _⟩
    · rintro ⟨small, pointed, _⟩
      obtain ⟨same, positive⟩ := pointed resolved warm
      exact ⟨by omega, same, positive⟩
  · have cold : ∀ resolved, ¬ Warm state process (resolveTenantKeyId tenantId) resolved := fun resolved warm' =>
      warm ⟨resolved, warm'⟩
    rcases Nat.eq_zero_or_pos version with rfl | positive
    · by_cases free : checkIndexes state.rows state.transactions (resolveTenantKeyId tenantId) 1 ≠ .blocked
      · rw [(resolvesTo_first chain free cold room).encrypts_iff]
        exact ⟨fun _ => ⟨by omega, fun other warm' => absurd warm' (cold other), free⟩, fun _ => ⟨by omega, trivial⟩⟩
      · constructor
        · intro encrypts
          obtain ⟨outcome, after, completes⟩ := (encrypts "").1
          obtain ⟨encoded, _, rfl, _⟩ := (encrypts "").2 _ _ completes
          obtain ⟨resolved, middle, first, _⟩ := completes.bind_ok
          obtain ⟨last, same, cases⟩ := @getActiveDek_first env state process tenantId chain cold
          have absent := chain.absent
          rw [← same.rows] at absent
          have free' := (provisionActiveKey_ends absent ((cases _ _).mp first)).1
          rw [same.rows, same.transactions] at free'
          exact absurd free' free
        · exact fun conditions => absurd conditions.2.2 free
    · rw [(resolvesTo_active chain positive unwraps cold room).encrypts_iff]
      constructor
      · rintro ⟨small, _⟩
        exact ⟨small, fun other warm' => absurd warm' (cold other), chain.unblocked positive _⟩
      · rintro ⟨small, _⟩
        exact ⟨small, trivial⟩

end Cases

end GatewayProof
