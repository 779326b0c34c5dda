import AppGateway.Tenants.Protocol

namespace GatewayProof

open Async GatewayModel

section Growth

variable {env : CryptoEnv} {past whole : List KeyEvent} {tenantKeyId : String} {keyVersion : Nat} {dek : Buffer}

theorem ReadRow.grow {wrappedDek : Buffer} (read : ReadRow past tenantKeyId keyVersion wrappedDek)
    (grown : past ⊆ whole) : ReadRow whole tenantKeyId keyVersion wrappedDek := by
  rcases read with active | version
  · exact .inl (grown active)
  · exact .inr (grown version)

theorem Candidate.grow {wrappedDek : Buffer} (candidate : Candidate env past wrappedDek dek)
    (grown : past ⊆ whole) : Candidate env whole wrappedDek dek := by
  obtain ⟨drawn, iv, nonce, wrapped⟩ := candidate
  exact ⟨grown drawn, iv, grown nonce, wrapped⟩

theorem Holds.grow (holds : Holds env past tenantKeyId keyVersion dek) (grown : past ⊆ whole) :
    Holds env whole tenantKeyId keyVersion dek := by
  cases holds with
  | stored wrappedDek read unwrapped => exact .stored wrappedDek (read.grow grown) unwrapped
  | provisioned wrappedDek candidate first inserted =>
    exact .provisioned wrappedDek (candidate.grow grown) first (grown inserted)
  | rotated wrappedDek transaction candidate inserted =>
    exact .rotated wrappedDek transaction (candidate.grow grown) (grown inserted)

theorem Pointed.grow (pointed : Pointed past tenantKeyId keyVersion) (grown : past ⊆ whole) :
    Pointed whole tenantKeyId keyVersion := by
  cases pointed with
  | read wrappedDek selected => exact .read wrappedDek (grown selected)
  | provisioned wrappedDek first inserted => exact .provisioned wrappedDek first (grown inserted)
  | rotated wrappedDek transaction inserted => exact .rotated wrappedDek transaction (grown inserted)

theorem Fetched.grow {process : Nat} (fetched : Fetched env process past tenantKeyId keyVersion dek)
    (grown : past ⊆ whole) : Fetched env process whole tenantKeyId keyVersion dek := by
  cases fetched with
  | cached hit => exact .cached (grown hit)
  | held holds => exact .held (holds.grow grown)

theorem Resolves.grow {process : Nat} {resolved : ResolvedDek}
    (resolves : Resolves env process past tenantKeyId resolved) (grown : past <+: whole) :
    Resolves env process whole tenantKeyId resolved := by
  cases resolves with
  | warm began => exact .warm (began.trans grown)
  | cold pointed fetched => exact .cold (pointed.grow grown.subset) (fetched.grow grown.subset)

end Growth

section Lookups

variable (env : CryptoEnv) (process : Nat)

def LooksUp : KeyEffect → Prop
  | .dekGet .. | .dekSet .. | .selectVersion .. => True
  | _ => False

theorem unwrapAndCache_looksUp (tenantKeyId : String) (keyVersion : Nat) (wrappedDek : Buffer) :
    (unwrapAndCache env process tenantKeyId keyVersion wrappedDek).Uses LooksUp := by
  refine ⟨trivial, fun reply => ?_⟩
  rcases reply with thrown | cached
  · trivial
  cases cached with
  | some dek => trivial
  | none =>
    simp only [Program.done_ok_bind]
    cases unwrapDek env wrappedDek with
    | error thrown => trivial
    | ok dek => exact ⟨trivial, fun reply => by cases reply <;> trivial⟩

theorem getDekForVersion_looksUp (tenantId : Option String) (keyVersion : Nat) :
    (getDekForVersion env process tenantId keyVersion).Uses LooksUp := by
  refine ⟨trivial, fun reply => ?_⟩
  rcases reply with thrown | cached
  · trivial
  cases cached with
  | some dek => trivial
  | none =>
    refine ⟨trivial, fun reply => ?_⟩
    rcases reply with thrown | row
    · trivial
    cases row with
    | none => trivial
    | some wrappedDek => exact (unwrapAndCache_looksUp env process _ keyVersion wrappedDek).bind fun _ => trivial

theorem decryptEmail_looksUp (encoded : Buffer) (tenantId : Option String) :
    (decryptEmail env process encoded tenantId).Uses LooksUp := by
  unfold decryptEmail
  cases parseDekCiphertextEnvelope encoded with
  | error thrown => trivial
  | ok envelope =>
    show ((getDekForVersion env process tenantId envelope.keyVersion).bind fun dek =>
      .done (decryptWithDek env dek encoded)).Uses _
    refine (getDekForVersion_looksUp env process tenantId envelope.keyVersion).bind fun dek => ?_
    cases decryptWithDek env dek encoded <;> trivial

end Lookups

section Rules

variable {env : CryptoEnv} {call : KeyCall} {past : List KeyEvent}

theorem encryptWithKey_obeys (key plaintext : Buffer) :
    (encryptWithKey env key plaintext).Obeys (KeyPermits env call) (fun whole outcome => past <+: whole ∧
      ∀ encoded, outcome = .ok encoded → ∃ iv, ⟨.randomBytes gcmIvLength, .ok iv⟩ ∈ whole ∧
        encoded = sealed env key iv plaintext) past := by
  refine ⟨trivial, fun drawn => ?_⟩
  rcases drawn with thrown | iv
  · exact ⟨List.prefix_append .., nofun⟩
  · refine ⟨List.prefix_append .., fun encoded same => ?_⟩
    cases same
    exact ⟨iv, by simp, rfl⟩

def drawing32 (dek iv : Buffer) : List KeyEvent :=
  [⟨.randomBytes dekLengthBytes, .ok dek⟩, ⟨.randomBytes gcmIvLength, .ok iv⟩]

theorem drawing32_candidate (dek iv : Buffer) :
    Candidate env (past ++ drawing32 dek iv) (sealed env env.tenantKekKey iv dek) dek :=
  ⟨by simp [drawing32], iv, by simp [drawing32], rfl⟩

theorem candidate_obeys {α : Type} {next : Buffer → Buffer → Keys α}
    {ends : List KeyEvent → Except Thrown α → Prop}
    (rejected : ∀ whole thrown, past <+: whole → ends whole (.error thrown))
    (drawn : ∀ dek iv, (next dek (sealed env env.tenantKekKey iv dek)).Obeys (KeyPermits env call) ends
      (past ++ drawing32 dek iv)) :
    (do
      let rawDek ← Keys.randomBytes dekLengthBytes
      let wrappedDek ← wrapDek env rawDek
      next rawDek wrappedDek : Keys α).Obeys (KeyPermits env call) ends past := by
  refine ⟨trivial, fun raw => ?_⟩
  rcases raw with thrown | dek
  · exact rejected _ _ (List.prefix_append ..)
  refine ⟨trivial, fun nonce => ?_⟩
  rcases nonce with thrown | iv
  · exact rejected _ _ (by simp)
  · have rest := drawn dek iv
    rw [List.append_assoc]
    exact rest

theorem unwrapAndCache_obeys {keyVersion : Nat} {wrappedDek : Buffer}
    (read : ReadRow past call.tenantKeyId keyVersion wrappedDek) :
    (unwrapAndCache env call.process call.tenantKeyId keyVersion wrappedDek).Obeys (KeyPermits env call)
      (fun whole outcome => past <+: whole ∧ ∀ resolved, outcome = .ok resolved →
        resolved.keyVersion = keyVersion ∧
          Fetched env call.process whole call.tenantKeyId keyVersion resolved.dek) past := by
  refine ⟨⟨rfl, rfl⟩, fun looked => ?_⟩
  rcases looked with thrown | cached
  · exact ⟨List.prefix_append .., nofun⟩
  cases cached with
  | some dek =>
    refine ⟨List.prefix_append .., fun resolved same => ?_⟩
    cases same
    exact ⟨rfl, .cached (by simp)⟩
  | none =>
    simp only [Program.done_ok_bind]
    cases unwrapped : unwrapDek env wrappedDek with
    | error thrown => exact ⟨List.prefix_append .., nofun⟩
    | ok dek =>
      have holds : Holds env past call.tenantKeyId keyVersion dek := .stored wrappedDek read unwrapped
      refine ⟨⟨rfl, rfl, holds.grow (List.subset_append_left ..)⟩, fun stored => ?_⟩
      rcases stored with thrown | _
      · exact ⟨by simp, nofun⟩
      · refine ⟨by simp, fun resolved same => ?_⟩
        cases same
        exact ⟨rfl, .held (holds.grow (by simp))⟩

theorem adoptActiveRow_obeys {active : Nat × Buffer}
    (selected : ⟨.selectActive call.tenantKeyId, .ok (some active)⟩ ∈ past) :
    (adoptActiveRow env call.process call.tenantKeyId active).Obeys (KeyPermits env call)
      (fun whole outcome => past <+: whole ∧ ∀ resolved, outcome = .ok resolved →
        Resolves env call.process whole call.tenantKeyId resolved) past := by
  have pointed : Pointed past call.tenantKeyId active.1 := .read active.2 selected
  refine ⟨⟨rfl, rfl, pointed⟩, fun stored => ?_⟩
  rcases stored with thrown | _
  · exact ⟨List.prefix_append .., nofun⟩
  have read : ReadRow past call.tenantKeyId active.1 active.2 := .inl selected
  refine (unwrapAndCache_obeys (read.grow (List.subset_append_left ..))).weaken (fun _ _ permit => permit) ?_
  rintro whole outcome ⟨grown, fetched⟩
  have before : past <+: whole := (List.prefix_append ..).trans grown
  refine ⟨before, fun resolved same => ?_⟩
  obtain ⟨version, dek⟩ := fetched resolved same
  have later := pointed.grow before.subset
  rw [← version] at later dek
  exact .cold later dek

theorem Unprovisioned.append {events : List KeyEvent} (unprovisioned : Unprovisioned past)
    (also : Unprovisioned events) : Unprovisioned (past ++ events) := by
  intro event member
  rcases List.mem_append.mp member with earlier | later
  · exact unprovisioned event earlier
  · exact also event later

theorem provisionActiveKey_obeys (unprovisioned : Unprovisioned past) :
    (provisionActiveKey env call.process call.tenantKeyId).Obeys (KeyPermits env call)
      (fun whole outcome => past <+: whole ∧ ∀ resolved, outcome = .ok resolved →
        Resolves env call.process whole call.tenantKeyId resolved) past := by
  refine candidate_obeys (fun whole thrown before => ⟨before, nofun⟩) fun dek iv => ?_
  have candidate : Candidate env (past ++ drawing32 dek iv) (sealed env env.tenantKekKey iv dek) dek :=
    drawing32_candidate dek iv
  have before : past <+: past ++ drawing32 dek iv := List.prefix_append ..
  have first : Unprovisioned (past ++ drawing32 dek iv) := unprovisioned.append (by simp [Unprovisioned, drawing32])
  generalize sealed env env.tenantKekKey iv dek = wrappedDek at candidate ⊢
  generalize past ++ drawing32 dek iv = whole at candidate before first ⊢
  refine ⟨⟨rfl, first, dek, candidate⟩, fun reply => ?_⟩
  rcases reply with thrown | inserted
  · exact ⟨before.trans (List.prefix_append ..), nofun⟩
  cases inserted with
  | true =>
    have holds : Holds env (whole ++ [⟨.insertFirst call.tenantKeyId wrappedDek, .ok true⟩]) call.tenantKeyId 1 dek :=
      .provisioned wrappedDek (candidate.grow (List.subset_append_left ..)) rfl (by simp)
    have pointed : Pointed (whole ++ [⟨.insertFirst call.tenantKeyId wrappedDek, .ok true⟩]) call.tenantKeyId 1 :=
      .provisioned wrappedDek rfl (by simp)
    simp only [Program.done_ok_bind, if_true]
    refine ⟨⟨rfl, rfl, holds⟩, fun stored => ?_⟩
    rcases stored with thrown | _
    · exact ⟨before.trans (by simp), nofun⟩
    refine ⟨⟨rfl, rfl, pointed.grow (List.subset_append_left ..)⟩, fun set => ?_⟩
    rcases set with thrown | _
    · exact ⟨before.trans (by simp), nofun⟩
    · refine ⟨before.trans (by simp), fun resolved same => ?_⟩
      cases same
      exact .cold (pointed.grow (by simp)) (.held (holds.grow (by simp)))
  | false =>
    simp only [Program.done_ok_bind, Bool.false_eq_true, if_false]
    refine ⟨rfl, fun found => ?_⟩
    rcases found with thrown | existing
    · exact ⟨before.trans (by simp), nofun⟩
    cases existing with
    | none => exact ⟨before.trans (by simp), nofun⟩
    | some active =>
      refine (adoptActiveRow_obeys (by simp)).weaken (fun _ _ permit => permit) ?_
      rintro later outcome ⟨grown, resolves⟩
      exact ⟨before.trans (List.IsPrefix.trans (by simp) grown), resolves⟩

theorem findActiveRow_obeys {next : Option (Nat × Buffer) → Keys ResolvedDek}
    (absent : next none = provisionActiveKey env call.process call.tenantKeyId)
    (present : ∀ active, next (some active) = adoptActiveRow env call.process call.tenantKeyId active)
    (quiet : Unprovisioned past) :
    (findActiveRow call.tenantKeyId >>= next).Obeys (KeyPermits env call)
      (fun whole outcome => ∀ resolved, outcome = .ok resolved →
        Resolves env call.process whole call.tenantKeyId resolved) past := by
  refine ⟨rfl, fun found => ?_⟩
  rcases found with thrown | active
  · exact nofun
  simp only [Program.done_ok_bind]
  cases active with
  | none =>
    have still : Unprovisioned (past ++ [⟨.selectActive call.tenantKeyId, .ok none⟩]) :=
      quiet.append (by simp [Unprovisioned])
    rw [absent]
    exact (provisionActiveKey_obeys still).weaken (fun _ _ permit => permit) fun _ _ ended => ended.2
  | some active =>
    rw [present]
    exact (adoptActiveRow_obeys (by simp)).weaken (fun _ _ permit => permit) fun _ _ ended => ended.2

theorem getActiveDek_obeys (tenantId : Option String) (same : resolveTenantKeyId tenantId = call.tenantKeyId) :
    (getActiveDek env call.process tenantId).Obeys (KeyPermits env call)
      (fun whole outcome => ∀ resolved, outcome = .ok resolved →
        Resolves env call.process whole call.tenantKeyId resolved) [] := by
  unfold getActiveDek
  rw [same]
  refine ⟨⟨rfl, rfl⟩, fun pointer => ?_⟩
  rcases pointer with thrown | cachedVersion
  · exact nofun
  cases cachedVersion with
  | none => exact findActiveRow_obeys rfl (fun _ => rfl) (by simp [Unprovisioned])
  | some keyVersion =>
    refine ⟨⟨rfl, rfl⟩, fun looked => ?_⟩
    rcases looked with thrown | cachedDek
    · exact nofun
    cases cachedDek with
    | none => exact findActiveRow_obeys rfl (fun _ => rfl) (by simp [Unprovisioned])
    | some dek =>
      intro resolved same
      cases same
      exact .warm List.prefix_rfl

theorem getDekForVersion_obeys (tenantId : Option String) (same : resolveTenantKeyId tenantId = call.tenantKeyId)
    (keyVersion : Nat) :
    (getDekForVersion env call.process tenantId keyVersion).Obeys (KeyPermits env call)
      (fun whole outcome => ∀ dek, outcome = .ok dek →
        Fetched env call.process whole call.tenantKeyId keyVersion dek) past := by
  unfold getDekForVersion
  rw [same]
  refine ⟨⟨rfl, rfl⟩, fun looked => ?_⟩
  rcases looked with thrown | cached
  · exact nofun
  cases cached with
  | some dek =>
    intro other equal
    cases equal
    exact .cached (by simp)
  | none =>
    refine ⟨rfl, fun found => ?_⟩
    rcases found with thrown | row
    · exact nofun
    cases row with
    | none => exact nofun
    | some wrappedDek =>
      have read : ∀ before, ReadRow (before ++ [⟨.selectVersion call.tenantKeyId keyVersion, .ok (some wrappedDek)⟩])
          call.tenantKeyId keyVersion wrappedDek := fun before => .inr (by simp)
      simp only [Program.done_ok_bind]
      refine (unwrapAndCache_obeys (read _)).bind (fun _ _ _ => nofun) ?_
      rintro whole resolved ⟨_, fetched⟩ dek equal
      cases equal
      exact (fetched resolved rfl).2

theorem Began.grow {transaction : Nat} {whole : List KeyEvent} (began : Began past transaction)
    (grown : past <+: whole) : Began whole transaction := by
  obtain ⟨later, rfl⟩ := grown
  cases past with
  | nil => cases began
  | cons event past => exact began

theorem Clean.append {events : List KeyEvent} (clean : Clean past) (also : Clean events) : Clean (past ++ events) := by
  intro event member
  rcases List.mem_append.mp member with earlier | later
  · exact clean event earlier
  · exact also event later

theorem written_append (transaction : Nat) (events : List KeyEvent) :
    written transaction (past ++ events) = events.foldl KeyTransaction.after (written transaction past) :=
  List.foldl_append

theorem insertNext_obeys {transaction : Nat} (active : Option Nat) (began : Began past transaction)
    (clean : Clean past) (read : ⟨.selectActiveIn transaction call.tenantKeyId, .ok active⟩ ∈ past)
    (empty : (written transaction past).inserted = [])
    (own : ∀ write ∈ (written transaction past).retired, write.1 = call.tenantKeyId) :
    (do
      let rawDek ← Keys.randomBytes dekLengthBytes
      let wrappedDek ← wrapDek env rawDek
      Keys.insertIn transaction call.tenantKeyId (active.getD 0 + 1) wrappedDek
      Keys.dekSet call.process call.tenantKeyId (active.getD 0 + 1) rawDek
      Keys.activeVersionSet call.process call.tenantKeyId (active.getD 0 + 1)
      return { dek := rawDek, keyVersion := active.getD 0 + 1 } : Keys ResolvedDek).Obeys (KeyPermits env call)
      (fun whole outcome => Began whole transaction ∧ ∀ resolved, outcome = .ok resolved → Clean whole ∧
        Complete (written transaction whole) call.tenantKeyId ∧ ∃ wrappedDek,
          Candidate env whole wrappedDek resolved.dek ∧
          ⟨.insertIn transaction call.tenantKeyId resolved.keyVersion wrappedDek, .ok ()⟩ ∈ whole) past := by
  refine candidate_obeys (fun whole thrown before => ⟨began.grow before, nofun⟩) fun dek iv => ?_
  have candidate : Candidate env (past ++ drawing32 dek iv) (sealed env env.tenantKekKey iv dek) dek :=
    drawing32_candidate dek iv
  have began' : Began (past ++ drawing32 dek iv) transaction := began.grow (List.prefix_append ..)
  have clean' : Clean (past ++ drawing32 dek iv) :=
    clean.append (by simp [Clean, drawing32, Except.isOk, Except.toBool])
  have same : written transaction (past ++ drawing32 dek iv) = written transaction past := by
    rw [written_append]
    rfl
  have read' : ⟨.selectActiveIn transaction call.tenantKeyId, .ok active⟩ ∈ past ++ drawing32 dek iv :=
    List.mem_append_left _ read
  rw [← same] at empty own
  generalize sealed env env.tenantKekKey iv dek = wrappedDek at candidate ⊢
  generalize past ++ drawing32 dek iv = whole at candidate began' clean' empty own read' ⊢
  refine ⟨⟨rfl, began', ⟨dek, candidate⟩, active, read', rfl⟩, fun reply => ?_⟩
  rcases reply with thrown | _
  · exact ⟨began'.grow (List.prefix_append ..), nofun⟩
  have holds : ∀ events, Holds env (whole ++ [⟨.insertIn transaction call.tenantKeyId (active.getD 0 + 1) wrappedDek,
      .ok ()⟩] ++ events) call.tenantKeyId (active.getD 0 + 1) dek := fun events =>
    .rotated wrappedDek transaction (candidate.grow (by simp)) (by simp)
  refine ⟨⟨rfl, rfl, by simpa using holds []⟩, fun stored => ?_⟩
  rcases stored with thrown | _
  · exact ⟨began'.grow (by simp), nofun⟩
  refine ⟨⟨rfl, rfl, .rotated wrappedDek transaction (by simp)⟩, fun set => ?_⟩
  rcases set with thrown | _
  · exact ⟨began'.grow (by simp), nofun⟩
  refine ⟨began'.grow (by simp), fun resolved equal => ?_⟩
  cases equal
  refine ⟨?_, ⟨⟨active.getD 0 + 1, wrappedDek, ?_⟩, ?_⟩, wrappedDek, candidate.grow (by simp), by simp⟩
  · refine ((clean'.append ?_).append ?_).append ?_ <;> simp [Clean, Except.isOk, Except.toBool]
  · simp [written_append, KeyTransaction.after, KeyTransaction.insert, empty]
  · simpa [written_append, KeyTransaction.after, KeyTransaction.insert] using own

theorem rotateTenantKey_obeys (tenantId : Option String) (same : resolveTenantKeyId tenantId = call.tenantKeyId)
    (rotates : RotatesKey call) :
    (rotateTenantKey env call.process tenantId).Obeys (KeyPermits env call)
      (fun whole outcome => ∀ resolved, outcome = .ok resolved → ∃ before transaction wrappedDek,
        Candidate env before wrappedDek resolved.dek ∧
        ⟨.insertIn transaction call.tenantKeyId resolved.keyVersion wrappedDek, .ok ()⟩ ∈ before ∧
        whole = before ++ [⟨.commit transaction, .ok ()⟩]) [] := by
  unfold rotateTenantKey
  rw [same]
  refine ⟨⟨rfl, rotates⟩, fun began => ?_⟩
  rcases began with thrown | transaction
  · exact nofun
  have callback : ∀ past, past = [⟨.begin, .ok transaction⟩] →
      (rotateIn env call.process call.tenantKeyId transaction).Obeys (KeyPermits env call)
      (fun whole outcome => Began whole transaction ∧ ∀ resolved, outcome = .ok resolved → Clean whole ∧
        Complete (written transaction whole) call.tenantKeyId ∧ ∃ wrappedDek,
          Candidate env whole wrappedDek resolved.dek ∧
          ⟨.insertIn transaction call.tenantKeyId resolved.keyVersion wrappedDek, .ok ()⟩ ∈ whole) past := by
    rintro past rfl
    refine ⟨⟨rfl, rfl⟩, fun read => ?_⟩
    rcases read with thrown | active
    · exact ⟨rfl, nofun⟩
    cases active with
    | none =>
      exact insertNext_obeys none rfl (by simp [Clean, Except.isOk, Except.toBool]) (by simp) rfl
        (by simp [written, KeyTransaction.after])
    | some keyVersion =>
      refine ⟨trivial, fun clock => ?_⟩
      rcases clock with thrown | retiredAt
      · exact ⟨rfl, nofun⟩
      refine ⟨⟨rfl, rfl, by simp⟩, fun retired => ?_⟩
      rcases retired with thrown | _
      · exact ⟨rfl, nofun⟩
      exact insertNext_obeys (some keyVersion) rfl (by simp [Clean, Except.isOk, Except.toBool]) (by simp)
        rfl (by simp [written, KeyTransaction.after, KeyTransaction.retire])
  have committed : ((rotateIn env call.process call.tenantKeyId transaction).bind fun result =>
      (Keys.perform (.commit transaction)).bind fun _ => .done (.ok result)).Obeys (KeyPermits env call)
      (fun whole outcome => Began whole transaction ∧ ∀ resolved, outcome = .ok resolved → ∃ before wrappedDek,
        Candidate env before wrappedDek resolved.dek ∧
        ⟨.insertIn transaction call.tenantKeyId resolved.keyVersion wrappedDek, .ok ()⟩ ∈ before ∧
        whole = before ++ [⟨.commit transaction, .ok ()⟩]) [⟨.begin, .ok transaction⟩] := by
    refine (callback _ rfl).bind (fun whole thrown ended => ⟨ended.1, nofun⟩) ?_
    rintro whole resolved ⟨began, ended⟩
    obtain ⟨clean, complete, wrappedDek, candidate, inserted⟩ := ended resolved rfl
    refine ⟨⟨began, clean, complete⟩, fun reply => ?_⟩
    rcases reply with thrown | _
    · exact ⟨began.grow (List.prefix_append ..), nofun⟩
    · refine ⟨began.grow (List.prefix_append ..), fun answer equal => ?_⟩
      cases equal
      exact ⟨whole, wrappedDek, candidate, inserted, rfl⟩
  refine committed.handle ?_ ?_
  · intro whole resolved ended answer equal
    cases equal
    obtain ⟨before, wrappedDek, committed⟩ := ended.2 resolved rfl
    exact ⟨before, transaction, wrappedDek, committed⟩
  · rintro whole thrown ⟨began, _⟩
    refine ⟨began, fun reply => ?_⟩
    cases reply <;> exact nofun

end Rules

theorem encryptEmail_obeys (env : CryptoEnv) (process : Nat) (plaintext : String) (tenantId : Option String) :
    (encryptEmail env process plaintext tenantId).Obeys (KeyPermits env (.encryptEmail process plaintext tenantId))
      (fun whole outcome => ∀ encoded, outcome = .ok encoded →
        KeyEnds env (.encryptEmail process plaintext tenantId) whole (.ok (.ciphertext encoded))) [] := by
  have active : (getActiveDek env process tenantId).Obeys
      (KeyPermits env (.encryptEmail process plaintext tenantId)) (fun whole outcome => ∀ resolved,
        outcome = .ok resolved → Resolves env process whole (resolveTenantKeyId tenantId) resolved) [] :=
    @getActiveDek_obeys env (.encryptEmail process plaintext tenantId) tenantId rfl
  refine active.bind (fun _ _ _ => nofun) fun whole resolved resolves => ?_
  unfold encryptWithDek
  cases version : writeUInt16BE resolved.keyVersion with
  | error thrown => exact nofun
  | ok versionPrefix =>
    refine (encryptWithKey_obeys resolved.dek (utf8 plaintext)).bind (fun _ _ _ => nofun) ?_
    rintro later body ⟨grown, made⟩ encoded same
    cases same
    obtain ⟨iv, nonce, rfl⟩ := made body rfl
    exact ⟨resolved, iv, versionPrefix, (resolves resolved rfl).grow grown, version, nonce, rfl⟩

theorem decryptEmail_obeys (env : CryptoEnv) (process : Nat) (encoded : Buffer) (tenantId : Option String) :
    (decryptEmail env process encoded tenantId).Obeys (KeyPermits env (.decryptEmail process encoded tenantId))
      (fun whole outcome => ∀ text, outcome = .ok text →
        KeyEnds env (.decryptEmail process encoded tenantId) whole (.ok (.plaintext text))) [] := by
  unfold decryptEmail
  cases parsed : parseDekCiphertextEnvelope encoded with
  | error thrown => exact nofun
  | ok envelope =>
    have dek : (getDekForVersion env process tenantId envelope.keyVersion).Obeys
        (KeyPermits env (.decryptEmail process encoded tenantId)) (fun whole outcome => ∀ dek, outcome = .ok dek →
          Fetched env process whole (resolveTenantKeyId tenantId) envelope.keyVersion dek) [] :=
      @getDekForVersion_obeys env (.decryptEmail process encoded tenantId) [] tenantId rfl envelope.keyVersion
    refine dek.bind (fun _ _ _ => nofun) fun whole dek fetched text same => ?_
    exact ⟨envelope, dek, parsed, fetched dek rfl, same⟩

theorem keyCall_obeys (env : CryptoEnv) (call : KeyCall) :
    (call.code env).Obeys (KeyPermits env call) (KeyEnds env call) [] := by
  cases call with
  | encryptEmail process plaintext tenantId =>
    exact (encryptEmail_obeys env process plaintext tenantId).bind (fun _ _ _ => trivial)
      fun _ encoded ended => ended encoded rfl
  | decryptEmail process encoded tenantId =>
    exact (decryptEmail_obeys env process encoded tenantId).bind (fun _ _ _ => trivial)
      fun _ text ended => ended text rfl
  | getActiveDek process tenantId =>
    exact Program.Obeys.bind (@getActiveDek_obeys env (.getActiveDek process tenantId) tenantId rfl)
      (fun _ _ _ => trivial) fun _ resolved ended => ended resolved rfl
  | getDekForVersion process tenantId keyVersion =>
    exact Program.Obeys.bind
      (@getDekForVersion_obeys env (.getDekForVersion process tenantId keyVersion) [] tenantId rfl keyVersion)
      (fun _ _ _ => trivial) fun _ dek ended => ended dek rfl
  | rotateTenantKey process tenantId =>
    exact Program.Obeys.bind
      (@rotateTenantKey_obeys env (.rotateTenantKey process tenantId) tenantId rfl ⟨process, tenantId, rfl⟩)
      (fun _ _ _ => trivial) fun _ resolved ended => ended resolved rfl

end GatewayProof
