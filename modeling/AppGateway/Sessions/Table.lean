import AppGateway.Model.Platform
import Mathlib.Data.List.Nodup

namespace GatewayProof

open Async GatewayModel

@[simp] theorem setRevoked_map_id (rows : List RefreshTokenRow) (selects : RefreshTokenRow → Bool)
    (revokedAt : Nat) (reason : String) :
    (setRevoked rows selects revokedAt reason).map (·.id) = rows.map (·.id) := by
  simp only [setRevoked, List.map_map]
  congr 1
  funext row
  simp only [Function.comp_apply]
  split <;> rfl

@[simp] theorem setRevoked_map_tokenHash (rows : List RefreshTokenRow)
    (selects : RefreshTokenRow → Bool) (revokedAt : Nat) (reason : String) :
    (setRevoked rows selects revokedAt reason).map (·.tokenHash) = rows.map (·.tokenHash) := by
  simp only [setRevoked, List.map_map]
  congr 1
  funext row
  simp only [Function.comp_apply]
  split <;> rfl

/-- The constraints of `refresh_tokens`, and that its ids came from the random source. -/
structure TableValid (state : GatewayState) : Prop where
  ids : (state.refreshTokens.map (·.id)).Nodup
  hashes : (state.refreshTokens.map (·.tokenHash)).Nodup
  drawn : ∀ row ∈ state.refreshTokens, row.id ∈ state.drawn
  users : ∀ row ∈ state.refreshTokens, ∃ user ∈ state.users, user.id = row.userId

/-- A later version of the same row: only revocation changes it, and never takes a revocation back. -/
structure Later (row later : RefreshTokenRow) : Prop where
  id : later.id = row.id
  userId : later.userId = row.userId
  tokenHash : later.tokenHash = row.tokenHash
  sessionFamily : later.sessionFamily = row.sessionFamily
  issuedAt : later.issuedAt = row.issuedAt
  expiresAt : later.expiresAt = row.expiresAt
  revoked : row.revokedAt.isSome → later.revokedAt.isSome

theorem Later.refl (row : RefreshTokenRow) : Later row row := ⟨rfl, rfl, rfl, rfl, rfl, rfl, fun revoked => revoked⟩

theorem Later.trans {first second third : RefreshTokenRow} (before : Later first second)
    (after : Later second third) : Later first third where
  id := after.id.trans before.id
  userId := after.userId.trans before.userId
  tokenHash := after.tokenHash.trans before.tokenHash
  sessionFamily := after.sessionFamily.trans before.sessionFamily
  issuedAt := after.issuedAt.trans before.issuedAt
  expiresAt := after.expiresAt.trans before.expiresAt
  revoked := fun revoked => after.revoked (before.revoked revoked)

def Persists (state : GatewayState) (row : RefreshTokenRow) : Prop :=
  ∃ later ∈ state.refreshTokens, Later row later

structure Grows (before after : GatewayState) : Prop where
  rows : ∀ row ∈ before.refreshTokens, Persists after row
  drawn : before.drawn ⊆ after.drawn
  clock : before.clock ≤ after.clock

theorem Grows.refl (state : GatewayState) : Grows state state :=
  ⟨fun row member => ⟨row, member, .refl row⟩, fun _ member => member, Nat.le_refl _⟩

theorem Persists.grow {before after : GatewayState} {row : RefreshTokenRow}
    (persists : Persists before row) (growth : Grows before after) : Persists after row := by
  obtain ⟨middle, member, later⟩ := persists
  obtain ⟨last, stored, latest⟩ := growth.rows middle member
  exact ⟨last, stored, later.trans latest⟩

theorem TableValid.same_id {state : GatewayState} (valid : TableValid state)
    {row other : RefreshTokenRow} (member : row ∈ state.refreshTokens)
    (stored : other ∈ state.refreshTokens) (same : row.id = other.id) : row = other :=
  List.inj_on_of_nodup_map valid.ids member stored same

theorem TableValid.same_hash {state : GatewayState} (valid : TableValid state)
    {row other : RefreshTokenRow} (member : row ∈ state.refreshTokens)
    (stored : other ∈ state.refreshTokens) (same : row.tokenHash = other.tokenHash) : row = other :=
  List.inj_on_of_nodup_map valid.hashes member stored same

theorem later_setRevoked (selects : RefreshTokenRow → Bool) (revokedAt : Nat) (reason : String)
    (row : RefreshTokenRow) :
    Later row (if selects row then
      { row with revokedAt := some revokedAt, revocationReason := some reason } else row) := by
  split
  · exact ⟨rfl, rfl, rfl, rfl, rfl, rfl, fun _ => rfl⟩
  · exact .refl row

theorem mem_setRevoked {rows : List RefreshTokenRow} {selects : RefreshTokenRow → Bool}
    {revokedAt : Nat} {reason : String} {later : RefreshTokenRow} :
    later ∈ setRevoked rows selects revokedAt reason ↔ ∃ row ∈ rows,
      (if selects row then
        { row with revokedAt := some revokedAt, revocationReason := some reason } else row) = later := by
  simp only [setRevoked, List.mem_map]

theorem later_of_mem_setRevoked {rows : List RefreshTokenRow} {selects : RefreshTokenRow → Bool}
    {revokedAt : Nat} {reason : String} {later : RefreshTokenRow}
    (member : later ∈ setRevoked rows selects revokedAt reason) : ∃ row ∈ rows, Later row later := by
  obtain ⟨row, stored, rfl⟩ := mem_setRevoked.mp member
  exact ⟨row, stored, later_setRevoked selects revokedAt reason row⟩

theorem setRevoked_later {rows : List RefreshTokenRow} (selects : RefreshTokenRow → Bool)
    (revokedAt : Nat) (reason : String) {row : RefreshTokenRow} (member : row ∈ rows) :
    ∃ later ∈ setRevoked rows selects revokedAt reason, Later row later :=
  ⟨_, mem_setRevoked.mpr ⟨row, member, rfl⟩, later_setRevoked selects revokedAt reason row⟩

theorem setRevoked_grows (state : GatewayState) (selects : RefreshTokenRow → Bool) (revokedAt : Nat)
    (reason : String) : Grows state (state.updateRevoked selects revokedAt reason) :=
  ⟨fun _ member => setRevoked_later selects revokedAt reason member, fun _ member => member, Nat.le_refl _⟩

/-- Everything one effect can do to the table, with what it leaves alone. -/
inductive TableStep (before after : GatewayState) : Effect → Prop where
  | keep (effect) (rows : after.refreshTokens = before.refreshTokens)
      (drawn : before.drawn ⊆ after.drawn) (clock : after.clock = before.clock)
      (users : after.users.map (·.id) = before.users.map (·.id)) :
      TableStep before after effect
  | revokeById (id : String) (revokedAt : Nat) (reason : String)
      (same : after = before.updateRevoked (·.id = id) revokedAt reason) :
      TableStep before after (.updateRevokedById id revokedAt reason)
  | revokeByFamily (sessionFamily : String) (revokedAt : Nat) (reason : String)
      (same : after = before.updateRevoked
        (fun row => row.sessionFamily = sessionFamily ∧ row.revokedAt = none) revokedAt reason) :
      TableStep before after (.updateRevokedByFamily sessionFamily revokedAt reason)
  | insert (values : NewRefreshToken) (id : String) (fresh : id ∉ before.drawn)
      (unique : ∀ row ∈ before.refreshTokens, row.tokenHash ≠ values.tokenHash)
      (user : ∃ user ∈ before.users, user.id = values.userId)
      (same : after = { before with
        refreshTokens := before.refreshTokens ++ [values.row id before.clock]
        drawn := id :: before.drawn }) :
      TableStep before after (.insertRefreshToken values)

theorem TableStep.refl (state : GatewayState) (effect : Effect) : TableStep state state effect :=
  .keep effect rfl (fun _ member => member) rfl rfl

theorem insert_tableStep (state : GatewayState) (values : NewRefreshToken) (id : String)
    (fresh : id ∉ state.drawn) :
    TableStep state (state.insert values id).2 (.insertRefreshToken values) := by
  unfold GatewayState.insert
  split
  · rename_i user
    split
    · exact .refl state _
    · rename_i unique
      refine .insert values id fresh ?_ (by simpa using user) rfl
      simpa using unique
  · exact .refl state _

theorem respond_tableStep {env : Env} {choice : Choice} {before after : GatewayState} {effect : Effect}
    {reply : Except Thrown effect.Reply}
    (responded : respond env choice before effect = some (reply, after)) :
    TableStep before after effect := by
  cases effect with
  | selectRefreshTokenByHash tokenHash => cases responded; exact .refl before _
  | selectActiveByFamily sessionFamily => cases responded; exact .refl before _
  | selectLatestActiveByUser userId =>
    simp only [respond] at responded
    split at responded
    · cases responded; exact .refl before _
    · obtain ⟨row, _, same⟩ := Option.map_eq_some_iff.mp responded
      cases same
      exact .refl before _
  | updateRevokedById id revokedAt reason => cases responded; exact .revokeById id revokedAt reason rfl
  | updateRevokedByFamily family revokedAt reason =>
    cases responded
    exact .revokeByFamily family revokedAt reason rfl
  | insertRefreshToken values =>
    simp only [respond] at responded
    split at responded
    · cases responded
    · rename_i fresh
      have step := insert_tableStep before values choice.random fresh
      have same : (before.insert values choice.random).2 = after :=
        congrArg Prod.snd (Option.some.inj responded)
      rwa [same] at step
  | selectUserByEmailHash emailHash => cases responded; exact .refl before _
  | selectUserById id => cases responded; exact .refl before _
  | updateLastLogin id lastLoginAt updatedAt =>
    cases responded
    refine .keep _ rfl (fun _ member => member) rfl ?_
    simp only [List.map_map]
    congr 1
    funext user
    simp only [Function.comp_apply]
    split <;> rfl
  | insertAuditLog entry => cases responded; exact .keep _ rfl (fun _ member => member) rfl rfl
  | decryptEmail encoded tenantId =>
    simp only [respond] at responded
    split at responded <;> cases responded <;> exact .refl before _
  | redisGet key => cases responded; exact .refl before _
  | redisSet key value ttl => cases responded; exact .keep _ rfl (fun _ member => member) rfl rfl
  | redisSetNx key value ttl => cases responded; exact .keep _ rfl (fun _ member => member) rfl rfl
  | redisDel key => cases responded; exact .keep _ rfl (fun _ member => member) rfl rfl
  | loadSigningKeys => cases responded; exact .refl before _
  | dateNow => cases responded; exact .refl before _
  | sleepUntil wakeAt =>
    simp only [respond] at responded
    split at responded <;> cases responded
    exact .refl before _
  | randomString =>
    simp only [respond] at responded
    split at responded <;> cases responded
    exact .keep _ rfl (fun _ member => List.mem_cons_of_mem _ member) rfl rfl

theorem exec_tableStep {env : Env} {choice : Choice} {before after : GatewayState} {effect : Effect}
    {reply : Except Thrown effect.Reply}
    (executed : exec env effect choice before = some (reply, after)) : TableStep before after effect := by
  unfold exec at executed
  split at executed
  · exact respond_tableStep executed
  · split at executed <;> cases executed
    exact .refl before effect
  · split at executed
    · cases executed
    · obtain ⟨⟨answer, state⟩, responded, same⟩ := Option.map_eq_some_iff.mp executed
      cases same
      exact respond_tableStep responded

theorem TableStep.clock {before after : GatewayState} {effect : Effect}
    (step : TableStep before after effect) : after.clock = before.clock := by
  cases step with
  | keep _ rows drawn clock => exact clock
  | revokeById id revokedAt reason same => rw [same]; rfl
  | revokeByFamily family revokedAt reason same => rw [same]; rfl
  | insert values id fresh unique user same => rw [same]

theorem TableStep.grows {before after : GatewayState} {effect : Effect}
    (step : TableStep before after effect) : Grows before after := by
  cases step with
  | keep _ rows drawn clock =>
    exact ⟨fun row member => ⟨row, rows ▸ member, .refl row⟩, drawn, Nat.le_of_eq clock.symm⟩
  | revokeById id revokedAt reason same => subst same; exact setRevoked_grows _ _ _ _
  | revokeByFamily family revokedAt reason same => subst same; exact setRevoked_grows _ _ _ _
  | insert values id fresh unique user same =>
    subst same
    exact ⟨fun row member => ⟨row, List.mem_append_left _ member, .refl row⟩,
      fun _ member => List.mem_cons_of_mem _ member, Nat.le_refl _⟩

theorem TableStep.row_cases {before after : GatewayState} {effect : Effect} {row : RefreshTokenRow}
    (step : TableStep before after effect) (member : row ∈ after.refreshTokens) :
    (∃ old ∈ before.refreshTokens, Later old row) ∨
    (∃ values id, effect = .insertRefreshToken values ∧ row = values.row id before.clock ∧
      id ∉ before.drawn ∧ ∀ other ∈ before.refreshTokens, other.tokenHash ≠ values.tokenHash) := by
  cases step with
  | keep _ rows drawn clock users => exact .inl ⟨row, rows ▸ member, .refl row⟩
  | revokeById id revokedAt reason same =>
    subst same
    exact .inl (later_of_mem_setRevoked member)
  | revokeByFamily family revokedAt reason same =>
    subst same
    exact .inl (later_of_mem_setRevoked member)
  | insert values id fresh unique user same =>
    subst same
    rcases List.mem_append.mp member with stored | inserted
    · exact .inl ⟨row, stored, .refl row⟩
    · exact .inr ⟨values, id, rfl, List.mem_singleton.mp inserted, fresh, unique⟩

def Revoked (state : GatewayState) (id : String) : Prop :=
  ∃ row ∈ state.refreshTokens, row.id = id ∧ row.revokedAt.isSome

theorem Revoked.grow {before after : GatewayState} {id : String} (revoked : Revoked before id)
    (growth : Grows before after) : Revoked after id := by
  obtain ⟨row, member, rfl, gone⟩ := revoked
  obtain ⟨last, stored, later⟩ := growth.rows row member
  exact ⟨last, stored, later.id, later.revoked gone⟩

theorem user_of_ids {before after : List UserRow} (same : after.map (·.id) = before.map (·.id))
    {userId : String} (found : ∃ user ∈ before, user.id = userId) :
    ∃ user ∈ after, user.id = userId := by
  obtain ⟨user, member, rfl⟩ := found
  have kept : user.id ∈ after.map (·.id) := same ▸ List.mem_map_of_mem member
  obtain ⟨later, stored, equal⟩ := List.mem_map.mp kept
  exact ⟨later, stored, equal⟩

theorem TableValid.updateRevoked {state : GatewayState} (valid : TableValid state)
    (selects : RefreshTokenRow → Bool) (revokedAt : Nat) (reason : String) :
    TableValid (state.updateRevoked selects revokedAt reason) where
  ids := by simpa only [GatewayState.updateRevoked, setRevoked_map_id] using valid.ids
  hashes := by simpa only [GatewayState.updateRevoked, setRevoked_map_tokenHash] using valid.hashes
  drawn := by
    intro later member
    obtain ⟨row, stored, version⟩ := later_of_mem_setRevoked member
    rw [version.id]
    exact valid.drawn row stored
  users := by
    intro later member
    obtain ⟨row, stored, version⟩ := later_of_mem_setRevoked member
    rw [version.userId]
    exact valid.users row stored

theorem TableValid.step {before after : GatewayState} {effect : Effect} (valid : TableValid before)
    (step : TableStep before after effect) : TableValid after := by
  cases step with
  | keep _ rows drawn clock users =>
    exact ⟨rows ▸ valid.ids, rows ▸ valid.hashes,
      fun row member => drawn (valid.drawn row (rows ▸ member)),
      fun row member => user_of_ids users (valid.users row (rows ▸ member))⟩
  | revokeById id revokedAt reason same => subst same; exact valid.updateRevoked _ _ _
  | revokeByFamily family revokedAt reason same => subst same; exact valid.updateRevoked _ _ _
  | insert values id fresh unique user same =>
    subst same
    constructor
    · have unused : id ∉ before.refreshTokens.map (·.id) := by
        intro member
        obtain ⟨row, stored, rfl⟩ := List.mem_map.mp member
        exact fresh (valid.drawn row stored)
      simpa [List.nodup_append, NewRefreshToken.row] using
        ⟨valid.ids, fun row member same => unused (List.mem_map.mpr ⟨row, member, same⟩)⟩
    · simpa [List.nodup_append, NewRefreshToken.row] using ⟨valid.hashes, unique⟩
    · intro row member
      rcases List.mem_append.mp member with member | member
      · exact List.mem_cons_of_mem _ (valid.drawn row member)
      · obtain rfl := List.mem_singleton.mp member
        exact List.mem_cons_self ..
    · intro row member
      rcases List.mem_append.mp member with member | member
      · exact valid.users row member
      · obtain rfl := List.mem_singleton.mp member
        exact user

theorem external_ids (event : External) (state : GatewayState) :
    (external event state).users.map (·.id) = state.users.map (·.id) := by
  cases event with
  | elapse ms => rfl
  | setActive userId isActive =>
    simp only [external, List.map_map]
    congr 1
    funext user
    simp only [Function.comp_apply]
    split <;> rfl

theorem external_refreshTokens (event : External) (state : GatewayState) :
    (external event state).refreshTokens = state.refreshTokens := by cases event <;> rfl

theorem external_drawn (event : External) (state : GatewayState) :
    (external event state).drawn = state.drawn := by cases event <;> rfl

theorem external_grows (event : External) (state : GatewayState) :
    Grows state (external event state) where
  rows := fun row member => ⟨row, (external_refreshTokens event state).symm ▸ member, .refl row⟩
  drawn := fun _ member => (external_drawn event state).symm ▸ member
  clock := by cases event <;> simp [external]

theorem TableValid.external {state : GatewayState} (valid : TableValid state) (event : External) :
    TableValid (external event state) := by
  have rows := external_refreshTokens event state
  exact ⟨rows ▸ valid.ids, rows ▸ valid.hashes,
    fun row member => (external_drawn event state).symm ▸ valid.drawn row (rows ▸ member),
    fun row member => user_of_ids (external_ids event state) (valid.users row (rows ▸ member))⟩

end GatewayProof
