import AppGateway.Model.RefreshTokenService

namespace GatewayProof

open Async GatewayModel

abbrev SessionEvent := Event Effect.Reply Thrown

def Mirrors : Effect → Prop
  | .dateNow | .redisSet (.revokedRefresh _) .flag _ => True
  | _ => False

def Audits (effect : Effect) : Prop := ∃ entry, effect = .insertAuditLog entry

def Incidental : Effect → Prop
  | .dateNow | .randomString | .insertAuditLog _ => True
  | .redisSet (.revokedRefresh _) .flag _ => True
  | _ => False

theorem Mirrors.incidental {effect : Effect} (mirrors : Mirrors effect) : Incidental effect := by
  cases effect with
  | redisSet key value ttl => cases key <;> cases value <;> exact mirrors
  | _ => trivial

theorem Audits.incidental {effect : Effect} (audits : Audits effect) : Incidental effect := by
  obtain ⟨entry, rfl⟩ := audits
  trivial

theorem perform_uses {allows : Effect → Prop} {effect : Effect} (allowed : allows effect) :
    (Gateway.perform effect).Uses allows := ⟨allowed, fun _ => trivial⟩

theorem ttlSeconds_zero {date now : Nat} : ttlSeconds date now = 0 ↔ date ≤ now := by
  unfold ttlSeconds
  omega

theorem ttlSeconds_covers (date now : Nat) : date ≤ now + ttlSeconds date now * 1000 := by
  unfold ttlSeconds
  omega

theorem ttlSecondsUntil_uses (date : Nat) : (ttlSecondsUntil date).Uses Mirrors :=
  ⟨trivial, fun reply => by cases reply <;> trivial⟩

theorem cacheRefreshTokenRevocation_uses (tokenHash : String) (expiresAt : Nat) :
    (cacheRefreshTokenRevocation tokenHash expiresAt).Uses Mirrors := by
  refine (ttlSecondsUntil_uses expiresAt).bind fun ttl => ?_
  split
  · trivial
  · exact ⟨trivial, fun _ => trivial⟩

theorem mirrors_uses (rows : List RefreshTokenRow) :
    (Program.all (rows.map fun row => cacheRefreshTokenRevocation row.tokenHash row.expiresAt)).Uses
      Mirrors := by
  refine Program.Uses.all fun program member => ?_
  obtain ⟨row, _, rfl⟩ := List.mem_map.mp member
  exact cacheRefreshTokenRevocation_uses _ _

theorem writeAuditEvent_uses (entry : AuditLogEntry) : (writeAuditEvent entry).Uses Audits :=
  have insert : (Gateway.insertAuditLog entry).Uses Audits := perform_uses ⟨entry, rfl⟩
  insert.handle fun _ => trivial

theorem writeAuditEvent_incidental (entry : AuditLogEntry) : (writeAuditEvent entry).Uses Incidental :=
  (writeAuditEvent_uses entry).weaken fun _ audits => audits.incidental

theorem cacheRefreshTokenRevocation_incidental (tokenHash : String) (expiresAt : Nat) :
    (cacheRefreshTokenRevocation tokenHash expiresAt).Uses Incidental :=
  (cacheRefreshTokenRevocation_uses tokenHash expiresAt).weaken fun _ mirrors => mirrors.incidental

def Issuing : Effect → Prop
  | .dateNow | .randomString | .insertRefreshToken _ => True
  | _ => False

/-- The effects of the three revocations: they read rows, and revoke one by its id or those of a family. -/
def Revokes : Effect → Prop
  | .selectRefreshTokenByHash _ | .selectLatestActiveByUser _ | .selectActiveByFamily _ => True
  | .updateRevokedById .. | .updateRevokedByFamily .. => True
  | effect => Mirrors effect

theorem Mirrors.revokes {effect : Effect} (mirrors : Mirrors effect) : Revokes effect := by
  cases effect <;> trivial

theorem revokeRow_uses (id reason tokenHash : String) (expiresAt : Nat) :
    (Gateway.dateNow >>= fun now => Gateway.updateRevokedById id now reason >>= fun _ =>
      cacheRefreshTokenRevocation tokenHash expiresAt).Uses Revokes :=
  Program.Uses.bind (perform_uses trivial) fun _ => Program.Uses.bind (perform_uses trivial) fun _ =>
    (cacheRefreshTokenRevocation_uses tokenHash expiresAt).weaken fun _ mirrors => mirrors.revokes

theorem revokeSessionFamily_uses (sessionFamily reason : String) :
    (revokeSessionFamily sessionFamily reason).Uses Revokes := by
  refine Program.Uses.bind (perform_uses trivial) fun rows => ?_
  split
  · trivial
  · exact Program.Uses.bind (perform_uses trivial) fun _ => Program.Uses.bind (perform_uses trivial) fun _ =>
      (mirrors_uses rows).weaken fun _ mirrors => mirrors.revokes

theorem revokeRefreshTokenByHash_uses (tokenHash reason : String) :
    (revokeRefreshTokenByHash tokenHash reason).Uses Revokes := by
  refine Program.Uses.bind (perform_uses trivial) fun found => ?_
  cases found with
  | none => trivial
  | some row =>
    simp only
    split
    · trivial
    · exact revokeRow_uses _ _ _ _

theorem revokeMostRecentRefreshTokenForUser_uses (userId reason : String) :
    (revokeMostRecentRefreshTokenForUser userId reason).Uses Revokes := by
  refine Program.Uses.bind (perform_uses trivial) fun found => ?_
  cases found with
  | none => trivial
  | some row => exact revokeRow_uses _ _ _ _

def Selected (past : List SessionEvent) (tokenHash : String) (row : RefreshTokenRow) : Prop :=
  ⟨.selectRefreshTokenByHash tokenHash, .ok (some row)⟩ ∈ past

def Consumed (past : List SessionEvent) (id : String) : Prop :=
  ∃ revokedAt, ⟨.updateRevokedById id revokedAt "rotation", .ok ()⟩ ∈ past

def Sent (past : List SessionEvent) (values : NewRefreshToken) : Prop :=
  ∃ reply, ⟨.insertRefreshToken values, reply⟩ ∈ past

def Inserted (past : List SessionEvent) (values : NewRefreshToken) : Prop :=
  ⟨.insertRefreshToken values, .ok ()⟩ ∈ past

def Drew (past : List SessionEvent) (value : String) : Prop := ⟨.randomString, .ok value⟩ ∈ past

/-- The family statement after which reuse detection revokes nothing more: the UPDATE, or a SELECT
    that finds no active row. -/
def Closed (past : List SessionEvent) (sessionFamily : String) : Prop :=
  ⟨.selectActiveByFamily sessionFamily, .ok []⟩ ∈ past ∨
    ∃ revokedAt, ⟨.updateRevokedByFamily sessionFamily revokedAt "reuse_detected", .ok ()⟩ ∈ past

section Grow

variable {past whole : List SessionEvent} (grown : past ⊆ whole)
include grown

theorem Selected.grow {tokenHash : String} {row : RefreshTokenRow}
    (selected : Selected past tokenHash row) : Selected whole tokenHash row := grown selected

theorem Consumed.grow {id : String} (consumed : Consumed past id) : Consumed whole id :=
  consumed.imp fun _ member => grown member

theorem Sent.grow {values : NewRefreshToken} (sent : Sent past values) : Sent whole values :=
  sent.imp fun _ member => grown member

theorem Inserted.grow {values : NewRefreshToken} (inserted : Inserted past values) :
    Inserted whole values := grown inserted

theorem Closed.grow {sessionFamily : String} (closed : Closed past sessionFamily) :
    Closed whole sessionFamily :=
  closed.imp (fun member => grown member) fun ⟨at', member⟩ => ⟨at', grown member⟩

end Grow

theorem sent_append {past events : List SessionEvent} {values : NewRefreshToken}
    (others : ∀ event ∈ events, ∀ values, event.op ≠ .insertRefreshToken values)
    (sent : Sent (past ++ events) values) : Sent past values := by
  obtain ⟨reply, member⟩ := sent
  rcases List.mem_append.mp member with member | member
  · exact ⟨reply, member⟩
  · exact absurd rfl (others _ member values)

theorem sent_once {permits : List SessionEvent → Effect → Prop} {past : List SessionEvent}
    (once : ∀ past values, permits past (.insertRefreshToken values) → ∀ other, ¬ Sent past other)
    (lawful : Lawful permits past) {values other : NewRefreshToken}
    (sent : Sent past values) (sent' : Sent past other) : values = other := by
  obtain ⟨reply, member⟩ := sent
  obtain ⟨reply', member'⟩ := sent'
  obtain ⟨before, after, split, permit⟩ := lawful.of_mem member
  have unsent := once before values permit
  rw [split] at member'
  rcases List.mem_append.mp member' with earlier | here
  · exact (unsent other ⟨reply', earlier⟩).elim
  rcases List.mem_cons.mp here with same | later
  · cases same
    rfl
  · obtain ⟨middle, rest, split'⟩ := List.append_of_mem later
    have second := lawful (before ++ ⟨.insertRefreshToken values, reply⟩ :: middle)
      ⟨.insertRefreshToken other, reply'⟩ rest (by rw [split, split']; simp)
    exact (once _ other second values ⟨reply, by simp⟩).elim

theorem Incidental.not_insert {effect : Effect} (incidental : Incidental effect)
    (values : NewRefreshToken) : effect ≠ .insertRefreshToken values := by
  rintro rfl
  exact incidental

def RotatePermits (tokenHash : String) (past : List SessionEvent) : Effect → Prop
  | .selectRefreshTokenByHash hash => hash = tokenHash ∧ past = []
  | .selectActiveByFamily sessionFamily =>
    ∃ row, Selected past tokenHash row ∧ row.revokedAt.isSome ∧ row.sessionFamily = sessionFamily
  | .updateRevokedByFamily sessionFamily _ reason =>
    reason = "reuse_detected" ∧
      ∃ row, Selected past tokenHash row ∧ row.revokedAt.isSome ∧ row.sessionFamily = sessionFamily
  | .updateRevokedById id _ reason =>
    reason = "rotation" ∧ ∃ row, Selected past tokenHash row ∧ row.revokedAt = none ∧ row.id = id
  | .insertRefreshToken values =>
    (∀ other, ¬ Sent past other) ∧
      ∃ row, Selected past tokenHash row ∧ row.revokedAt = none ∧ Consumed past row.id ∧
        values.userId = row.userId ∧ values.sessionFamily = row.sessionFamily
  | effect => Incidental effect

theorem selected_once {tokenHash : String} {past : List SessionEvent}
    (lawful : Lawful (RotatePermits tokenHash) past) {first second : String}
    {row other : RefreshTokenRow} (selected : Selected past first row)
    (selected' : Selected past second other) : row = other := by
  obtain ⟨before, after, split, _, start⟩ := lawful.of_mem selected
  obtain ⟨before', after', split', _, start'⟩ := lawful.of_mem selected'
  rw [split, start, start', List.nil_append, List.nil_append] at split'
  have same := (List.cons.inj split').1
  cases same
  rfl

def RotateEnds (env : Env) (tokenHash : String) (past : List SessionEvent) :
    Except Thrown (Except AppError RotationResult) → Prop
  | .ok (.ok result) =>
    ∃ row values, Selected past tokenHash row ∧ row.revokedAt = none ∧ Consumed past row.id ∧
      Inserted past values ∧ values.tokenHash = env.sha256Hex result.issued.plaintext ∧
      values.sessionFamily = row.sessionFamily ∧ values.userId = row.userId ∧
      result.userId = row.userId ∧ Drew past result.issued.plaintext
  | .ok (.error error) =>
    error.code = "token_reuse_detected" → ∃ row, Selected past tokenHash row ∧
      row.revokedAt.isSome ∧ Closed past row.sessionFamily
  | .error _ => True

/-- Where a new row's family comes from: it is given, or a random draw of this call. -/
def FamilyFrom (past : List SessionEvent) : Option String → String → Prop
  | some family, sessionFamily => sessionFamily = family
  | none, sessionFamily => Drew past sessionFamily

theorem FamilyFrom.grow {past whole : List SessionEvent} (grown : past ⊆ whole)
    {given : Option String} {sessionFamily : String} (from_ : FamilyFrom past given sessionFamily) :
    FamilyFrom whole given sessionFamily := by
  cases given with
  | some family => exact from_
  | none => exact grown from_

def IssueEnds (env : Env) (userId : String) (given : Option String) (past : List SessionEvent) :
    Except Thrown IssuedRefreshToken → Prop
  | .ok issued => ∃ values, Inserted past values ∧
      values.tokenHash = env.sha256Hex issued.plaintext ∧ values.userId = userId ∧
      FamilyFrom past given values.sessionFamily ∧ Drew past issued.plaintext
  | .error _ => True

section Rules

variable {env : Env} {permits : List SessionEvent → Effect → Prop} {past : List SessionEvent}

theorem issueRefreshToken_family_obeys (userId : String) (metadata : RefreshTokenMetadata)
    (family : String)
    (quiet : ∀ events op, (∀ event ∈ events, Incidental event.op) → Incidental op →
      permits (past ++ events) op)
    (insert : ∀ events values, (∀ event ∈ events, Incidental event.op) → values.userId = userId →
      values.sessionFamily = family → permits (past ++ events) (.insertRefreshToken values)) :
    (issueRefreshToken env userId metadata (some family)).Obeys permits
      (fun whole outcome => past ⊆ whole ∧ IssueEnds env userId (some family) whole outcome) past := by
  refine ⟨by simpa using quiet [] .randomString (by simp) trivial, fun drawn => ?_⟩
  cases drawn with
  | error thrown => exact ⟨by simp, trivial⟩
  | ok plaintext =>
    refine ⟨quiet [⟨.randomString, .ok plaintext⟩] _ (by simp [Incidental]) trivial, fun clock => ?_⟩
    cases clock with
    | error thrown => exact ⟨by simp, trivial⟩
    | ok now =>
      rw [List.append_assoc]
      refine ⟨insert _ _ (by simp [Incidental]) rfl rfl, fun stored => ?_⟩
      cases stored with
      | error thrown => exact ⟨by simp, trivial⟩
      | ok done =>
        exact ⟨by simp, _, List.mem_append_right _ (List.mem_singleton.mpr rfl), rfl, rfl, rfl,
          by simp [Drew]⟩

theorem issueRefreshToken_new (userId : String) (metadata : RefreshTokenMetadata) :
    issueRefreshToken env userId metadata none =
      Gateway.randomString >>= fun family => issueRefreshToken env userId metadata (some family) := rfl

theorem issueRefreshToken_uses (userId : String) (metadata : RefreshTokenMetadata) (sessionFamily : Option String) :
    (issueRefreshToken env userId metadata sessionFamily).Uses Issuing := by
  have inFamily : ∀ family, (issueRefreshToken env userId metadata (some family)).Uses Issuing := by
    intro family
    have plaintext : generatePlaintext.Uses Issuing := perform_uses trivial
    have expiry : (secondsFromNow env.refreshTokenTtlSeconds).Uses Issuing :=
      Program.Uses.bind (perform_uses trivial) fun _ => trivial
    exact plaintext.bind fun _ => expiry.bind fun _ => Program.Uses.bind (perform_uses trivial) fun _ => trivial
  cases sessionFamily with
  | some family => exact inFamily family
  | none =>
    rw [issueRefreshToken_new]
    exact Program.Uses.bind (perform_uses trivial) inFamily

theorem revokeSessionFamily_obeys (sessionFamily reason : String)
    (quiet : ∀ events op, Incidental op → permits (past ++ events) op)
    (select : permits past (.selectActiveByFamily sessionFamily))
    (update : ∀ events revokedAt,
      permits (past ++ events) (.updateRevokedByFamily sessionFamily revokedAt reason)) :
    (revokeSessionFamily sessionFamily reason).Obeys permits
      (fun whole outcome => past ⊆ whole ∧ (outcome = .ok () →
        ⟨.selectActiveByFamily sessionFamily, .ok []⟩ ∈ whole ∨
          ∃ revokedAt, ⟨.updateRevokedByFamily sessionFamily revokedAt reason, .ok ()⟩ ∈ whole)) past := by
  refine ⟨select, fun selected => ?_⟩
  cases selected with
  | error thrown => exact ⟨by simp, nofun⟩
  | ok rows =>
    cases rows with
    | nil => exact ⟨by simp, fun _ => .inl (by simp)⟩
    | cons row rows =>
      refine ⟨quiet _ .dateNow trivial, fun clock => ?_⟩
      rw [List.append_assoc]
      cases clock with
      | error thrown => exact ⟨by simp, nofun⟩
      | ok now =>
        refine ⟨update _ now, fun updated => ?_⟩
        rw [List.append_assoc]
        cases updated with
        | error thrown => exact ⟨by simp, nofun⟩
        | ok done =>
          refine ((mirrors_uses (row :: rows)).obeys fun events op allowed => ?_).weaken
            (fun _ _ permit => permit) ?_
          · rw [List.append_assoc]
            exact quiet _ op allowed.incidental
          · rintro whole outcome ⟨events, rfl, _⟩
            exact ⟨by simp, fun _ => .inr ⟨now, by simp⟩⟩

end Rules

theorem RotatePermits.incidental {tokenHash : String} {past : List SessionEvent} {effect : Effect}
    (incidental : Incidental effect) : RotatePermits tokenHash past effect := by
  cases effect <;> first | exact incidental | exact incidental.elim

theorem rotateRefreshToken_obeys (env : Env) (plaintextToken : String)
    (metadata : RefreshTokenMetadata) :
    (rotateRefreshToken env plaintextToken metadata).Obeys (RotatePermits (env.sha256Hex plaintextToken))
      (RotateEnds env (env.sha256Hex plaintextToken)) [] := by
  refine ⟨⟨rfl, rfl⟩, fun selected => ?_⟩
  rcases selected with thrown | found
  · trivial
  rcases found with _ | row
  · exact fun reuse => absurd reuse (by decide)
  have seen : Selected ([] ++ [⟨.selectRefreshTokenByHash (hashRefreshToken env plaintextToken),
      .ok (some row)⟩]) (env.sha256Hex plaintextToken) row := List.mem_singleton.mpr rfl
  have unsent : ∀ values, ¬ Sent ([] ++ [⟨.selectRefreshTokenByHash (hashRefreshToken env plaintextToken),
      .ok (some row)⟩]) values := fun values sent => by simp [Sent] at sent
  generalize ([] ++ [_] : List SessionEvent) = past at seen unsent ⊢
  simp only [Program.done_ok_bind, Program.bind_eq, Program.pure_eq]
  by_cases revoked : row.revokedAt.isSome
  · simp only [revoked, if_true]
    refine (revokeSessionFamily_obeys row.sessionFamily "reuse_detected"
      (fun _ _ incidental => RotatePermits.incidental incidental) ⟨row, seen, revoked, rfl⟩
      (fun events _ => ⟨rfl, row, seen.grow (by simp), revoked, rfl⟩)).bind (fun _ _ _ => trivial) ?_
    rintro whole _ ⟨grown, ended⟩
    have closed : Closed whole row.sessionFamily := ended rfl
    refine ((writeAuditEvent_incidental _).obeys fun _ _ incidental => RotatePermits.incidental incidental).bind
      (fun _ _ _ => trivial) ?_
    rintro _ _ ⟨events, rfl, _⟩
    exact fun _ => ⟨row, (seen.grow grown).grow (by simp), revoked, closed.grow (by simp)⟩
  · simp only [revoked, Bool.false_eq_true, if_false]
    have active : row.revokedAt = none := by simpa using revoked
    refine ⟨trivial, fun clock => ?_⟩
    rcases clock with thrown | now
    · trivial
    simp only [Program.done_ok_bind]
    split
    · exact fun reuse => absurd reuse (by decide)
    refine ⟨trivial, fun clock => ?_⟩
    rcases clock with thrown | revokedAt
    · trivial
    simp only [Program.done_ok_bind]
    refine ⟨⟨rfl, row, seen.grow (by simp), active, rfl⟩, fun updated => ?_⟩
    rcases updated with thrown | done
    · trivial
    simp only [Program.done_ok_bind, List.append_assoc, List.cons_append, List.nil_append]
    refine ((cacheRefreshTokenRevocation_incidental _ _).obeys fun _ _ incidental =>
      RotatePermits.incidental incidental).bind (fun _ _ _ => trivial) ?_
    rintro _ _ ⟨mirror, rfl, quiet⟩
    have consumed : ∀ events, Consumed (past ++ [⟨.dateNow, .ok now⟩, ⟨.dateNow, .ok revokedAt⟩,
        ⟨.updateRevokedById row.id revokedAt "rotation", .ok done⟩] ++ mirror ++ events) row.id :=
      fun events => ⟨revokedAt, by simp⟩
    refine (issueRefreshToken_family_obeys row.userId metadata row.sessionFamily
      (fun _ _ _ incidental => RotatePermits.incidental incidental) ?_).bind (fun _ _ _ => trivial) ?_
    · intro events values only user family
      refine ⟨fun other sent => unsent other ?_, row, seen.grow (by simp), active, consumed _, user, family⟩
      refine sent_append ?_ (by simpa only [List.append_assoc] using sent)
      intro event member
      simp only [List.mem_append, List.mem_cons, List.not_mem_nil, or_false] at member
      rcases member with (rfl | rfl | rfl) | member | member
      · exact fun _ => nofun
      · exact fun _ => nofun
      · exact fun _ => nofun
      · exact (quiet event member).not_insert
      · exact (only event member).not_insert
    · rintro whole issued ⟨grown, values, inserted, hash, user, family, drew⟩
      have before := consumed []
      rw [List.append_nil] at before
      exact ⟨row, values, (seen.grow (by simp)).grow grown, active, before.grow grown, inserted, hash,
        family, user, rfl, drew⟩

end GatewayProof
