import AppGateway.Async.Faults
import AppGateway.Sessions.Calls

namespace GatewayProof

open Async GatewayModel

def ReadToken (past : List SessionEvent) (tokenHash : String) (row : RefreshTokenRow) : Prop :=
  ⟨.selectRefreshTokenByHash tokenHash, .ok (some row)⟩ ∈ past ∨
    tokenHash = row.tokenHash ∧ ∃ userId, ⟨.selectLatestActiveByUser userId, .ok (some row)⟩ ∈ past

def ReadFamily (past : List SessionEvent) (sessionFamily : String) (rows : List RefreshTokenRow) : Prop :=
  ⟨.selectActiveByFamily sessionFamily, .ok rows⟩ ∈ past

def UpdatedFamily (past : List SessionEvent) (sessionFamily : String) : Prop :=
  ∃ revokedAt reason, ⟨.updateRevokedByFamily sessionFamily revokedAt reason, .ok ()⟩ ∈ past

def UpdatedRow (past : List SessionEvent) (id : String) : Prop :=
  ∃ revokedAt reason, ⟨.updateRevokedById id revokedAt reason, .ok ()⟩ ∈ past

def Struck (past : List SessionEvent) (tokenHash : String) (row : RefreshTokenRow) : Prop :=
  ReadToken past tokenHash row ∧ UpdatedRow past row.id ∨
    tokenHash = row.tokenHash ∧ ∃ family rows, ReadFamily past family rows ∧ row ∈ rows ∧ UpdatedFamily past family

def MirrorWritten (past : List SessionEvent) (tokenHash : String) (expiresAt : Nat) : Prop :=
  (∃ ttlSeconds, ⟨.redisSet (.revokedRefresh tokenHash) .flag ttlSeconds, .ok ()⟩ ∈ past) ∨
    ∃ now, ⟨.dateNow, .ok now⟩ ∈ past ∧ expiresAt ≤ now

def Updates : Effect → Prop
  | .updateRevokedById .. | .updateRevokedByFamily .. => True
  | _ => False

def Uninvolved : Effect → Prop
  | .selectRefreshTokenByHash _ | .selectLatestActiveByUser _ | .selectActiveByFamily _ => False
  | effect => ¬ Updates effect

def Inserts (effect : Effect) : Prop := ∃ values, effect = .insertRefreshToken values

/-- What the revocations may do: read, then revoke what was read, then mirror what was revoked. -/
def MirrorPermits (past : List SessionEvent) : Effect → Prop
  | .selectRefreshTokenByHash _ | .selectLatestActiveByUser _ | .selectActiveByFamily _ =>
    ∀ event ∈ past, ¬ Updates event.op
  | .updateRevokedById id _ _ => ∃ tokenHash row, ReadToken past tokenHash row ∧ row.id = id
  | .redisSet key value ttl => ∃ tokenHash row now, Struck past tokenHash row ∧ ⟨.dateNow, .ok now⟩ ∈ past ∧
      key = .revokedRefresh tokenHash ∧ value = .flag ∧ ttl = ttlSeconds row.expiresAt now
  | .redisSetNx .. | .redisDel _ | .decryptEmail .. => False
  | _ => True

def MirrorsStruck (past : List SessionEvent) : Prop :=
  Faultless Inserts past → ∀ tokenHash row, Struck past tokenHash row → MirrorWritten past tokenHash row.expiresAt

def Adds (past whole : List SessionEvent) : Prop :=
  ∃ events, whole = past ++ events ∧ ∀ event ∈ events, Uninvolved event.op

section Growth

variable {past before whole : List SessionEvent} {tokenHash : String} {row : RefreshTokenRow}

theorem Adds.refl (past : List SessionEvent) : Adds past past := ⟨[], by simp, by simp⟩

theorem Adds.trans (first : Adds past before) (last : Adds before whole) : Adds past whole := by
  obtain ⟨events, rfl, only⟩ := first
  obtain ⟨events', rfl, only'⟩ := last
  refine ⟨events ++ events', by simp, fun event member => ?_⟩
  rcases List.mem_append.mp member with earlier | later
  · exact only event earlier
  · exact only' event later

theorem Adds.grown (adds : Adds past whole) : past ⊆ whole := by
  obtain ⟨events, rfl, _⟩ := adds
  exact List.subset_append_left past events

theorem ReadToken.grow (fetched : ReadToken past tokenHash row)
    (grown : past ⊆ whole) : ReadToken whole tokenHash row := by
  rcases fetched with byHash | ⟨same, userId, latest⟩
  · exact .inl (grown byHash)
  · exact .inr ⟨same, userId, grown latest⟩

theorem Struck.grow (struck : Struck past tokenHash row) (grown : past ⊆ whole) : Struck whole tokenHash row := by
  rcases struck with ⟨fetched, revokedAt, reason, update⟩ |
    ⟨same, family, rows, fetched, listed, revokedAt, reason, update⟩
  · exact .inl ⟨fetched.grow grown, revokedAt, reason, grown update⟩
  · exact .inr ⟨same, family, rows, grown fetched, listed, revokedAt, reason, grown update⟩

theorem MirrorWritten.grow {expiresAt : Nat} (written : MirrorWritten past tokenHash expiresAt) (grown : past ⊆ whole) :
    MirrorWritten whole tokenHash expiresAt := by
  rcases written with ⟨ttl, set⟩ | ⟨now, read, expired⟩
  · exact .inl ⟨ttl, grown set⟩
  · exact .inr ⟨now, grown read, expired⟩

theorem Struck.of_adds (struck : Struck whole tokenHash row) (adds : Adds past whole) : Struck past tokenHash row := by
  obtain ⟨events, rfl, only⟩ := adds
  have earlier : ∀ {event : SessionEvent}, event ∈ past ++ events → ¬ Uninvolved event.op → event ∈ past := by
    intro event member involved
    rcases List.mem_append.mp member with before | later
    · exact before
    · exact absurd (only event later) involved
  rcases struck with ⟨fetched, revokedAt, reason, update⟩ |
    ⟨same, family, rows, fetched, listed, revokedAt, reason, update⟩
  · refine .inl ⟨?_, revokedAt, reason, earlier update (by simp [Uninvolved, Updates])⟩
    rcases fetched with byHash | ⟨same, userId, latest⟩
    · exact .inl (earlier byHash (by simp [Uninvolved]))
    · exact .inr ⟨same, userId, earlier latest (by simp [Uninvolved])⟩
  · exact .inr ⟨same, family, rows, earlier fetched (by simp [Uninvolved]), listed, revokedAt, reason,
      earlier update (by simp [Uninvolved, Updates])⟩

theorem MirrorsStruck.adds (mirrors : MirrorsStruck past) (adds : Adds past whole) : MirrorsStruck whole := by
  intro faultless tokenHash row struck
  exact (mirrors (faultless.earlier adds.grown) tokenHash row (struck.of_adds adds)).grow adds.grown

theorem mirrorsStruck_idle (idle : ∀ event ∈ past, ¬ Updates event.op) : MirrorsStruck past := by
  intro _ tokenHash row struck
  rcases struck with ⟨_, revokedAt, reason, update⟩ | ⟨_, _, _, _, _, revokedAt, reason, update⟩
  · exact absurd trivial (idle _ update)
  · exact absurd trivial (idle _ update)

end Growth

section Rules

variable {env : Env} {past : List SessionEvent}

theorem cacheRefreshTokenRevocation_mirrors {tokenHash : String} {row : RefreshTokenRow}
    (struck : Struck past tokenHash row) :
    (cacheRefreshTokenRevocation tokenHash row.expiresAt).Obeys MirrorPermits (fun whole _ => Adds past whole ∧
      (Faultless Inserts whole → MirrorWritten whole tokenHash row.expiresAt)) past := by
  refine ⟨trivial, fun clock => ?_⟩
  cases clock with
  | error thrown =>
    refine ⟨⟨[⟨.dateNow, .error thrown⟩], rfl, by simp [Uninvolved, Updates]⟩, fun faultless => ?_⟩
    exact absurd faultless (not_faultless (by simp [Inserts]))
  | ok now =>
    simp only [Program.pure_eq, Program.done_ok_bind]
    split
    · rename_i spent
      refine ⟨⟨[⟨.dateNow, .ok now⟩], rfl, by simp [Uninvolved, Updates]⟩, fun _ => .inr ⟨now, by simp, ?_⟩⟩
      exact ttlSeconds_zero.mp spent
    · refine ⟨⟨tokenHash, row, now, struck.grow (by simp), by simp, rfl, rfl, rfl⟩, fun stored => ?_⟩
      have adds : Adds past (past ++ [⟨.dateNow, .ok now⟩] ++
          [⟨.redisSet (.revokedRefresh tokenHash) .flag (ttlSeconds row.expiresAt now), stored⟩]) :=
        ⟨[⟨.dateNow, .ok now⟩, ⟨.redisSet (.revokedRefresh tokenHash) .flag (ttlSeconds row.expiresAt now), stored⟩],
          by simp, by simp [Uninvolved, Updates]⟩
      refine ⟨adds, fun faultless => ?_⟩
      cases stored with
      | error thrown => exact absurd faultless (not_faultless (by simp [Inserts]))
      | ok done => exact .inl ⟨_, List.mem_append_right _ (List.mem_singleton_self _)⟩

structure HasRead (past : List SessionEvent) (tokenHash : String) (row : RefreshTokenRow) : Prop where
  read : ReadToken past tokenHash row
  only : ∀ other later, ReadToken past other later → other = tokenHash ∧ later = row
  noFamily : ∀ family rows, ¬ ReadFamily past family rows
  idle : ∀ event ∈ past, ¬ Updates event.op

theorem HasRead.snoc {tokenHash : String} {row : RefreshTokenRow} {event : SessionEvent}
    (read : HasRead past tokenHash row) (uninvolved : Uninvolved event.op) :
    HasRead (past ++ [event]) tokenHash row := by
  have earlier : ∀ {other : SessionEvent}, other ∈ past ++ [event] → ¬ Uninvolved other.op → other ∈ past := by
    intro other member involved
    rcases List.mem_append.mp member with before | last
    · exact before
    · rw [List.mem_singleton.mp last] at involved
      exact absurd uninvolved involved
  have quiet : ¬ Updates event.op := by
    intro updates
    cases event with
    | mk op reply => cases op <;> first | exact updates.elim | exact uninvolved updates
  constructor
  · exact read.read.grow (by simp)
  · intro other later seen
    refine read.only other later ?_
    rcases seen with byHash | ⟨same, userId, latest⟩
    · exact .inl (earlier byHash (by simp [Uninvolved]))
    · exact .inr ⟨same, userId, earlier latest (by simp [Uninvolved])⟩
  · intro family rows seen
    exact read.noFamily family rows (earlier seen (by simp [Uninvolved]))
  · intro other member
    rcases List.mem_append.mp member with before | last
    · exact read.idle other before
    · rw [List.mem_singleton.mp last]
      exact quiet

theorem revokeRow_mirrors {tokenHash : String} {row : RefreshTokenRow} (reason : String)
    (read : HasRead past tokenHash row) :
    (Gateway.dateNow >>= fun now => Gateway.updateRevokedById row.id now reason >>= fun _ =>
      cacheRefreshTokenRevocation tokenHash row.expiresAt).Obeys MirrorPermits (fun whole _ => MirrorsStruck whole)
      past := by
  refine ⟨trivial, fun clock => ?_⟩
  have later : HasRead (past ++ [⟨.dateNow, clock⟩]) tokenHash row := read.snoc (by simp [Uninvolved, Updates])
  cases clock with
  | error thrown => exact mirrorsStruck_idle later.idle
  | ok now =>
    refine ⟨⟨tokenHash, row, later.read, rfl⟩, fun updated => ?_⟩
    cases updated with
    | error thrown =>
      intro faultless
      exact absurd faultless (not_faultless (by simp [Inserts]))
    | ok done =>
      have struck : Struck (past ++ [⟨.dateNow, .ok now⟩] ++ [⟨.updateRevokedById row.id now reason, .ok done⟩])
          tokenHash row := .inl ⟨later.read.grow (by simp), now, reason, by simp⟩
      refine (cacheRefreshTokenRevocation_mirrors struck).weaken (fun _ _ permit => permit) ?_
      rintro whole outcome ⟨adds, written⟩ faultless other revoked gone
      rcases gone.of_adds adds with ⟨seen, _⟩ | ⟨_, family, rows, seen, _⟩
      · have here : ReadToken (past ++ [⟨.dateNow, .ok now⟩]) other revoked := by
          rcases seen with byHash | ⟨same, userId, latest⟩
          · exact .inl (by simpa using byHash)
          · exact .inr ⟨same, userId, by simpa using latest⟩
        obtain ⟨rfl, rfl⟩ := later.only other revoked here
        exact written faultless
      · exact absurd (by simpa [ReadFamily] using seen) (later.noFamily family rows)

theorem mirrors_written {rows : List RefreshTokenRow} (struck : ∀ row ∈ rows, Struck past row.tokenHash row) :
    (Program.all (rows.map fun row => cacheRefreshTokenRevocation row.tokenHash row.expiresAt)).Obeys MirrorPermits
      (fun whole _ => Adds past whole ∧ ∀ row ∈ rows, Faultless Inserts whole →
        MirrorWritten whole row.tokenHash row.expiresAt) past := by
  have kept : ∀ (row : RefreshTokenRow) (before whole : List SessionEvent), Adds before whole →
      (Faultless Inserts before → MirrorWritten before row.tokenHash row.expiresAt) → Faultless Inserts whole →
      MirrorWritten whole row.tokenHash row.expiresAt := by
    intro row before whole adds written faultless
    exact (written (faultless.earlier adds.grown)).grow adds.grown
  refine Program.Obeys.all Adds.refl (fun _ _ _ => Adds.trans) kept fun row member before adds => ?_
  exact cacheRefreshTokenRevocation_mirrors ((struck row member).grow adds.grown)

theorem revokeSessionFamily_mirrors (sessionFamily reason : String)
    (noFamily : ∀ family rows, ¬ ReadFamily past family rows)
    (idle : ∀ event ∈ past, ¬ Updates event.op) :
    (revokeSessionFamily sessionFamily reason).Obeys MirrorPermits (fun whole _ => MirrorsStruck whole) past := by
  refine ⟨idle, fun selected => ?_⟩
  have still : ∀ event ∈ past ++ [⟨.selectActiveByFamily sessionFamily, selected⟩], ¬ Updates event.op := by
    intro event member
    rcases List.mem_append.mp member with before | last
    · exact idle event before
    · rw [List.mem_singleton.mp last]
      exact fun updates => updates
  cases selected with
  | error thrown => exact mirrorsStruck_idle still
  | ok rows =>
    simp only [Program.done_ok_bind]
    split
    · exact mirrorsStruck_idle still
    refine ⟨trivial, fun clock => ?_⟩
    cases clock with
    | error thrown =>
      intro faultless
      exact absurd faultless (not_faultless (by simp [Inserts]))
    | ok now =>
      refine ⟨trivial, fun updated => ?_⟩
      cases updated with
      | error thrown =>
        intro faultless
        exact absurd faultless (not_faultless (by simp [Inserts]))
      | ok done =>
        have read : ReadFamily (past ++ [⟨.selectActiveByFamily sessionFamily, .ok rows⟩] ++ [⟨.dateNow, .ok now⟩] ++
            [⟨.updateRevokedByFamily sessionFamily now reason, .ok done⟩]) sessionFamily rows := by simp [ReadFamily]
        have struck : ∀ row ∈ rows, Struck (past ++ [⟨.selectActiveByFamily sessionFamily, .ok rows⟩] ++
            [⟨.dateNow, .ok now⟩] ++ [⟨.updateRevokedByFamily sessionFamily now reason, .ok done⟩]) row.tokenHash row :=
          fun row member => .inr ⟨rfl, sessionFamily, rows, read, member, now, reason, by simp⟩
        refine (mirrors_written struck).weaken (fun _ _ permit => permit) ?_
        rintro whole outcome ⟨adds, written⟩ faultless other revoked gone
        rcases gone.of_adds adds with ⟨_, revokedAt, reason', update⟩ | ⟨same, family, rows', seen, listed, _⟩
        · have here : ⟨.updateRevokedById revoked.id revokedAt reason', .ok ()⟩ ∈ past := by simpa using update
          exact absurd trivial (idle _ here)
        · have here : ⟨.selectActiveByFamily family, .ok rows'⟩ ∈ past ∨ rows' = rows := by
            simp only [ReadFamily, List.mem_append, List.mem_singleton] at seen
            rcases seen with ((before | select) | clock) | update
            · exact .inl before
            · cases select
              exact .inr rfl
            · cases clock
            · cases update
          rcases here with before | rfl
          · exact absurd before (noFamily family rows')
          · rw [same]
            exact written revoked listed faultless

def Unrelated : Effect → Prop
  | .dateNow | .randomString | .insertRefreshToken _ | .insertAuditLog _ => True
  | _ => False

theorem Unrelated.permitted {effect : Effect} (unrelated : Unrelated effect) (past : List SessionEvent) :
    MirrorPermits past effect := by
  cases effect <;> trivial

theorem Unrelated.uninvolved {effect : Effect} (unrelated : Unrelated effect) : Uninvolved effect := by
  cases effect <;> first | exact unrelated.elim | exact fun updates => updates

theorem mirrors_rest {α : Type} {program : Gateway α} (uses : program.Uses Unrelated) (mirrors : MirrorsStruck past) :
    program.Obeys MirrorPermits (fun whole _ => MirrorsStruck whole) past := by
  refine (uses.obeys fun events effect unrelated => unrelated.permitted _).weaken (fun _ _ permit => permit) ?_
  rintro whole outcome ⟨events, rfl, only⟩
  exact mirrors.adds ⟨events, rfl, fun event member => (only event member).uninvolved⟩

theorem Audits.unrelated {effect : Effect} (audits : Audits effect) : Unrelated effect := by
  obtain ⟨entry, rfl⟩ := audits
  trivial

theorem writeAuditEvent_unrelated (entry : AuditLogEntry) : (writeAuditEvent entry).Uses Unrelated :=
  (writeAuditEvent_uses entry).weaken fun _ audits => audits.unrelated

theorem Issuing.unrelated {effect : Effect} (issuing : Issuing effect) : Unrelated effect := by
  cases effect <;> trivial

theorem issueRefreshToken_unrelated (userId : String) (metadata : RefreshTokenMetadata) (family : Option String) :
    (issueRefreshToken env userId metadata family).Uses Unrelated :=
  (issueRefreshToken_uses userId metadata family).weaken fun _ issuing => issuing.unrelated

theorem rotateRefreshToken_mirrors (plaintextToken : String) (metadata : RefreshTokenMetadata) :
    (rotateRefreshToken env plaintextToken metadata).Obeys MirrorPermits (fun whole _ => MirrorsStruck whole) [] := by
  refine ⟨fun event absent => (List.not_mem_nil absent).elim, fun selected => ?_⟩
  have idle : ∀ event ∈ ([] ++ [⟨.selectRefreshTokenByHash (hashRefreshToken env plaintextToken), selected⟩] :
      List SessionEvent), ¬ Updates event.op := by simp [Updates]
  rcases selected with thrown | found
  · exact mirrorsStruck_idle idle
  rcases found with _ | row
  · exact mirrorsStruck_idle idle
  have read : HasRead ([] ++ [⟨.selectRefreshTokenByHash (hashRefreshToken env plaintextToken), .ok (some row)⟩])
      (hashRefreshToken env plaintextToken) row := by
    refine ⟨.inl (by simp), fun other later seen => ?_, by simp [ReadFamily], idle⟩
    rcases seen with byHash | ⟨_, _, latest⟩
    · cases List.mem_singleton.mp byHash
      exact ⟨rfl, rfl⟩
    · cases List.mem_singleton.mp latest
  generalize ([] ++ [_] : List SessionEvent) = past at read idle ⊢
  simp only [Program.done_ok_bind, Program.bind_eq, Program.pure_eq]
  by_cases revoked : row.revokedAt.isSome
  · simp only [revoked, if_true]
    refine (revokeSessionFamily_mirrors row.sessionFamily "reuse_detected" read.noFamily idle).bind
      (fun _ _ mirrors => mirrors) fun whole _ mirrors => ?_
    exact mirrors_rest ((writeAuditEvent_unrelated _).bind fun _ => trivial) mirrors
  · simp only [revoked, Bool.false_eq_true, if_false]
    refine ⟨trivial, fun clock => ?_⟩
    have later := read.snoc
      (show Uninvolved (Event.op (⟨.dateNow, clock⟩ : SessionEvent)) by simp [Uninvolved, Updates])
    rcases clock with thrown | now
    · exact mirrorsStruck_idle later.idle
    simp only [Program.done_ok_bind]
    split
    · exact mirrorsStruck_idle later.idle
    have rotates : ((Gateway.dateNow >>= fun revokedAt =>
      Gateway.updateRevokedById row.id revokedAt "rotation" >>= fun _ =>
        cacheRefreshTokenRevocation (hashRefreshToken env plaintextToken) row.expiresAt) >>= fun _ =>
          issueRefreshToken env row.userId metadata (some row.sessionFamily) >>= fun issued =>
            (pure (.ok { userId := row.userId, issued }) : Gateway (Except AppError RotationResult))).Obeys
            MirrorPermits
        (fun whole _ => MirrorsStruck whole) (past ++ [⟨.dateNow, .ok now⟩]) := by
      refine (revokeRow_mirrors "rotation" later).bind (fun _ _ mirrors => mirrors) fun whole _ mirrors => ?_
      exact mirrors_rest ((issueRefreshToken_unrelated _ _ _).bind fun _ => trivial) mirrors
    simpa only [replaceToken, Program.bind_eq, Program.bind_assoc, Program.pure_eq] using rotates

theorem revokeRefreshTokenByHash_mirrors (tokenHash reason : String) :
    (revokeRefreshTokenByHash tokenHash reason).Obeys MirrorPermits (fun whole _ => MirrorsStruck whole) [] := by
  refine ⟨fun event absent => (List.not_mem_nil absent).elim, fun selected => ?_⟩
  have idle : ∀ event ∈ ([] ++ [⟨.selectRefreshTokenByHash tokenHash, selected⟩] : List SessionEvent),
      ¬ Updates event.op := by simp [Updates]
  rcases selected with thrown | found
  · exact mirrorsStruck_idle idle
  rcases found with _ | row
  · exact mirrorsStruck_idle idle
  simp only [Program.done_ok_bind]
  split
  · exact mirrorsStruck_idle idle
  · refine revokeRow_mirrors reason ⟨.inl (by simp), fun other later seen => ?_, by simp [ReadFamily], idle⟩
    rcases seen with byHash | ⟨_, _, latest⟩
    · cases List.mem_singleton.mp byHash
      exact ⟨rfl, rfl⟩
    · cases List.mem_singleton.mp latest

theorem revokeMostRecentRefreshTokenForUser_mirrors (userId reason : String) :
    (revokeMostRecentRefreshTokenForUser userId reason).Obeys MirrorPermits
    (fun whole _ => MirrorsStruck whole) [] := by
  refine ⟨fun event absent => (List.not_mem_nil absent).elim, fun selected => ?_⟩
  have idle : ∀ event ∈ ([] ++ [⟨.selectLatestActiveByUser userId, selected⟩] : List SessionEvent),
      ¬ Updates event.op := by simp [Updates]
  rcases selected with thrown | found
  · exact mirrorsStruck_idle idle
  rcases found with _ | row
  · exact mirrorsStruck_idle idle
  · refine revokeRow_mirrors reason ⟨.inr ⟨rfl, userId, by simp⟩, fun other later seen =>
      ?_, by simp [ReadFamily], idle⟩
    rcases seen with byHash | ⟨same, _, latest⟩
    · cases List.mem_singleton.mp byHash
    · cases List.mem_singleton.mp latest
      exact ⟨same, rfl⟩

theorem SessionCall.code_mirrors (call : SessionCall) :
    (call.code env).Obeys MirrorPermits (fun whole _ => MirrorsStruck whole) [] := by
  have nothing : MirrorsStruck [] := mirrorsStruck_idle fun event absent => (List.not_mem_nil absent).elim
  cases call with
  | issue userId metadata =>
    exact mirrors_rest ((issueRefreshToken_unrelated userId metadata none).bind fun _ => trivial) nothing
  | rotate plaintextToken metadata =>
    exact (rotateRefreshToken_mirrors plaintextToken metadata).bind (fun _ _ mirrors => mirrors) fun _ _ mirrors =>
      mirrors
  | revokeFamily sessionFamily reason =>
    have revokes : (revokeSessionFamily sessionFamily reason).Obeys MirrorPermits
      (fun whole _ => MirrorsStruck whole) [] :=
      revokeSessionFamily_mirrors sessionFamily reason (by simp [ReadFamily]) (by simp)
    exact revokes.bind (fun _ _ mirrors => mirrors) fun _ _ mirrors => mirrors
  | revokeByHash tokenHash reason =>
    exact (revokeRefreshTokenByHash_mirrors tokenHash reason).bind (fun _ _ mirrors => mirrors) fun _ _ mirrors =>
      mirrors
  | revokeMostRecent userId reason =>
    exact (revokeMostRecentRefreshTokenForUser_mirrors userId reason).bind (fun _ _ mirrors => mirrors)
      fun _ _ mirrors => mirrors

end Rules

end GatewayProof
