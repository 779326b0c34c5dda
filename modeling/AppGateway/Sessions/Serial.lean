import AppGateway.Async.Execution
import AppGateway.Sessions.Histories
import Mathlib.Data.List.MinMax

namespace GatewayProof

open Async GatewayModel
open Async.Program (Completes completes_done completes_await completes_perform)

abbrev Alone {α : Type} (env : Env) (program : Gateway α) :=
  Completes (exec env) (fun choice => choice.fault = .none) program

structure Steady (before after : GatewayState) : Prop where
  clock : after.clock = before.clock
  users : after.users.map (·.id) = before.users.map (·.id)
  drawn : before.drawn ⊆ after.drawn

theorem Steady.refl (state : GatewayState) : Steady state state := ⟨rfl, rfl, fun _ member => member⟩

theorem Steady.trans {before middle after : GatewayState} (first : Steady before middle)
    (last : Steady middle after) : Steady before after where
  clock := last.clock.trans first.clock
  users := last.users.trans first.users
  drawn := fun _ member => last.drawn (first.drawn member)

section Rules

variable {env : Env} {before after : GatewayState}

theorem exec_sound {effect : Effect} {choice : Choice} {reply : Except Thrown effect.Reply}
    (good : choice.fault = .none) (executed : exec env effect choice before = some (reply, after)) :
    respond env choice before effect = some (reply, after) := by
  unfold exec at executed
  rwa [good] at executed

theorem perform_responds {effect : Effect} {outcome : Except Thrown effect.Reply}
    (completes : Alone env (Gateway.perform effect) before outcome after) :
    ∃ choice, respond env choice before effect = some (outcome, after) := by
  obtain ⟨choice, good, executed⟩ := completes_perform.mp completes
  exact ⟨choice, exec_sound good executed⟩

theorem dateNow_alone {now : Nat} (completes : Alone env Gateway.dateNow before (.ok now) after) :
    now = before.clock ∧ after = before := by
  obtain ⟨choice, responded⟩ := perform_responds completes
  cases responded
  exact ⟨rfl, rfl⟩

theorem randomString_alone {value : String}
    (completes : Alone env Gateway.randomString before (.ok value) after) :
    value ∉ before.drawn ∧ after = { before with drawn := value :: before.drawn } := by
  obtain ⟨choice, responded⟩ := perform_responds completes
  simp only [respond] at responded
  split at responded
  · cases responded
  · rename_i fresh
    cases responded
    exact ⟨fresh, rfl⟩

theorem insert_alone {values : NewRefreshToken}
    (completes : Alone env (Gateway.insertRefreshToken values) before (.ok ()) after) :
    ∃ id, id ∉ before.drawn ∧ (∀ row ∈ before.refreshTokens, row.tokenHash ≠ values.tokenHash) ∧
      after = { before with refreshTokens := before.refreshTokens ++ [values.row id before.clock]
                            drawn := id :: before.drawn } := by
  obtain ⟨choice, responded⟩ := perform_responds completes
  simp only [respond] at responded
  split at responded
  · cases responded
  rename_i fresh
  simp only [GatewayState.insert, Option.some.injEq] at responded
  split at responded
  · split at responded
    · cases responded
    · rename_i unique
      cases responded
      exact ⟨choice.random, fresh, by simpa using unique, rfl⟩
  · cases responded

theorem selectByHash_alone {tokenHash : String} {found : Option RefreshTokenRow}
    (completes : Alone env (Gateway.selectRefreshTokenByHash tokenHash) before (.ok found) after) :
    after = before ∧ match found with
      | none => ∀ row ∈ before.refreshTokens, row.tokenHash ≠ tokenHash
      | some row => row ∈ before.refreshTokens ∧ row.tokenHash = tokenHash := by
  obtain ⟨choice, responded⟩ := perform_responds completes
  simp only [respond, Option.some.injEq, Prod.mk.injEq, Except.ok.injEq] at responded
  obtain ⟨first, rfl⟩ := responded
  refine ⟨rfl, ?_⟩
  cases found with
  | none => simpa using List.find?_eq_none.mp first
  | some row => exact ⟨List.mem_of_find?_eq_some first, by simpa using List.find?_some first⟩

theorem updateById_alone {id : String} {revokedAt : Nat} {reason : String}
    (completes : Alone env (Gateway.updateRevokedById id revokedAt reason) before (.ok ()) after) :
    after = before.updateRevoked (·.id = id) revokedAt reason := by
  obtain ⟨choice, responded⟩ := perform_responds completes
  cases responded
  rfl

structure Untouched (before after : GatewayState) : Prop where
  steady : Steady before after
  rows : after.refreshTokens = before.refreshTokens

theorem Untouched.refl (state : GatewayState) : Untouched state state := ⟨.refl state, rfl⟩

theorem Untouched.step {middle : GatewayState} {effect : Effect} (untouched : Untouched before middle)
    (incidental : Incidental effect) (step : TableStep middle after effect) : Untouched before after := by
  cases step with
  | keep _ rows drawn clock users =>
    exact ⟨untouched.steady.trans ⟨clock, users, drawn⟩, rows.trans untouched.rows⟩
  | revokeById id revokedAt reason same => exact incidental.elim
  | revokeByFamily sessionFamily revokedAt reason same => exact incidental.elim
  | insert values id fresh unique user same => exact incidental.elim

theorem incidental_alone {α : Type} {program : Gateway α} {outcome : Except Thrown α}
    (completes : Alone env program before outcome after) (uses : program.Uses Incidental) :
    Untouched before after :=
  completes.invariant uses (.refl before) fun _ _ _ _ _ incidental untouched executed =>
    untouched.step incidental (exec_tableStep executed)

theorem cacheRefreshTokenRevocation_alone {tokenHash : String} {expiresAt : Nat} {outcome : Except Thrown Unit}
    (completes : Alone env (cacheRefreshTokenRevocation tokenHash expiresAt) before outcome after) :
    Untouched before after := incidental_alone completes (cacheRefreshTokenRevocation_incidental tokenHash expiresAt)

structure Issued (env : Env) (before : GatewayState) (userId sessionFamily : String)
    (issued : IssuedRefreshToken) (after : GatewayState) : Prop where
  steady : Steady before after
  hash : issued.tokenHash = env.sha256Hex issued.plaintext
  family : issued.sessionFamily = sessionFamily
  unique : ∀ row ∈ before.refreshTokens, row.tokenHash ≠ issued.tokenHash
  rows : ∃ row, after.refreshTokens = before.refreshTokens ++ [row] ∧ row.userId = userId ∧
    row.sessionFamily = sessionFamily ∧ row.tokenHash = issued.tokenHash ∧ row.issuedAt = before.clock ∧
    row.expiresAt = issued.expiresAt ∧ row.revokedAt = none

theorem issueRefreshToken_alone {userId sessionFamily : String} {metadata : RefreshTokenMetadata}
    {issued : IssuedRefreshToken}
    (completes : Alone env (issueRefreshToken env userId metadata (some sessionFamily)) before (.ok issued) after) :
    Issued env before userId sessionFamily issued after := by
  obtain ⟨family, start, given, rest⟩ := Completes.bind_ok completes
  obtain ⟨same, rfl⟩ := completes_done.mp given
  obtain rfl := Except.ok.inj same
  obtain ⟨plaintext, drawn, draw, rest⟩ := Completes.bind_ok rest
  obtain ⟨_, rfl⟩ := randomString_alone draw
  obtain ⟨expiresAt, timed, clock, rest⟩ := Completes.bind_ok rest
  obtain ⟨now, read, reading, finish⟩ := Completes.bind_ok clock
  obtain ⟨rfl, rfl⟩ := dateNow_alone reading
  obtain ⟨_, rfl⟩ := completes_done.mp finish
  obtain ⟨_, stored, insert, finish⟩ := Completes.bind_ok rest
  obtain ⟨id, _, unique, rfl⟩ := insert_alone insert
  obtain ⟨same, rfl⟩ := completes_done.mp finish
  cases same
  refine ⟨⟨rfl, rfl, fun _ member => by simp [member]⟩, rfl, rfl, unique, _, rfl, rfl, rfl, rfl, rfl, rfl, rfl⟩

def revokedFamily (rows : List RefreshTokenRow) (sessionFamily : String) (revokedAt : Nat)
    (reason : String) : List RefreshTokenRow :=
  setRevoked rows (fun row => row.sessionFamily = sessionFamily ∧ row.revokedAt = none) revokedAt reason

theorem setRevoked_none {rows : List RefreshTokenRow} {selects : RefreshTokenRow → Bool}
    (nothing : ∀ row ∈ rows, selects row = false) (revokedAt : Nat) (reason : String) :
    setRevoked rows selects revokedAt reason = rows := by
  unfold setRevoked
  refine (List.map_congr_left fun row member => ?_).trans (List.map_id rows)
  simp [nothing row member]

theorem revokeSessionFamily_alone {sessionFamily reason : String}
    (completes : Alone env (revokeSessionFamily sessionFamily reason) before (.ok ()) after) :
    Steady before after ∧
      after.refreshTokens = revokedFamily before.refreshTokens sessionFamily before.clock reason := by
  obtain ⟨rows, selected, select, rest⟩ := Completes.bind_ok completes
  obtain ⟨choice, responded⟩ := perform_responds select
  cases responded
  split at rest
  · rename_i none_active
    obtain ⟨_, rfl⟩ := completes_done.mp rest
    have inactive := List.filter_eq_nil_iff.mp (List.isEmpty_iff.mp none_active)
    exact ⟨.refl _, (setRevoked_none (fun row member => by simpa using inactive row member) _ _).symm⟩
  obtain ⟨now, read, reading, rest⟩ := Completes.bind_ok rest
  obtain ⟨rfl, rfl⟩ := dateNow_alone reading
  obtain ⟨_, updated, update, rest⟩ := Completes.bind_ok rest
  obtain ⟨choice, responded⟩ := perform_responds update
  cases responded
  have untouched := incidental_alone rest ((mirrors_uses _).weaken fun _ mirrors => mirrors.incidental)
  exact ⟨⟨untouched.steady.clock, untouched.steady.users, untouched.steady.drawn⟩, untouched.rows⟩

theorem revokeRow_alone {id reason tokenHash : String} {expiresAt : Nat}
    (completes : Alone env (Gateway.dateNow >>= fun now => Gateway.updateRevokedById id now reason >>= fun _ =>
      cacheRefreshTokenRevocation tokenHash expiresAt) before (.ok ()) after) :
    Steady before after ∧
      after.refreshTokens = setRevoked before.refreshTokens (·.id = id) before.clock reason := by
  obtain ⟨now, read, reading, rest⟩ := Completes.bind_ok completes
  obtain ⟨rfl, rfl⟩ := dateNow_alone reading
  obtain ⟨_, updated, update, rest⟩ := Completes.bind_ok rest
  obtain rfl := updateById_alone update
  have untouched := cacheRefreshTokenRevocation_alone rest
  exact ⟨⟨untouched.steady.clock, untouched.steady.users, untouched.steady.drawn⟩, untouched.rows⟩

/-- Everything one `rotateRefreshToken` that runs alone can do and answer. -/
inductive Rotation (env : Env) (plaintextToken : String) (before : GatewayState) :
    Except AppError RotationResult → GatewayState → Prop where
  | unknown {later : GatewayState}
    (unknown : ∀ row ∈ before.refreshTokens, row.tokenHash ≠ env.sha256Hex plaintextToken)
      (untouched : Untouched before later) :
      Rotation env plaintextToken before (.error (unauthorizedError "Refresh token is invalid")) later
  | reused {later : GatewayState} (row : RefreshTokenRow) (member : row ∈ before.refreshTokens)
      (presented : row.tokenHash = env.sha256Hex plaintextToken) (revoked : row.revokedAt.isSome)
      (steady : Steady before later) (rows : later.refreshTokens =
        revokedFamily before.refreshTokens row.sessionFamily before.clock "reuse_detected") :
      Rotation env plaintextToken before (.error tokenReuseDetectedError) later
  | expired {later : GatewayState} (row : RefreshTokenRow) (member : row ∈ before.refreshTokens)
      (presented : row.tokenHash = env.sha256Hex plaintextToken) (active : row.revokedAt = none)
      (late : row.expiresAt ≤ before.clock) (untouched : Untouched before later) :
      Rotation env plaintextToken before (.error (unauthorizedError "Refresh token has expired")) later
  | rotated {later : GatewayState} (row : RefreshTokenRow) (result : RotationResult) (middle : GatewayState)
      (member : row ∈ before.refreshTokens) (presented : row.tokenHash = env.sha256Hex plaintextToken)
      (active : row.revokedAt = none) (unexpired : before.clock < row.expiresAt)
      (user : result.userId = row.userId) (steady : Steady before middle)
      (rows : middle.refreshTokens =
        setRevoked before.refreshTokens (·.id = row.id) before.clock "rotation")
      (issued : Issued env middle row.userId row.sessionFamily result.issued later) :
      Rotation env plaintextToken before (.ok result) later

theorem rotateRefreshToken_alone {plaintextToken : String} {metadata : RefreshTokenMetadata}
    {answer : Except AppError RotationResult}
    (completes : Alone env (rotateRefreshToken env plaintextToken metadata) before (.ok answer) after) :
    Rotation env plaintextToken before answer after := by
  obtain ⟨found, selected, select, rest⟩ := Completes.bind_ok completes
  obtain ⟨rfl, read⟩ := selectByHash_alone select
  rcases found with _ | row
  · obtain ⟨answered, rfl⟩ := completes_done.mp rest
    cases answered
    exact .unknown read (.refl _)
  obtain ⟨member, presented⟩ := read
  simp only at rest
  split at rest
  · rename_i revoked
    obtain ⟨_, closed, close, rest⟩ := Completes.bind_ok rest
    obtain ⟨steady, rows⟩ := revokeSessionFamily_alone close
    obtain ⟨_, audited, audit, rest⟩ := Completes.bind_ok rest
    have untouched := incidental_alone audit (writeAuditEvent_incidental _)
    obtain ⟨answered, rfl⟩ := completes_done.mp rest
    cases answered
    exact .reused row member presented revoked (steady.trans untouched.steady) (untouched.rows.trans rows)
  rename_i unrevoked
  have active : row.revokedAt = none := by simpa using unrevoked
  obtain ⟨now, read, reading, rest⟩ := Completes.bind_ok rest
  obtain ⟨rfl, rfl⟩ := dateNow_alone reading
  split at rest
  · rename_i late
    obtain ⟨answered, rfl⟩ := completes_done.mp rest
    cases answered
    exact .expired row member presented active late (.refl _)
  rename_i unexpired
  obtain ⟨revokedAt, read, reading, rest⟩ := Completes.bind_ok rest
  obtain ⟨rfl, rfl⟩ := dateNow_alone reading
  obtain ⟨_, updated, update, rest⟩ := Completes.bind_ok rest
  obtain rfl := updateById_alone update
  obtain ⟨_, mirrored, mirror, rest⟩ := Completes.bind_ok rest
  have untouched := cacheRefreshTokenRevocation_alone mirror
  obtain ⟨issued, inserted, issue, rest⟩ := Completes.bind_ok rest
  obtain ⟨answered, rfl⟩ := completes_done.mp rest
  cases answered
  exact .rotated row _ mirrored member presented active (Nat.lt_of_not_le unexpired) rfl
    ⟨untouched.steady.clock, untouched.steady.users, untouched.steady.drawn⟩ untouched.rows
    (issueRefreshToken_alone issue)

theorem issueRefreshToken_new_alone {userId : String} {metadata : RefreshTokenMetadata}
    {issued : IssuedRefreshToken}
    (completes : Alone env (issueRefreshToken env userId metadata none) before (.ok issued) after) :
    issued.sessionFamily ∉ before.drawn ∧ issued.sessionFamily ∈ after.drawn ∧
      Issued env before userId issued.sessionFamily issued after := by
  rw [issueRefreshToken_new] at completes
  obtain ⟨family, drawn, draw, rest⟩ := Completes.bind_ok completes
  obtain ⟨fresh, rfl⟩ := randomString_alone draw
  have made := issueRefreshToken_alone rest
  obtain rfl : issued.sessionFamily = family := made.family
  refine ⟨fresh, made.steady.drawn (List.mem_cons_self ..), ?_⟩
  exact ⟨⟨made.steady.clock, made.steady.users, fun _ member =>
    made.steady.drawn (List.mem_cons_of_mem _ member)⟩, made.hash, rfl, made.unique, made.rows⟩

theorem revokeRefreshTokenByHash_alone {tokenHash reason : String}
    (completes : Alone env (revokeRefreshTokenByHash tokenHash reason) before (.ok ()) after) :
    (Untouched before after ∧ ∀ row ∈ before.refreshTokens, row.tokenHash = tokenHash →
      (∀ other ∈ before.refreshTokens, other.tokenHash = tokenHash → other = row) → row.revokedAt.isSome) ∨
    ∃ row ∈ before.refreshTokens, row.tokenHash = tokenHash ∧ row.revokedAt = none ∧ Steady before after ∧
      after.refreshTokens = setRevoked before.refreshTokens (·.id = row.id) before.clock reason := by
  obtain ⟨found, selected, select, rest⟩ := Completes.bind_ok completes
  obtain ⟨rfl, read⟩ := selectByHash_alone select
  rcases found with _ | row
  · obtain ⟨_, rfl⟩ := completes_done.mp rest
    exact .inl ⟨.refl _, fun row member presented => absurd presented (read row member)⟩
  obtain ⟨member, presented⟩ := read
  simp only at rest
  split at rest
  · rename_i revoked
    obtain ⟨_, rfl⟩ := completes_done.mp rest
    exact .inl ⟨.refl _, fun other _ _ only => only row member presented ▸ revoked⟩
  · rename_i unrevoked
    obtain ⟨steady, rows⟩ := revokeRow_alone rest
    exact .inr ⟨row, member, presented, by simpa using unrevoked, steady, rows⟩

theorem exists_latest {rows : List RefreshTokenRow} {userId : String}
    (active : activeOfUser rows userId ≠ []) : latestOfUser rows userId ≠ [] := by
  obtain ⟨row, latest⟩ := Option.ne_none_iff_exists'.mp
    (mt List.argmax_eq_none.mp active : List.argmax (·.issuedAt) (activeOfUser rows userId) ≠ none)
  have member : row ∈ latestOfUser rows userId := by
    refine List.mem_filter.mpr ⟨List.argmax_mem latest, ?_⟩
    simp only [List.all_eq_true, decide_eq_true_eq]
    exact fun other held => List.le_of_mem_argmax held latest
  exact List.ne_nil_of_mem member

theorem revokeMostRecentRefreshTokenForUser_alone {userId reason : String}
    (completes : Alone env (revokeMostRecentRefreshTokenForUser userId reason) before (.ok ()) after) :
    (Untouched before after ∧ activeOfUser before.refreshTokens userId = []) ∨
    ∃ row ∈ latestOfUser before.refreshTokens userId, Steady before after ∧
      after.refreshTokens = setRevoked before.refreshTokens (·.id = row.id) before.clock reason := by
  obtain ⟨found, selected, select, rest⟩ := Completes.bind_ok completes
  obtain ⟨choice, responded⟩ := perform_responds select
  simp only [respond] at responded
  split at responded
  · rename_i none_latest
    cases responded
    obtain ⟨_, rfl⟩ := completes_done.mp rest
    exact .inl ⟨.refl _, by_contra fun active => exists_latest active none_latest⟩
  · rename_i row rows latest
    obtain ⟨picked, pick, same⟩ := Option.map_eq_some_iff.mp responded
    cases same
    have member : picked ∈ latestOfUser before.refreshTokens userId := by
      rw [latest]
      exact List.mem_of_getElem? pick
    obtain ⟨steady, rows⟩ := revokeRow_alone rest
    exact .inr ⟨picked, member, steady, rows⟩

end Rules

end GatewayProof
