import AppGateway.Handlers.Redis
import AppGateway.Sessions.Calls
import AppGateway.Sessions.MirrorProtocol
import AppGateway.Sessions.SingleUse

namespace GatewayProof

open Async GatewayModel
open Async.System (Modular Reaches Guarded Disciplined advance_cases next_cases)

def Keyed (state : GatewayState) (key : RedisKey) : Prop := ∃ entry ∈ state.redis, entry.key = key

structure Informed (state : GatewayState) (past : List SessionEvent) : Prop where
  row : ∀ tokenHash row, ReadToken past tokenHash row → row.tokenHash = tokenHash ∧ Persists state row
  family : ∀ family rows, ReadFamily past family rows → ∀ row ∈ rows, row.sessionFamily = family ∧ Persists state row
  clock : ∀ now, ⟨.dateNow, .ok now⟩ ∈ past → now ≤ state.clock
  struck : ∀ tokenHash row, Struck past tokenHash row → Revoked state row.id
  mirror : ∀ key value ttlSeconds, ⟨.redisSet key value ttlSeconds, .ok ()⟩ ∈ past → Keyed state key

structure MirrorGrows (before after : GatewayState) : Prop where
  table : Grows before after
  keys : ∀ key, Keyed before key → Keyed after key

theorem Informed.grow {before after : GatewayState} {past : List SessionEvent} (informed : Informed before past)
    (growth : MirrorGrows before after) : Informed after past where
  row := fun tokenHash row read =>
    ⟨(informed.row tokenHash row read).1, (informed.row tokenHash row read).2.grow growth.table⟩
  family := fun family rows read row member =>
    ⟨(informed.family family rows read row member).1, (informed.family family rows read row member).2.grow growth.table⟩
  clock := fun now read => Nat.le_trans (informed.clock now read) growth.table.clock
  struck := fun tokenHash row struck => (informed.struck tokenHash row struck).grow growth.table
  mirror := fun key value ttl set => growth.keys key (informed.mirror key value ttl set)

theorem Informed.nil (state : GatewayState) : Informed state [] where
  row := fun _ _ read => by simp [ReadToken] at read
  family := fun _ _ read => by simp [ReadFamily] at read
  clock := fun _ read => by simp at read
  struck := fun _ _ struck => by simp [Struck, ReadToken, ReadFamily] at struck
  mirror := fun _ _ _ set => by simp at set

theorem mirror_keys {before after : GatewayState} {effect : Effect} {past : List SessionEvent}
    (step : RedisStep before after effect) (permit : MirrorPermits past effect) (key : RedisKey)
    (keyed : Keyed before key) :
    Keyed after key := by
  obtain ⟨entry, member, named⟩ := keyed
  cases step with
  | keep _ redis => exact ⟨entry, redis ▸ member, named⟩
  | set name value ttl redis =>
    rw [Keyed, redis]
    by_cases same : name = key
    · exact ⟨_, List.mem_cons_self .., same⟩
    · refine ⟨entry, List.mem_cons_of_mem _ (List.mem_filter.mpr ⟨member, ?_⟩), named⟩
      rw [named]
      simpa using Ne.symm same
  | setNx name value ttl free redis => exact permit.elim
  | del name redis => exact permit.elim

section Steps

variable {env : Env} {choice : Choice} {before after : GatewayState} {effect : Effect}
  {reply : Except Thrown effect.Reply} {past : List SessionEvent}

theorem select_latest_some {userId : String} {row : RefreshTokenRow}
    (executed : exec env (.selectLatestActiveByUser userId) choice before = some (.ok (some row), after)) :
    row ∈ before.refreshTokens ∧ after = before := by
  have responded := exec_ok executed
  simp only [respond] at responded
  split at responded
  · cases responded
  · rename_i first rows latest
    obtain ⟨picked, found, same⟩ := Option.map_eq_some_iff.mp responded
    cases same
    have member : row ∈ latestOfUser before.refreshTokens userId := latest ▸ List.mem_of_getElem? found
    exact ⟨List.mem_of_mem_filter (List.mem_of_mem_filter member), rfl⟩

theorem select_family_some {family : String} {rows : List RefreshTokenRow}
    (executed : exec env (.selectActiveByFamily family) choice before = some (.ok rows, after)) :
    rows = activeInFamily before.refreshTokens family ∧ after = before := by
  cases exec_ok executed
  exact ⟨rfl, rfl⟩

theorem update_by_family_revokes {family : String} {revokedAt : Nat} {reason : String} {row : RefreshTokenRow}
    (executed : exec env (.updateRevokedByFamily family revokedAt reason) choice before = some (.ok (), after))
    (persists : Persists before row) (listed : row.sessionFamily = family) : Revoked after row.id := by
  cases exec_ok executed
  obtain ⟨later, member, version⟩ := persists
  refine ⟨_, mem_setRevoked.mpr ⟨later, member, rfl⟩, ?_, ?_⟩
  · split
    · exact version.id
    · exact version.id
  · split
    · rfl
    · rename_i spared
      cases gone : later.revokedAt with
      | some when_ => rfl
      | none =>
        have family : later.sessionFamily = family := version.sessionFamily.trans listed
        simp [family, gone] at spared

theorem dateNow_reply {now : Nat} (executed : exec env .dateNow choice before = some (.ok now, after)) :
    now = before.clock ∧ after = before := by
  cases exec_ok executed
  exact ⟨rfl, rfl⟩

theorem Struck.snoc_cases {event : SessionEvent} {tokenHash : String} {row : RefreshTokenRow}
    (struck : Struck (past ++ [event]) tokenHash row) (permit : MirrorPermits past event.op) :
    Struck past tokenHash row ∨
    (ReadToken past tokenHash row ∧ ∃ revokedAt reason, event = ⟨.updateRevokedById row.id revokedAt reason, .ok ()⟩) ∨
    ∃ family rows, ReadFamily past family rows ∧ row ∈ rows ∧
      ∃ revokedAt reason, event = ⟨.updateRevokedByFamily family revokedAt reason, .ok ()⟩ := by
  rcases struck with ⟨read, revokedAt, reason, update⟩ | ⟨same, family, rows, read, listed, revokedAt, reason, update⟩
  · rcases List.mem_append.mp update with earlier | last
    · refine .inl (.inl ⟨?_, revokedAt, reason, earlier⟩)
      rcases read with byHash | ⟨same, userId, latest⟩
      · rcases List.mem_append.mp byHash with before | here
        · exact .inl before
        · cases List.mem_singleton.mp here
          exact absurd trivial (permit _ earlier)
      · rcases List.mem_append.mp latest with before | here
        · exact .inr ⟨same, userId, before⟩
        · cases List.mem_singleton.mp here
          exact absurd trivial (permit _ earlier)
    · have here := List.mem_singleton.mp last
      subst here
      refine .inr (.inl ⟨?_, revokedAt, reason, rfl⟩)
      rcases read with byHash | ⟨same, userId, latest⟩
      · exact .inl (by simpa using byHash)
      · exact .inr ⟨same, userId, by simpa using latest⟩
  · rcases List.mem_append.mp update with earlier | last
    · refine .inl (.inr ⟨same, family, rows, ?_, listed, revokedAt, reason, earlier⟩)
      rcases List.mem_append.mp read with before | here
      · exact before
      · cases List.mem_singleton.mp here
        exact absurd trivial (permit _ earlier)
    · have here := List.mem_singleton.mp last
      subst here
      exact .inr (.inr ⟨family, rows, by simpa [ReadFamily] using read, listed, revokedAt, reason, rfl⟩)

theorem mirror_grows (executed : exec env effect choice before = some (reply, after))
    (permit : MirrorPermits past effect) :
    MirrorGrows before after :=
  ⟨(exec_tableStep executed).grows, fun key keyed => mirror_keys (exec_redisStep executed) permit key keyed⟩

theorem Informed.snoc (informed : Informed before past) (permit : MirrorPermits past effect)
    (executed : exec env effect choice before = some (reply, after)) : Informed after (past ++ [⟨effect, reply⟩]) := by
  have grown := informed.grow (mirror_grows executed permit)
  constructor
  · intro tokenHash row read
    rcases read with byHash | ⟨same, userId, latest⟩
    · rcases List.mem_append.mp byHash with earlier | last
      · exact grown.row tokenHash row (.inl earlier)
      · cases List.mem_singleton.mp last
        obtain ⟨stored, hash, unchanged⟩ := select_by_hash_some executed
        subst unchanged
        exact ⟨hash, row, stored, .refl row⟩
    · rcases List.mem_append.mp latest with earlier | last
      · exact grown.row tokenHash row (.inr ⟨same, userId, earlier⟩)
      · cases List.mem_singleton.mp last
        obtain ⟨stored, unchanged⟩ := select_latest_some executed
        subst unchanged
        exact ⟨same.symm, row, stored, .refl row⟩
  · intro family rows read row member
    rcases List.mem_append.mp read with earlier | last
    · exact grown.family family rows earlier row member
    · cases List.mem_singleton.mp last
      obtain ⟨active, unchanged⟩ := select_family_some executed
      subst active unchanged
      obtain ⟨stored, held⟩ := List.mem_filter.mp member
      simp only [decide_eq_true_eq] at held
      exact ⟨held.1, row, stored, .refl row⟩
  · intro now read
    rcases List.mem_append.mp read with earlier | last
    · exact grown.clock now earlier
    · cases List.mem_singleton.mp last
      obtain ⟨same, unchanged⟩ := dateNow_reply executed
      subst unchanged
      exact Nat.le_of_eq same
  · intro tokenHash row struck
    rcases struck.snoc_cases permit with earlier | ⟨read, revokedAt, reason, same⟩ |
      ⟨family, rows, read, listed, revokedAt, reason, same⟩
    · exact grown.struck tokenHash row earlier
    · cases same
      obtain ⟨_, stored, member, version⟩ := informed.row tokenHash row read
      exact update_by_id_revokes executed ⟨stored, member, version.id⟩
    · cases same
      obtain ⟨held, persists⟩ := informed.family family rows read row listed
      exact update_by_family_revokes executed persists held
  · intro key value ttl set
    rcases List.mem_append.mp set with earlier | last
    · exact grown.mirror key value ttl earlier
    · cases List.mem_singleton.mp last
      cases exec_ok executed
      exact ⟨_, List.mem_cons_self .., rfl⟩

def MirrorSound (state : GatewayState) : Prop :=
  ∀ entry ∈ state.redis, ∃ row ∈ state.refreshTokens, entry.key = .revokedRefresh row.tokenHash ∧
    row.revokedAt.isSome ∧ row.expiresAt ≤ entry.expiresAt

theorem MirrorSound.grow (sound : MirrorSound before) (growth : Grows before after)
    (redis : after.redis = before.redis) :
    MirrorSound after := by
  intro entry member
  obtain ⟨row, stored, named, revoked, late⟩ := sound entry (redis ▸ member)
  obtain ⟨later, kept, version⟩ := growth.rows row stored
  refine ⟨later, kept, ?_, version.revoked revoked, ?_⟩
  · rw [version.tokenHash]
    exact named
  · rw [version.expiresAt]
    exact late

theorem Informed.struck_row {state : GatewayState} (informed : Informed state past) (valid : TableValid state)
    {tokenHash : String} {row : RefreshTokenRow} (struck : Struck past tokenHash row) :
    ∃ later ∈ state.refreshTokens, Later row later ∧ later.revokedAt.isSome ∧ later.tokenHash = tokenHash := by
  have known : row.tokenHash = tokenHash ∧ Persists state row := by
    rcases struck with ⟨read, _⟩ | ⟨same, family, rows, read, listed, _⟩
    · exact informed.row tokenHash row read
    · exact ⟨same.symm, (informed.family family rows read row listed).2⟩
  obtain ⟨hash, later, stored, version⟩ := known
  obtain ⟨revoked, member, same, gone⟩ := informed.struck tokenHash row struck
  have equal := valid.same_id member stored (same.trans version.id.symm)
  subst equal
  exact ⟨revoked, stored, version, gone, version.tokenHash.trans hash⟩

theorem MirrorSound.step (sound : MirrorSound before) (valid : TableValid before) (informed : Informed before past)
    (permit : MirrorPermits past effect) (executed : exec env effect choice before = some (reply, after)) :
    MirrorSound after := by
  have growth := (exec_tableStep executed).grows
  cases exec_redisStep executed with
  | keep _ redis => exact sound.grow growth redis
  | setNx key value ttl free redis => exact permit.elim
  | del key redis => exact permit.elim
  | set key value ttl redis =>
    have written : MirrorSound { before with redis := before.redis.set key value (before.expiry ttl) } := by
      intro entry member
      rcases Store.Expiring.mem_set member with rfl | kept
      · obtain ⟨tokenHash, row, now, struck, read, rfl, _, rfl⟩ := permit
        obtain ⟨later, stored, version, gone, hash⟩ := informed.struck_row valid struck
        refine ⟨later, stored, by rw [hash], gone, ?_⟩
        have covers := ttlSeconds_covers row.expiresAt now
        have since := informed.clock now read
        rw [version.expiresAt]
        show row.expiresAt ≤ before.clock + ttlSeconds row.expiresAt now * 1000
        omega
      · exact sound entry kept
    exact written.grow ⟨growth.rows, growth.drawn, growth.clock⟩ redis

end Steps

/-! Runs -/

def MirrorHolds (state : GatewayState) (thread : SessionThread) : Prop :=
  Disciplined (fun _ => MirrorPermits) (fun _ past _ => MirrorsStruck past) thread ∧ Informed state thread.past

theorem sessions_mirror_modular (env : Env) : Modular (sessions env) (fun _ _ => True)
    (fun state => TableValid state ∧ MirrorSound state) MirrorGrows MirrorHolds where
  call := fun state call _ => ⟨Disciplined.of_code (SessionCall.code_mirrors call), Informed.nil state⟩
  step := by
    intro choice state thread moved later _ good holds advanced
    obtain ⟨effect, resume, reply, alive, program, executed, rfl⟩ := advance_cases advanced
    have permit : MirrorPermits thread.past effect := by
      have obeys := holds.1.2
      rw [program] at obeys
      exact obeys.1
    exact ⟨⟨good.1.step (exec_tableStep executed), good.2.step good.1 holds.2 permit executed⟩,
      mirror_grows executed permit, holds.1.advance advanced, holds.2.snoc permit executed⟩
  external := by
    intro event state good
    have growth := external_grows event state
    exact ⟨⟨good.1.external event, good.2.grow growth (external_redis event state)⟩, growth,
      fun key ⟨entry, member, named⟩ => ⟨entry, (external_redis event state).symm ▸ member, named⟩⟩
  stable := fun _ _ _ growth holds => ⟨holds.1, holds.2.grow growth⟩
  crash := fun _ _ holds => holds

def FaultFree : SessionConfig → SessionLabel → Prop
  | _, .step _ choice => choice.fault = .none
  | _, .crash _ => False
  | _, _ => True

/-- A family UPDATE revokes no unexpired row that the SELECT of its call has not returned. -/
def UpdatesSelected (state : GatewayState) (thread : SessionThread) : Prop :=
  ∀ family revokedAt reason, thread.program.pending = some (.updateRevokedByFamily family revokedAt reason) →
    ∀ row ∈ activeInFamily state.refreshTokens family, state.clock < row.expiresAt →
      ∃ rows, ReadFamily thread.past family rows ∧ ∃ selected ∈ rows, selected.id = row.id

def Accounted (config : SessionConfig) : Prop :=
  ∀ row ∈ config.state.refreshTokens, row.revokedAt.isSome → config.state.clock < row.expiresAt →
    ∃ thread ∈ config.threads, ∃ tokenHash old, Struck thread.past tokenHash old ∧ Later old row

def Unfailing (thread : SessionThread) : Prop := thread.alive = true ∧ Faultless Inserts thread.past

section Accounts

variable {env : Env} {choice : Choice} {before after : GatewayState} {effect : Effect}
  {reply : Except Thrown effect.Reply} {past : List SessionEvent}

theorem respond_throws {thrown : Thrown} (responded : respond env choice before effect = some (.error thrown, after))
    (permit : MirrorPermits past effect) : Inserts effect := by
  cases effect with
  | insertRefreshToken values => exact ⟨values, rfl⟩
  | decryptEmail encoded tenantId => exact permit.elim
  | selectLatestActiveByUser userId =>
    simp only [respond] at responded
    split at responded
    · cases responded
    · obtain ⟨_, _, same⟩ := Option.map_eq_some_iff.mp responded
      cases same
  | sleepUntil wakeAt =>
    simp only [respond] at responded
    split at responded <;> cases responded
  | randomString =>
    simp only [respond] at responded
    split at responded <;> cases responded
  | redisSetNx key value ttl => exact permit.elim
  | _ => cases responded

theorem struck_step (valid : TableValid before) (informed : Informed before past) (permit : MirrorPermits past effect)
    (responded : respond env choice before effect = some (reply, after))
    (selected : ∀ family revokedAt reason, effect = .updateRevokedByFamily family revokedAt reason →
      ∀ row ∈ activeInFamily before.refreshTokens family, before.clock < row.expiresAt →
        ∃ rows, ReadFamily past family rows ∧ ∃ selected ∈ rows, selected.id = row.id)
    {row : RefreshTokenRow} (member : row ∈ after.refreshTokens) (revoked : row.revokedAt.isSome)
    (unexpired : after.clock < row.expiresAt) :
    (row ∈ before.refreshTokens) ∨
      ∃ tokenHash old, Struck (past ++ [⟨effect, reply⟩]) tokenHash old ∧ Later old row := by
  cases respond_tableStep responded with
  | keep _ rows drawn clock users => exact .inl (rows ▸ member)
  | insert values id fresh unique user same =>
    subst same
    rcases List.mem_append.mp member with stored | inserted
    · exact .inl stored
    · rw [List.mem_singleton.mp inserted] at revoked
      cases revoked
  | revokeById id revokedAt reason same =>
    cases responded
    obtain ⟨old, stored, updated⟩ := mem_setRevoked.mp member
    by_cases named : old.id = id
    · obtain ⟨tokenHash, read, seen, same⟩ := permit
      obtain ⟨_, current, present, version⟩ := informed.row tokenHash read seen
      have equal := valid.same_id present stored ((version.id.trans same).trans named.symm)
      subst equal
      refine .inr ⟨tokenHash, read, .inl ⟨seen.grow (by simp), revokedAt, reason, by simp [same]⟩, ?_⟩
      rw [← updated]
      exact version.trans (later_setRevoked (·.id = id) revokedAt reason current)
    · rw [if_neg (by simpa using named)] at updated
      exact .inl (updated ▸ stored)
  | revokeByFamily family revokedAt reason same =>
    cases responded
    obtain ⟨old, stored, updated⟩ := mem_setRevoked.mp member
    by_cases active : old.sessionFamily = family ∧ old.revokedAt = none
    · have version := later_setRevoked (fun row => row.sessionFamily = family ∧ row.revokedAt = none)
        revokedAt reason old
      rw [updated] at version
      obtain ⟨rows, seen, read, listed, same⟩ := selected family revokedAt reason rfl old
        (List.mem_filter.mpr ⟨stored, by simpa using active⟩) (version.expiresAt ▸ unexpired)
      obtain ⟨_, current, present, earlier⟩ := informed.family family rows seen read listed
      have equal := valid.same_id present stored (earlier.id.trans same)
      subst equal
      refine .inr ⟨read.tokenHash, read, .inr ⟨rfl, family, rows, ?_, listed, revokedAt, reason, by simp⟩, ?_⟩
      · exact List.mem_append_left _ seen
      · exact earlier.trans version
    · rw [if_neg (by simpa using active)] at updated
      exact .inl (updated ▸ stored)

end Accounts

def Mirroring (config : SessionConfig) (label : SessionLabel) : Prop :=
  FaultFree config label ∧ Guarded UpdatesSelected config label

section Runs

variable {env : Env} {config after : SessionConfig} {label : SessionLabel}

structure MirrorRun (config : SessionConfig) : Prop where
  holds : Modular.Holds (fun state => TableValid state ∧ MirrorSound state) MirrorHolds config
  unfailing : ∀ thread ∈ config.threads, Unfailing thread
  accounted : Accounted config

theorem MirrorRun.next (run : MirrorRun config) (allow : Mirroring config label)
    (moved : (sessions env).next config label = some after) : MirrorRun after := by
  have holds := (sessions_mirror_modular env).next run.holds (fun _ _ _ _ _ => trivial) moved
  rcases next_cases moved with ⟨call, rfl, rfl⟩ | ⟨place, choice, old, advanced, state, rfl, there, stepped, rfl⟩ |
    ⟨place, old, rfl, _, rfl⟩ | ⟨event, rfl, rfl⟩
  · refine ⟨holds, fun thread member => ?_, fun row stored revoked unexpired => ?_⟩
    · rcases List.mem_append.mp member with earlier | new
      · exact run.unfailing thread earlier
      · rw [List.mem_singleton.mp new]
        exact ⟨rfl, fun event absent => (List.not_mem_nil absent).elim⟩
    · obtain ⟨thread, present, struck⟩ := run.accounted row stored revoked unexpired
      exact ⟨thread, List.mem_append_left _ present, struck⟩
  · obtain ⟨effect, resume, reply, alive, program, executed, rfl⟩ := advance_cases stepped
    have member : old ∈ config.threads := List.mem_of_getElem? there
    have inside := (List.getElem?_eq_some_iff.mp there).1
    obtain ⟨disciplined, informed⟩ := run.holds.2 old member
    have permit : MirrorPermits old.past effect := by
      have obeys := disciplined.2
      rw [program] at obeys
      exact obeys.1
    have responded : respond env choice config.state effect = some (reply, state) := by
      have faultless : choice.fault = .none := allow.1
      have ran : exec env effect choice config.state = some (reply, state) := executed
      simpa only [exec, faultless] using ran
    refine ⟨holds, fun thread changed => ?_, fun row stored revoked unexpired => ?_⟩
    · rcases List.mem_or_eq_of_mem_set changed with earlier | rfl
      · exact run.unfailing thread earlier
      · refine ⟨alive, fun event happened thrown failed => ?_⟩
        rcases List.mem_append.mp happened with earlier | last
        · exact (run.unfailing old member).2 event earlier thrown failed
        · cases List.mem_singleton.mp last
          have threw : reply = .error thrown := failed
          rw [threw] at responded
          exact respond_throws responded permit
    · have selected : ∀ family revokedAt reason, effect = .updateRevokedByFamily family revokedAt reason →
          ∀ row ∈ activeInFamily config.state.refreshTokens family, config.state.clock < row.expiresAt →
            ∃ rows, ReadFamily old.past family rows ∧ ∃ selected ∈ rows, selected.id = row.id := by
        intro family revokedAt reason same
        exact allow.2 place choice old rfl there family revokedAt reason (by rw [program, ← same]; rfl)
      rcases struck_step run.holds.1.1 informed permit responded selected stored revoked unexpired with
        before | ⟨tokenHash, read, struck, version⟩
      · have clock := (exec_tableStep executed).clock
        obtain ⟨thread, present, tokenHash, read, struck, version⟩ :=
          run.accounted row before revoked (clock ▸ unexpired)
        obtain ⟨index, found⟩ := List.getElem?_of_mem present
        by_cases same : place = index
        · subst same
          rw [there] at found
          cases found
          exact ⟨_, List.mem_set inside _, tokenHash, read, struck.grow (by simp), version⟩
        · exact ⟨thread, List.mem_of_getElem? ((List.getElem?_set_ne same).trans found), tokenHash,
            read, struck, version⟩
      · exact ⟨_, List.mem_set inside _, tokenHash, read, struck, version⟩
  · exact allow.1.elim
  · refine ⟨holds, run.unfailing, fun row stored revoked unexpired => ?_⟩
    have before : row ∈ config.state.refreshTokens := (external_refreshTokens event config.state) ▸ stored
    exact run.accounted row before revoked (Nat.lt_of_le_of_lt (external_grows event config.state).clock unexpired)

theorem mirrorRun_fresh (clock : Nat) (users : List UserRow) : MirrorRun (freshGateway clock users) where
  holds := by
    refine ⟨⟨⟨?_, ?_, ?_, ?_⟩, ?_⟩, ?_⟩ <;> simp [freshGateway, MirrorSound]
  unfailing := by simp [freshGateway]
  accounted := by simp [Accounted, freshGateway]

end Runs

def MirrorComplete (state : GatewayState) : Prop :=
  ∀ row ∈ state.refreshTokens, row.revokedAt.isSome → state.clock < row.expiresAt →
    ∃ entry, state.redis.lookup state.clock (.revokedRefresh row.tokenHash) = some entry ∧
      row.expiresAt ≤ entry.expiresAt

def MirrorOfRevoked (state : GatewayState) : Prop :=
  ∀ entry ∈ state.redis, ∀ tokenHash, entry.key = .revokedRefresh tokenHash →
    ∃ row ∈ state.refreshTokens, row.tokenHash = tokenHash ∧ row.revokedAt.isSome

theorem MirrorSound.ofRevoked {state : GatewayState} (sound : MirrorSound state) : MirrorOfRevoked state := by
  intro entry member tokenHash named
  obtain ⟨row, stored, same, revoked, _⟩ := sound entry member
  rw [named] at same
  cases same
  exact ⟨row, stored, rfl, revoked⟩

theorem MirrorRun.complete {config : SessionConfig} (run : MirrorRun config)
    (idle : ∀ thread ∈ config.threads, thread.running = false) : MirrorComplete config.state := by
  intro row stored revoked unexpired
  obtain ⟨valid, sound⟩ := run.holds.1
  obtain ⟨thread, member, tokenHash, old, struck, version⟩ := run.accounted row stored revoked unexpired
  obtain ⟨disciplined, informed⟩ := run.holds.2 thread member
  obtain ⟨alive, faultless⟩ := run.unfailing thread member
  obtain ⟨current, present, later, _, hash⟩ := informed.struck_row valid struck
  have equal := valid.same_id present stored (later.id.trans version.id.symm)
  subst equal
  have mirrors : MirrorsStruck thread.past := by
    cases ended : thread.program with
    | done outcome => exact disciplined.ended ended
    | await effect resume =>
      have stopped := idle thread member
      simp [Thread.running, Program.running, alive, ended] at stopped
  have keyed : Keyed config.state (.revokedRefresh current.tokenHash) := by
    rcases mirrors faultless tokenHash old struck with ⟨ttl, set⟩ | ⟨now, read, expired⟩
    · rw [hash]
      exact informed.mirror _ _ _ set
    · have since := informed.clock now read
      rw [version.expiresAt] at unexpired
      omega
  have late : ∀ entry ∈ config.state.redis, entry.key = .revokedRefresh current.tokenHash →
      current.expiresAt ≤ entry.expiresAt := by
    intro entry there named
    obtain ⟨other, kept, same, _, bound⟩ := sound entry there
    have sameHash := RedisKey.revokedRefresh.inj (same.symm.trans named)
    rw [valid.same_hash kept present sameHash] at bound
    exact bound
  obtain ⟨entry, there, named⟩ := keyed
  obtain ⟨found, stored, looked, same⟩ :=
    Store.Expiring.lookup_of_mem there (Nat.lt_of_lt_of_le unexpired (late entry there named))
  rw [named] at looked same
  exact ⟨found, looked, late found stored same⟩

/-- In every run in which no step fails and no family UPDATE revokes a row its call has not selected, the mirror holds
    revoked rows only, and whenever no call is in progress it holds them all. -/
theorem mirror_misses_no_revocation (env : Env) (config : SessionConfig)
    (reachable : SessionsReachable env Mirroring config) : MirrorOfRevoked config.state ∧
      ((∀ thread ∈ config.threads, thread.running = false) → MirrorComplete config.state) := by
  obtain ⟨clock, users, reached⟩ := reachable
  have run : MirrorRun config :=
    reached.invariant (mirrorRun_fresh clock users) fun _ _ _ run allow moved => run.next allow moved
  exact ⟨run.holds.1.2.ofRevoked, fun idle => run.complete idle⟩

def selectedRow (thread : SessionThread) (family : String) (row : RefreshTokenRow) : Bool :=
  thread.past.any fun event =>
    match event with
    | ⟨.selectActiveByFamily other, .ok rows⟩ => other = family && rows.any (·.id = row.id)
    | _ => false

theorem selectedRow_spec {thread : SessionThread} {family : String} {row : RefreshTokenRow}
    (checked : selectedRow thread family row = true) :
    ∃ rows, ReadFamily thread.past family rows ∧ ∃ selected ∈ rows, selected.id = row.id := by
  obtain ⟨event, member, checked⟩ := List.any_eq_true.mp checked
  split at checked
  · rename_i other rows
    simp only [Bool.and_eq_true, decide_eq_true_eq, List.any_eq_true] at checked
    obtain ⟨rfl, selected, listed, same⟩ := checked
    exact ⟨rows, member, selected, listed, same⟩
  · cases checked

def mirroring (config : SessionConfig) : SessionLabel → Bool
  | .step index choice =>
    choice.fault = .none &&
    match config.threads[index]? with
    | none => true
    | some thread =>
      match thread.program.pending with
      | some (.updateRevokedByFamily family _ _) => (activeInFamily config.state.refreshTokens family).all fun row =>
          row.expiresAt ≤ config.state.clock || selectedRow thread family row
      | _ => true
  | .crash _ => false
  | _ => true

theorem mirroring_sound (config : SessionConfig) (label : SessionLabel) (passed : mirroring config label = true) :
    Mirroring config label := by
  cases label with
  | call call => exact ⟨trivial, fun index choice thread same => by cases same⟩
  | external event => exact ⟨trivial, fun index choice thread same => by cases same⟩
  | crash index => cases passed
  | step index choice =>
    simp only [mirroring, Bool.and_eq_true, decide_eq_true_eq] at passed
    refine ⟨passed.1, ?_⟩
    intro place chosen thread same found family revokedAt reason pending row active unexpired
    cases same
    have each := passed.2
    simp only [found, pending, List.all_eq_true, Bool.or_eq_true, decide_eq_true_eq] at each
    rcases each row active with expired | selected
    · omega
    · exact selectedRow_spec selected

def idle (config : SessionConfig) : Bool := config.threads.all fun thread => !thread.running

theorem idle_spec {config : SessionConfig} (checked : idle config = true) :
    ∀ thread ∈ config.threads, thread.running = false := by
  intro thread member
  simpa using List.all_eq_true.mp checked thread member

theorem replay_mirrored : ∃ config, SessionsReachable sampleEnv Mirroring config ∧
    (∃ row ∈ config.state.refreshTokens, row.tokenHash = sampleEnv.sha256Hex "t1" ∧ row.revokedAt.isSome) ∧
    MirrorOfRevoked config.state ∧ MirrorComplete config.state := by
  have passed : ((sessions sampleEnv).runChecked mirroring replay
      (freshGateway 0 [sampleUser "u" "u@example.com"])).any (fun config => idle config &&
        config.state.refreshTokens.any fun row =>
          row.tokenHash = sampleEnv.sha256Hex "t1" && row.revokedAt.isSome) = true := by decide
  obtain ⟨config, reached, checked⟩ := Reaches.of_checks mirroring_sound passed
  simp only [Bool.and_eq_true, List.any_eq_true, decide_eq_true_eq] at checked
  have reachable : SessionsReachable sampleEnv Mirroring config := ⟨_, _, reached⟩
  have mirror := mirror_misses_no_revocation sampleEnv config reachable
  exact ⟨config, reachable, checked.2, mirror.1, mirror.2 (idle_spec checked.1)⟩

/-- A rotation of `t1` inserts its row between the SELECT and the UPDATE of the replay of `t0`. -/
def overtakenReplay : List SessionLabel :=
  signIn ++ [.call (.rotate "t0" {})] ++ steps 1 6 ++ [.step 1 (drawing "t1")] ++ steps 1 1 ++
  [.step 1 (drawing "r1"), .call (.rotate "t1" {})] ++ steps 2 1 ++ [.call (.rotate "t0" {})] ++ steps 3 2 ++
  steps 2 5 ++ [.step 2 (drawing "t2")] ++ steps 2 1 ++ [.step 2 (drawing "r2")] ++ steps 3 5

def faultFree (_ : SessionConfig) : SessionLabel → Bool
  | .step _ choice => choice.fault = .none
  | .crash _ => false
  | _ => true

theorem faultFree_sound (config : SessionConfig) (label : SessionLabel) (passed : faultFree config label = true) :
    FaultFree config label := by
  cases label with
  | step index choice => simpa [faultFree, FaultFree] using passed
  | crash index => cases passed
  | call call => trivial
  | external event => trivial

/-- A family revocation leaves a row without its key. -/
theorem overtaken_replay_unmirrored : ∃ config, SessionsReachable sampleEnv FaultFree config ∧
    (∀ thread ∈ config.threads, thread.running = false) ∧ ¬ MirrorComplete config.state := by
  have passed : ((sessions sampleEnv).runChecked faultFree overtakenReplay
      (freshGateway 0 [sampleUser "u" "u@example.com"])).any (fun config => idle config &&
        config.state.refreshTokens.any fun row => row.revokedAt.isSome && config.state.clock < row.expiresAt &&
          (config.state.redis.lookup config.state.clock (.revokedRefresh row.tokenHash)).isNone) = true := by decide
  obtain ⟨config, reached, checked⟩ := Reaches.of_checks faultFree_sound passed
  simp only [Bool.and_eq_true, List.any_eq_true, decide_eq_true_eq, Option.isNone_iff_eq_none] at checked
  obtain ⟨ended, row, member, ⟨revoked, unexpired⟩, missing⟩ := checked
  refine ⟨config, ⟨_, _, reached⟩, idle_spec ended, fun complete => ?_⟩
  obtain ⟨entry, looked, _⟩ := complete row member revoked unexpired
  rw [missing] at looked
  cases looked

end GatewayProof
