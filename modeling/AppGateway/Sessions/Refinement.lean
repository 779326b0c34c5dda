import AppGateway.Sessions.Automaton
import AppGateway.Sessions.Serial

namespace GatewayProof

open Async GatewayModel

def familyRows (rows : List RefreshTokenRow) (sessionFamily : String) : List RefreshTokenRow :=
  rows.filter (·.sessionFamily = sessionFamily)

def tokenOf (row : RefreshTokenRow) : SessionToken := ⟨row.tokenHash, row.issuedAt, row.expiresAt⟩

def sessionOf : List RefreshTokenRow → Option Session
  | [] => none
  | row :: rows => some
      { userId := row.userId
        issued := (row :: rows).map tokenOf
        closed := (row :: rows).all (·.revokedAt.isSome) }

structure FamilyOrdered (rows : List RefreshTokenRow) : Prop where
  older : ∀ row ∈ rows.dropLast, row.revokedAt.isSome
  user : ∀ row ∈ rows, ∀ other ∈ rows, row.userId = other.userId

@[simp] theorem mem_familyRows {rows : List RefreshTokenRow} {sessionFamily : String}
    {row : RefreshTokenRow} :
    row ∈ familyRows rows sessionFamily ↔ row ∈ rows ∧ row.sessionFamily = sessionFamily := by
  simp [familyRows]

theorem familyRows_append (rows : List RefreshTokenRow) (row : RefreshTokenRow) (sessionFamily : String) :
    familyRows (rows ++ [row]) sessionFamily =
      if row.sessionFamily = sessionFamily then familyRows rows sessionFamily ++ [row]
      else familyRows rows sessionFamily := by
  by_cases same : row.sessionFamily = sessionFamily <;> simp [familyRows, same]

theorem familyRows_setRevoked (rows : List RefreshTokenRow) (selects : RefreshTokenRow → Bool)
    (revokedAt : Nat) (reason sessionFamily : String) :
    familyRows (setRevoked rows selects revokedAt reason) sessionFamily =
      setRevoked (familyRows rows sessionFamily) selects revokedAt reason := by
  unfold familyRows setRevoked
  rw [List.filter_map]
  congr 2
  funext row
  simp only [Function.comp_apply]
  split <;> rfl

theorem FamilyOrdered.newest {rows : List RefreshTokenRow} (ordered : FamilyOrdered rows)
    {row : RefreshTokenRow} (member : row ∈ rows) (active : row.revokedAt = none) :
    rows.dropLast ++ [row] = rows := by
  have filled : rows ≠ [] := List.ne_nil_of_mem member
  have split := List.dropLast_append_getLast filled
  have last : row = rows.getLast filled := by
    rw [← split] at member
    rcases List.mem_append.mp member with older | newest
    · have revoked := ordered.older row older
      rw [active] at revoked
      cases revoked
    · exact List.mem_singleton.mp newest
  rw [last]
  exact split

theorem sessionOf_eq_none {rows : List RefreshTokenRow} : sessionOf rows = none ↔ rows = [] := by
  cases rows <;> simp [sessionOf]

structure StandsFor (session : Session) (rows : List RefreshTokenRow) : Prop where
  filled : rows ≠ []
  userId : ∀ row ∈ rows, FamilyOrdered rows → row.userId = session.userId
  issued : session.issued = rows.map tokenOf
  closed : session.closed = rows.all (·.revokedAt.isSome)

theorem sessionOf_eq_some {rows : List RefreshTokenRow} {session : Session}
    (found : sessionOf rows = some session) : StandsFor session rows := by
  cases rows with
  | nil => cases found
  | cons row rows =>
    cases found
    exact ⟨nofun, fun other member ordered => ordered.user other member row (List.mem_cons_self ..), rfl, rfl⟩

theorem StandsFor.current {session : Session} {rows : List RefreshTokenRow}
    (stands : StandsFor session rows) (ordered : FamilyOrdered rows) {token : SessionToken} :
    session.current = some token ↔ ∃ row ∈ rows, row.revokedAt = none ∧ tokenOf row = token := by
  unfold Session.current
  rw [stands.closed, stands.issued]
  constructor
  · intro current
    split at current
    · cases current
    rename_i live
    obtain ⟨row, member, active⟩ : ∃ row ∈ rows, row.revokedAt = none := by
      simpa [List.all_eq_true] using live
    have split := ordered.newest member active
    rw [← split, List.map_append, List.map_singleton, List.getLast?_append_of_ne_nil _ (by simp)] at current
    exact ⟨row, member, active, Option.some.inj current⟩
  · rintro ⟨row, member, active, rfl⟩
    have live : ¬ rows.all (·.revokedAt.isSome) = true := by
      intro all
      have revoked := List.all_eq_true.mp all row member
      rw [active] at revoked
      cases revoked
    have split := ordered.newest member active
    rw [if_neg live, ← split, List.map_append, List.map_singleton, List.getLast?_append_of_ne_nil _ (by simp)]
    rfl

theorem setRevoked_map_tokenOf (rows : List RefreshTokenRow) (selects : RefreshTokenRow → Bool)
    (revokedAt : Nat) (reason : String) :
    (setRevoked rows selects revokedAt reason).map tokenOf = rows.map tokenOf := by
  simp only [setRevoked, List.map_map]
  congr 1
  funext row
  simp only [Function.comp_apply]
  split <;> rfl

theorem sessionOf_setRevoked {rows : List RefreshTokenRow} {selects : RefreshTokenRow → Bool}
    {revokedAt : Nat} {reason : String} {session : Session} (found : sessionOf rows = some session)
    (all : ∀ row ∈ setRevoked rows selects revokedAt reason, row.revokedAt.isSome) :
    sessionOf (setRevoked rows selects revokedAt reason) = some session.close := by
  cases rows with
  | nil => cases found
  | cons row rows =>
    cases found
    have closed := List.all_eq_true.mpr all
    have tokens := setRevoked_map_tokenOf (row :: rows) selects revokedAt reason
    have user := (later_setRevoked selects revokedAt reason row).userId
    have cons : setRevoked (row :: rows) selects revokedAt reason =
      (if selects row then { row with revokedAt := some revokedAt, revocationReason := some reason }
        else row) :: setRevoked rows selects revokedAt reason := rfl
    rw [cons] at closed tokens ⊢
    simp only [sessionOf, closed, tokens, user, Session.close]

theorem sessionOf_append {rows : List RefreshTokenRow} {session : Session} (found : sessionOf rows = some session)
    {row : RefreshTokenRow} (active : row.revokedAt = none) :
    sessionOf (rows ++ [row]) = some { session.append (tokenOf row) with closed := false } := by
  cases rows with
  | nil => cases found
  | cons first rows =>
    cases found
    simp [sessionOf, Session.append, active]

theorem FamilyOrdered.of_all {rows : List RefreshTokenRow} (all : ∀ row ∈ rows, row.revokedAt.isSome)
    (user : ∀ row ∈ rows, ∀ other ∈ rows, row.userId = other.userId) : FamilyOrdered rows :=
  ⟨fun row member => all row (List.dropLast_subset _ member), user⟩

theorem setRevoked_user {rows : List RefreshTokenRow} {selects : RefreshTokenRow → Bool}
    {revokedAt : Nat} {reason : String}
    (user : ∀ row ∈ rows, ∀ other ∈ rows, row.userId = other.userId) :
    ∀ row ∈ setRevoked rows selects revokedAt reason,
      ∀ other ∈ setRevoked rows selects revokedAt reason, row.userId = other.userId := by
  intro row member other member'
  obtain ⟨old, stored, later⟩ := later_of_mem_setRevoked member
  obtain ⟨old', stored', later'⟩ := later_of_mem_setRevoked member'
  rw [later.userId, later'.userId]
  exact user old stored old' stored'

def sessionsOf (rows : List RefreshTokenRow) (sessionFamily : String) : Option Session :=
  sessionOf (familyRows rows sessionFamily)

structure TableOrdered (state : GatewayState) : Prop where
  valid : TableValid state
  ordered : ∀ sessionFamily, FamilyOrdered (familyRows state.refreshTokens sessionFamily)
  families : ∀ row ∈ state.refreshTokens, row.sessionFamily ∈ state.drawn

/-- The automaton the state implements. -/
structure Refines (state : GatewayState) (automaton : SessionAutomaton) : Prop where
  table : TableOrdered state
  clock : automaton.clock = state.clock
  sessions : automaton.sessions = sessionsOf state.refreshTokens

structure Closing (before after : List RefreshTokenRow) (sessionFamily : String) : Prop where
  others : ∀ family, family ≠ sessionFamily → familyRows after family = familyRows before family
  all : ∀ row ∈ familyRows after sessionFamily, row.revokedAt.isSome
  revoked : ∃ selects revokedAt reason, familyRows after sessionFamily =
    setRevoked (familyRows before sessionFamily) selects revokedAt reason

theorem Closing.sessions {before after : List RefreshTokenRow} {sessionFamily : String}
    (closing : Closing before after sessionFamily) {session : Session}
    (found : sessionsOf before sessionFamily = some session) :
    sessionsOf after = fun family =>
      if family = sessionFamily then some session.close else sessionsOf before family := by
  obtain ⟨selects, revokedAt, reason, same⟩ := closing.revoked
  funext family
  unfold sessionsOf
  split
  · rename_i equal
    rw [equal, same]
    exact sessionOf_setRevoked found (same ▸ closing.all)
  · rename_i different
    rw [closing.others family different]

theorem Closing.ordered {before after : List RefreshTokenRow} {sessionFamily : String}
    (closing : Closing before after sessionFamily)
    (ordered : ∀ family, FamilyOrdered (familyRows before family)) (family : String) :
    FamilyOrdered (familyRows after family) := by
  by_cases same : family = sessionFamily
  · subst same
    obtain ⟨selects, revokedAt, reason, equal⟩ := closing.revoked
    exact .of_all closing.all (equal ▸ setRevoked_user (ordered family).user)
  · rw [closing.others family same]
    exact ordered family

section Updates

variable {state : GatewayState} {row : RefreshTokenRow}

theorem TableOrdered.live (table : TableOrdered state) (member : row ∈ state.refreshTokens)
    (active : row.revokedAt = none) :
    ∃ session, sessionsOf state.refreshTokens row.sessionFamily = some session ∧
      session.current = some (tokenOf row) ∧ session.userId = row.userId := by
  have held : row ∈ familyRows state.refreshTokens row.sessionFamily := mem_familyRows.mpr ⟨member, rfl⟩
  cases found : sessionsOf state.refreshTokens row.sessionFamily with
  | none => exact absurd (sessionOf_eq_none.mp found) (List.ne_nil_of_mem held)
  | some session =>
    have stands := sessionOf_eq_some found
    have ordered := table.ordered row.sessionFamily
    exact ⟨session, rfl, (stands.current ordered).mpr ⟨row, held, active, rfl⟩,
      (stands.userId row held ordered).symm⟩

theorem revokeById_closing (table : TableOrdered state) (member : row ∈ state.refreshTokens)
    (active : row.revokedAt = none) (revokedAt : Nat) (reason : String) :
    Closing state.refreshTokens (setRevoked state.refreshTokens (·.id = row.id) revokedAt reason)
      row.sessionFamily where
  others := by
    intro family different
    rw [familyRows_setRevoked, setRevoked_none]
    intro other present
    obtain ⟨stored, inFamily⟩ := mem_familyRows.mp present
    have apart : other.id ≠ row.id := by
      intro same
      obtain rfl := table.valid.same_id stored member same
      exact different inFamily.symm
    simpa using apart
  all := by
    have held : row ∈ familyRows state.refreshTokens row.sessionFamily := mem_familyRows.mpr ⟨member, rfl⟩
    have newest := (table.ordered row.sessionFamily).newest held active
    intro other present
    rw [familyRows_setRevoked] at present
    obtain ⟨old, stored, rfl⟩ := mem_setRevoked.mp present
    split
    · rfl
    rename_i different
    rw [← newest] at stored
    rcases List.mem_append.mp stored with older | last
    · exact (table.ordered row.sessionFamily).older old older
    · obtain rfl := List.mem_singleton.mp last
      simp at different
  revoked := ⟨_, _, _, familyRows_setRevoked _ _ _ _ _⟩

theorem revokeFamily_closing (rows : List RefreshTokenRow) (sessionFamily : String) (revokedAt : Nat)
    (reason : String) :
    Closing rows (revokedFamily rows sessionFamily revokedAt reason) sessionFamily where
  others := by
    intro family different
    rw [revokedFamily, familyRows_setRevoked, setRevoked_none]
    intro other present
    have inFamily := (mem_familyRows.mp present).2
    simp [inFamily, different]
  all := by
    intro other present
    rw [revokedFamily, familyRows_setRevoked] at present
    obtain ⟨old, stored, rfl⟩ := mem_setRevoked.mp present
    split
    · rfl
    rename_i skipped
    have inFamily := (mem_familyRows.mp stored).2
    simp only [inFamily, true_and, decide_eq_true_eq] at skipped
    exact Option.isSome_iff_ne_none.mpr skipped
  revoked := ⟨_, _, _, familyRows_setRevoked _ _ _ _ _⟩

theorem sessionsOf_append {rows : List RefreshTokenRow} {session : Session}
    (found : sessionsOf rows row.sessionFamily = some session) (active : row.revokedAt = none) :
    sessionsOf (rows ++ [row]) = fun family => if family = row.sessionFamily
      then some { session.append (tokenOf row) with closed := false } else sessionsOf rows family := by
  funext family
  unfold sessionsOf
  rw [familyRows_append]
  by_cases same : family = row.sessionFamily
  · subst same
    rw [if_pos rfl, if_pos rfl]
    exact sessionOf_append found active
  · rw [if_neg (Ne.symm same), if_neg same]

theorem sessionsOf_begin {rows : List RefreshTokenRow}
    (fresh : sessionsOf rows row.sessionFamily = none) (active : row.revokedAt = none) :
    sessionsOf (rows ++ [row]) = fun family => if family = row.sessionFamily
      then some ⟨row.userId, [tokenOf row], false⟩ else sessionsOf rows family := by
  funext family
  unfold sessionsOf
  rw [familyRows_append]
  by_cases same : family = row.sessionFamily
  · subst same
    rw [if_pos rfl, if_pos rfl, sessionOf_eq_none.mp fresh]
    simp [sessionOf, active]
  · rw [if_neg (Ne.symm same), if_neg same]

theorem append_ordered {rows : List RefreshTokenRow}
    (ordered : ∀ family, FamilyOrdered (familyRows rows family))
    (all : ∀ other ∈ familyRows rows row.sessionFamily, other.revokedAt.isSome)
    (user : ∀ other ∈ familyRows rows row.sessionFamily, other.userId = row.userId) (family : String) :
    FamilyOrdered (familyRows (rows ++ [row]) family) := by
  rw [familyRows_append]
  split
  · rename_i same
    subst same
    refine ⟨by simpa using all, fun one member other member' => ?_⟩
    have owner : ∀ third ∈ familyRows rows row.sessionFamily ++ [row], third.userId = row.userId := by
      intro third held
      rcases List.mem_append.mp held with earlier | new
      · exact user third earlier
      · rw [List.mem_singleton.mp new]
    rw [owner one member, owner other member']
  · exact ordered family

end Updates

/-- The four kinds of calls one at a time, each with its answer, and passages of time. -/
inductive SerialStep (env : Env) (before : GatewayState) : SessionAct → GatewayState → Prop where
  | login {after} (userId : String) (metadata : RefreshTokenMetadata) (issued : IssuedRefreshToken)
      (ran : Alone env (issueRefreshToken env userId metadata none) before (.ok issued) after) :
      SerialStep env before (.login userId issued) after
  | rotate {after} (plaintextToken : String) (metadata : RefreshTokenMetadata)
      (answer : Except AppError RotationResult)
      (ran : Alone env (rotateRefreshToken env plaintextToken metadata) before (.ok answer) after) :
      SerialStep env before (.rotate plaintextToken answer) after
  | revokeByHash {after} (tokenHash reason : String)
      (ran : Alone env (revokeRefreshTokenByHash tokenHash reason) before (.ok ()) after) :
      SerialStep env before (.revokeByHash tokenHash) after
  | revokeMostRecent {after} (userId reason : String)
      (ran : Alone env (revokeMostRecentRefreshTokenForUser userId reason) before (.ok ()) after) :
      SerialStep env before (.revokeMostRecent userId) after
  | elapse (ms : Nat) : SerialStep env before (.elapse ms) (external (.elapse ms) before)

def serialSessions (env : Env) : Refinement.Machine GatewayState SessionAct where
  start := fun state => state.refreshTokens = []
  step := SerialStep env

theorem uses_anything {α : Type} (program : Gateway α) : program.Uses fun _ => True := by
  induction program with
  | done outcome => trivial
  | await op resume ih => exact ⟨trivial, fun reply => ih reply⟩

theorem TableValid.alone {env : Env} {α : Type} {program : Gateway α} {outcome : Except Thrown α}
    {before after : GatewayState} (valid : TableValid before)
    (completes : Alone env program before outcome after) : TableValid after :=
  completes.invariant (uses_anything program) valid fun _ _ _ _ _ _ valid executed =>
    valid.step (exec_tableStep executed)

theorem TableOrdered.untouched {before after : GatewayState} (table : TableOrdered before)
    (valid : TableValid after) (untouched : Untouched before after) : TableOrdered after where
  valid := valid
  ordered := by
    rw [untouched.rows]
    exact table.ordered
  families := fun row member => untouched.steady.drawn (table.families row (untouched.rows ▸ member))

theorem Refines.untouched {before after : GatewayState} {automaton : SessionAutomaton}
    (refines : Refines before automaton) (valid : TableValid after) (untouched : Untouched before after) :
    Refines after automaton where
  table := refines.table.untouched valid untouched
  clock := refines.clock.trans untouched.steady.clock.symm
  sessions := by rw [untouched.rows, refines.sessions]

theorem TableOrdered.closing {before after : GatewayState} (table : TableOrdered before)
    (valid : TableValid after) (steady : Steady before after) {sessionFamily : String}
    (closing : Closing before.refreshTokens after.refreshTokens sessionFamily)
    (later : ∀ row ∈ after.refreshTokens, ∃ old ∈ before.refreshTokens, Later old row) :
    TableOrdered after where
  valid := valid
  ordered := closing.ordered table.ordered
  families := by
    intro row member
    obtain ⟨old, stored, version⟩ := later row member
    rw [version.sessionFamily]
    exact steady.drawn (table.families old stored)

theorem Refines.closing {before after : GatewayState} {automaton : SessionAutomaton}
    (refines : Refines before automaton) (valid : TableValid after) (steady : Steady before after)
    {sessionFamily : String} (closing : Closing before.refreshTokens after.refreshTokens sessionFamily)
    (later : ∀ row ∈ after.refreshTokens, ∃ old ∈ before.refreshTokens, Later old row) {session : Session}
    (found : sessionsOf before.refreshTokens sessionFamily = some session) :
    Refines after (automaton.put sessionFamily session.close) where
  table := refines.table.closing valid steady closing later
  clock := refines.clock.trans steady.clock.symm
  sessions := by
    rw [closing.sessions found]
    simp only [SessionAutomaton.put, refines.sessions]

theorem Refines.held {state : GatewayState} {automaton : SessionAutomaton} (refines : Refines state automaton)
    {sessionFamily : String} {session : Session} {token : SessionToken} :
    automaton.Holds sessionFamily session token → ∃ row ∈ state.refreshTokens,
      row.sessionFamily = sessionFamily ∧ tokenOf row = token := by
  rintro ⟨found, issued⟩
  rw [refines.sessions] at found
  have stands := sessionOf_eq_some found
  rw [stands.issued] at issued
  obtain ⟨row, member, same⟩ := List.mem_map.mp issued
  obtain ⟨stored, inFamily⟩ := mem_familyRows.mp member
  exact ⟨row, stored, inFamily, same⟩

theorem Refines.unused {state : GatewayState} {automaton : SessionAutomaton} (refines : Refines state automaton)
    {tokenHash : String} (unique : ∀ row ∈ state.refreshTokens, row.tokenHash ≠ tokenHash) :
    automaton.Unused tokenHash := by
  intro sessionFamily session token held
  obtain ⟨row, member, _, rfl⟩ := refines.held held
  exact unique row member

theorem Refines.live {state : GatewayState} {automaton : SessionAutomaton} (refines : Refines state automaton)
    {sessionFamily : String} {session : Session} {token : SessionToken} :
    automaton.Live sessionFamily session token → ∃ row ∈ state.refreshTokens,
      row.sessionFamily = sessionFamily ∧ row.revokedAt = none ∧ row.userId = session.userId ∧
      tokenOf row = token := by
  rintro ⟨found, current⟩
  rw [refines.sessions] at found
  have stands := sessionOf_eq_some found
  have ordered := refines.table.ordered sessionFamily
  obtain ⟨row, member, active, same⟩ := (stands.current ordered).mp current
  obtain ⟨stored, inFamily⟩ := mem_familyRows.mp member
  exact ⟨row, stored, inFamily, active, stands.userId row member ordered, same⟩

theorem Refines.active {state : GatewayState} {automaton : SessionAutomaton} (refines : Refines state automaton)
    {row : RefreshTokenRow} (member : row ∈ state.refreshTokens) (active : row.revokedAt = none) :
    ∃ session, automaton.Live row.sessionFamily session (tokenOf row) ∧ session.userId = row.userId ∧
      sessionsOf state.refreshTokens row.sessionFamily = some session := by
  obtain ⟨session, found, current, user⟩ := refines.table.live member active
  refine ⟨session, ⟨?_, current⟩, user, found⟩
  rw [refines.sessions]
  exact found

theorem Refines.stale {state : GatewayState} {automaton : SessionAutomaton} (refines : Refines state automaton)
    {row : RefreshTokenRow} (member : row ∈ state.refreshTokens) (revoked : row.revokedAt.isSome) :
    ∃ session, automaton.Holds row.sessionFamily session (tokenOf row) ∧
      session.current ≠ some (tokenOf row) ∧
      sessionsOf state.refreshTokens row.sessionFamily = some session := by
  have held : row ∈ familyRows state.refreshTokens row.sessionFamily := mem_familyRows.mpr ⟨member, rfl⟩
  cases found : sessionsOf state.refreshTokens row.sessionFamily with
  | none => exact absurd (sessionOf_eq_none.mp found) (List.ne_nil_of_mem held)
  | some session =>
    have stands := sessionOf_eq_some found
    have ordered := refines.table.ordered row.sessionFamily
    refine ⟨session, ⟨?_, ?_⟩, ?_, rfl⟩
    · rw [refines.sessions]
      exact found
    · rw [stands.issued]
      exact List.mem_map_of_mem held
    · intro current
      obtain ⟨other, present, active, same⟩ := (stands.current ordered).mp current
      have hash : other.tokenHash = row.tokenHash := congrArg SessionToken.tokenHash same
      obtain rfl := refines.table.valid.same_hash (mem_familyRows.mp present).1 member hash
      rw [active] at revoked
      cases revoked

theorem rotated_refines {env : Env} {before middle after : GatewayState} {automaton : SessionAutomaton}
    (refines : Refines before automaton) (valid : TableValid after) {row : RefreshTokenRow}
    {issued : IssuedRefreshToken} (member : row ∈ before.refreshTokens) (active : row.revokedAt = none)
    (steady : Steady before middle)
    (rows : middle.refreshTokens = setRevoked before.refreshTokens (·.id = row.id) before.clock "rotation")
    (made : Issued env middle row.userId row.sessionFamily issued after) {session : Session}
    (live : automaton.Live row.sessionFamily session (tokenOf row))
    (found : sessionsOf before.refreshTokens row.sessionFamily = some session) :
    Refines after (automaton.put row.sessionFamily
      (session.append ⟨issued.tokenHash, automaton.clock, issued.expiresAt⟩)) := by
  have closing := revokeById_closing refines.table member active before.clock "rotation"
  rw [← rows] at closing
  obtain ⟨new, appended, user, family, hash, issuedAt, expiresAt, fresh⟩ := made.rows
  have token : tokenOf new = ⟨issued.tokenHash, automaton.clock, issued.expiresAt⟩ := by
    simp only [tokenOf, hash, issuedAt, expiresAt, steady.clock, refines.clock]
  have open_ : session.closed = false := by
    cases closed : session.closed with
    | false => rfl
    | true =>
      have current := live.2
      rw [Session.current, if_pos closed] at current
      cases current
  have closed : sessionsOf middle.refreshTokens new.sessionFamily = some session.close := by
    rw [closing.sessions found, family]
    exact if_pos rfl
  refine ⟨⟨valid, ?_, ?_⟩, ?_, ?_⟩
  · rw [appended]
    refine append_ordered (closing.ordered refines.table.ordered) (family.symm ▸ closing.all) ?_
    intro other held
    rw [family] at held
    obtain ⟨stored, inFamily⟩ := mem_familyRows.mp held
    rw [rows] at stored
    obtain ⟨old, present, later⟩ := later_of_mem_setRevoked stored
    have owner := (refines.table.ordered row.sessionFamily).user old
      (mem_familyRows.mpr ⟨present, later.sessionFamily.symm.trans inFamily⟩) row
      (mem_familyRows.mpr ⟨member, rfl⟩)
    rw [later.userId, owner, user]
  · intro other present
    rw [appended] at present
    rcases List.mem_append.mp present with stored | last
    · rw [rows] at stored
      obtain ⟨old, held, later⟩ := later_of_mem_setRevoked stored
      rw [later.sessionFamily]
      exact made.steady.drawn (steady.drawn (refines.table.families old held))
    · rw [List.mem_singleton.mp last, family]
      exact made.steady.drawn (steady.drawn (refines.table.families row member))
  · exact refines.clock.trans (made.steady.clock.trans steady.clock).symm
  · rw [appended, sessionsOf_append closed fresh, closing.sessions found, family, token]
    funext name
    simp only [SessionAutomaton.put, refines.sessions, Session.append, Session.close]
    by_cases same : name = row.sessionFamily <;> simp [same, open_]

theorem rotation_refines {env : Env} {before after : GatewayState} {automaton : SessionAutomaton}
    (refines : Refines before automaton) {plaintextToken : String} {answer : Except AppError RotationResult}
    (valid : TableValid after) (rotation : Rotation env plaintextToken before answer after) :
    ∃ later, AutomatonStep env.sha256Hex automaton (.rotate plaintextToken answer) later ∧
      Refines after later := by
  cases rotation with
  | unknown unknown untouched =>
    exact ⟨automaton, .unknown plaintextToken (refines.unused unknown), refines.untouched valid untouched⟩
  | reused row member presented revoked steady rows =>
    obtain ⟨session, held, stale, found⟩ := refines.stale member revoked
    refine ⟨_, .reused plaintextToken row.sessionFamily session (tokenOf row) held presented stale, ?_⟩
    have closing := revokeFamily_closing before.refreshTokens row.sessionFamily before.clock "reuse_detected"
    rw [← rows] at closing
    refine refines.closing valid steady closing ?_ found
    rw [rows]
    exact fun other => later_of_mem_setRevoked
  | expired row member presented active late untouched =>
    obtain ⟨session, live, _, _⟩ := refines.active member active
    refine ⟨automaton, .expired plaintextToken row.sessionFamily session (tokenOf row) live presented ?_,
      refines.untouched valid untouched⟩
    rw [refines.clock]
    exact late
  | rotated row result middle member presented active unexpired user steady rows made =>
    obtain ⟨session, live, owner, found⟩ := refines.active member active
    have family := made.family
    have unique : ∀ other ∈ before.refreshTokens, other.tokenHash ≠ result.issued.tokenHash := by
      intro other held
      obtain ⟨later, kept, version⟩ := setRevoked_later (·.id = row.id) before.clock "rotation" held
      rw [← version.tokenHash]
      exact made.unique later (rows ▸ kept)
    rw [← family] at live
    refine ⟨_, .rotated plaintextToken result session (tokenOf row) live presented ?_ (user.trans owner.symm)
      (refines.unused unique), ?_⟩
    · rw [refines.clock]
      exact unexpired
    · rw [family] at live ⊢
      exact rotated_refines refines valid member active steady rows made live found

theorem login_refines {env : Env} {before after : GatewayState} {automaton : SessionAutomaton}
    (refines : Refines before automaton) (valid : TableValid after) {userId : String}
    {issued : IssuedRefreshToken} (unseen : issued.sessionFamily ∉ before.drawn)
    (drawn : issued.sessionFamily ∈ after.drawn)
    (made : Issued env before userId issued.sessionFamily issued after) :
    ∃ later, AutomatonStep env.sha256Hex automaton (.login userId issued) later ∧ Refines after later := by
  obtain ⟨new, appended, user, family, hash, issuedAt, expiresAt, active⟩ := made.rows
  have empty : familyRows before.refreshTokens issued.sessionFamily = [] := by
    refine List.eq_nil_iff_forall_not_mem.mpr fun row held => ?_
    obtain ⟨stored, inFamily⟩ := mem_familyRows.mp held
    exact unseen (inFamily ▸ refines.table.families row stored)
  have fresh : sessionsOf before.refreshTokens issued.sessionFamily = none := sessionOf_eq_none.mpr empty
  have token : tokenOf new = ⟨issued.tokenHash, automaton.clock, issued.expiresAt⟩ := by
    simp only [tokenOf, hash, issuedAt, expiresAt, refines.clock]
  refine ⟨_, .login userId issued (by rw [refines.sessions]; exact fresh) (refines.unused made.unique),
    ⟨valid, ?_, ?_⟩, refines.clock.trans made.steady.clock.symm, ?_⟩
  · rw [appended]
    refine append_ordered refines.table.ordered ?_ ?_ <;> rw [family, empty] <;> simp
  · intro row present
    rw [appended] at present
    rcases List.mem_append.mp present with stored | last
    · exact made.steady.drawn (refines.table.families row stored)
    · rw [List.mem_singleton.mp last, family]
      exact drawn
  · rw [appended, sessionsOf_begin (family ▸ fresh) active, family, token, user]
    simp only [SessionAutomaton.put, refines.sessions]

theorem revokeRow_refines {before after : GatewayState} {automaton : SessionAutomaton}
    (refines : Refines before automaton) (valid : TableValid after) {row : RefreshTokenRow}
    (member : row ∈ before.refreshTokens) (active : row.revokedAt = none) (steady : Steady before after)
    {reason : String}
    (rows : after.refreshTokens = setRevoked before.refreshTokens (·.id = row.id) before.clock reason)
    {session : Session} (found : sessionsOf before.refreshTokens row.sessionFamily = some session) :
    Refines after (automaton.put row.sessionFamily session.close) := by
  have closing := revokeById_closing refines.table member active before.clock reason
  rw [← rows] at closing
  refine refines.closing valid steady closing ?_ found
  rw [rows]
  exact fun other => later_of_mem_setRevoked

theorem mem_activeOfUser {rows : List RefreshTokenRow} {userId : String} {row : RefreshTokenRow} :
    row ∈ activeOfUser rows userId ↔ row ∈ rows ∧ row.userId = userId ∧ row.revokedAt = none := by
  simp [activeOfUser]

theorem serial_step_refines {env : Env} {before after : GatewayState} {act : SessionAct}
    {automaton : SessionAutomaton} (refines : Refines before automaton)
    (step : SerialStep env before act after) :
    ∃ later, AutomatonStep env.sha256Hex automaton act later ∧ Refines after later := by
  cases step with
  | login userId metadata issued ran =>
    obtain ⟨unseen, drawn, made⟩ := issueRefreshToken_new_alone ran
    exact login_refines refines (refines.table.valid.alone ran) unseen drawn made
  | rotate plaintextToken metadata answer ran =>
    exact rotation_refines refines (refines.table.valid.alone ran) (rotateRefreshToken_alone ran)
  | revokeByHash tokenHash reason ran =>
    have valid := refines.table.valid.alone ran
    rcases revokeRefreshTokenByHash_alone ran with ⟨untouched, revoked⟩ |
      ⟨row, member, presented, active, steady, rows⟩
    · refine ⟨automaton, .notCurrent tokenHash ?_, refines.untouched valid untouched⟩
      intro sessionFamily session token live presented
      obtain ⟨row, member, _, active, _, rfl⟩ := refines.live live
      have gone := revoked row member presented fun other present same =>
        refines.table.valid.same_hash present member (same.trans presented.symm)
      rw [active] at gone
      cases gone
    · obtain ⟨session, live, _, found⟩ := refines.active member active
      exact ⟨_, .revoked tokenHash row.sessionFamily session (tokenOf row) live presented,
        revokeRow_refines refines valid member active steady rows found⟩
  | revokeMostRecent userId reason ran =>
    have valid := refines.table.valid.alone ran
    rcases revokeMostRecentRefreshTokenForUser_alone ran with ⟨untouched, none_active⟩ |
      ⟨row, latest, steady, rows⟩
    · refine ⟨automaton, .noSession userId ?_, refines.untouched valid untouched⟩
      intro sessionFamily session token live user
      obtain ⟨row, member, _, active, owner, _⟩ := refines.live live
      have held := mem_activeOfUser.mpr ⟨member, owner.trans user, active⟩
      rw [none_active] at held
      cases held
    · obtain ⟨held, greatest⟩ := List.mem_filter.mp latest
      obtain ⟨member, owner, active⟩ := mem_activeOfUser.mp held
      obtain ⟨session, live, user, found⟩ := refines.active member active
      refine ⟨_, .revokedLatest userId row.sessionFamily session (tokenOf row) live (user.trans owner) ?_,
        revokeRow_refines refines valid member active steady rows found⟩
      intro family other token live' user'
      obtain ⟨row', member', _, active', owner', rfl⟩ := refines.live live'
      have each := List.all_eq_true.mp greatest row' (mem_activeOfUser.mpr ⟨member', owner'.trans user', active'⟩)
      simpa [tokenOf] using each
  | elapse ms =>
    exact ⟨_, .elapse ms, ⟨⟨refines.table.valid.external (.elapse ms), refines.table.ordered,
      refines.table.families⟩, by simp [external, refines.clock], refines.sessions⟩⟩

theorem serial_start_refines {env : Env} (state : GatewayState) (start : (serialSessions env).start state) :
    ∃ automaton, (sessionAutomaton env.sha256Hex).start automaton ∧ Refines state automaton := by
  have empty : state.refreshTokens = [] := start
  have rows : ∀ family, familyRows state.refreshTokens family = [] := fun family => by simp [familyRows, empty]
  refine ⟨⟨state.clock, fun _ => none⟩, fun _ => rfl, ⟨⟨?_, ?_, ?_, ?_⟩, ?_, ?_⟩, rfl, ?_⟩
  · simp [empty]
  · simp [empty]
  · simp [empty]
  · simp [empty]
  · intro family
    rw [rows family]
    exact ⟨by simp, by simp⟩
  · simp [empty]
  · funext family
    simp [sessionsOf, rows family, sessionOf]

/-- The table refines the session automaton, call by call and answer by answer. -/
theorem serial_simulation (env : Env) :
    Refinement.Simulation (serialSessions env) (sessionAutomaton env.sha256Hex) Refines where
  start := serial_start_refines
  step := fun _ _ _ _ refines step => serial_step_refines refines step

end GatewayProof
