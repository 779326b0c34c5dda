import AppGateway.Refinement.Simulation
import AppGateway.Model.RefreshTokenService

namespace GatewayProof

open GatewayModel

structure SessionToken where
  tokenHash : String
  issuedAt : Nat
  expiresAt : Nat
deriving DecidableEq, Repr

/-- One session family: its user and the tokens issued in it, the newest last. -/
structure Session where
  userId : String
  issued : List SessionToken
  closed : Bool
deriving DecidableEq, Repr

def Session.current (session : Session) : Option SessionToken :=
  if session.closed then none else session.issued.getLast?

def Session.close (session : Session) : Session := { session with closed := true }

def Session.append (session : Session) (token : SessionToken) : Session :=
  { session with issued := session.issued ++ [token] }

structure SessionAutomaton where
  clock : Nat
  sessions : String → Option Session

namespace SessionAutomaton

def put (automaton : SessionAutomaton) (sessionFamily : String) (session : Session) : SessionAutomaton :=
  { automaton with sessions := fun family =>
      if family = sessionFamily then some session else automaton.sessions family }

@[simp] theorem put_clock (automaton : SessionAutomaton) (sessionFamily : String) (session : Session) :
    (automaton.put sessionFamily session).clock = automaton.clock := rfl

@[simp] theorem put_same (automaton : SessionAutomaton) (sessionFamily : String) (session : Session) :
    (automaton.put sessionFamily session).sessions sessionFamily = some session := if_pos rfl

theorem put_other (automaton : SessionAutomaton) {sessionFamily family : String} (session : Session)
    (different : family ≠ sessionFamily) :
    (automaton.put sessionFamily session).sessions family = automaton.sessions family := if_neg different

def Holds (automaton : SessionAutomaton) (sessionFamily : String) (session : Session)
    (token : SessionToken) : Prop :=
  automaton.sessions sessionFamily = some session ∧ token ∈ session.issued

def Unused (automaton : SessionAutomaton) (tokenHash : String) : Prop :=
  ∀ sessionFamily session token, automaton.Holds sessionFamily session token → token.tokenHash ≠ tokenHash

def Live (automaton : SessionAutomaton) (sessionFamily : String) (session : Session)
    (token : SessionToken) : Prop :=
  automaton.sessions sessionFamily = some session ∧ session.current = some token

end SessionAutomaton

inductive SessionAct where
  | login (userId : String) (issued : IssuedRefreshToken)
  | rotate (plaintextToken : String) (answer : Except AppError RotationResult)
  | revokeByHash (tokenHash : String)
  | revokeMostRecent (userId : String)
  | elapse (ms : Nat)

/-- What a session is for: one current token, replaced at every rotation, until the session is closed. -/
inductive AutomatonStep (hash : String → String) (before : SessionAutomaton) :
    SessionAct → SessionAutomaton → Prop where
  | login (userId : String) (issued : IssuedRefreshToken)
      (fresh : before.sessions issued.sessionFamily = none) (unused : before.Unused issued.tokenHash) :
      AutomatonStep hash before (.login userId issued) (before.put issued.sessionFamily
        ⟨userId, [⟨issued.tokenHash, before.clock, issued.expiresAt⟩], false⟩)
  | rotated (plaintextToken : String) (result : RotationResult) (session : Session) (token : SessionToken)
      (live : before.Live result.issued.sessionFamily session token)
      (presented : token.tokenHash = hash plaintextToken) (unexpired : before.clock < token.expiresAt)
      (user : result.userId = session.userId) (unused : before.Unused result.issued.tokenHash) :
      AutomatonStep hash before (.rotate plaintextToken (.ok result))
        (before.put result.issued.sessionFamily (session.append
          ⟨result.issued.tokenHash, before.clock, result.issued.expiresAt⟩))
  | reused (plaintextToken sessionFamily : String) (session : Session) (token : SessionToken)
      (held : before.Holds sessionFamily session token) (presented : token.tokenHash = hash plaintextToken)
      (stale : session.current ≠ some token) :
      AutomatonStep hash before (.rotate plaintextToken (.error tokenReuseDetectedError))
        (before.put sessionFamily session.close)
  | expired (plaintextToken sessionFamily : String) (session : Session) (token : SessionToken)
      (live : before.Live sessionFamily session token) (presented : token.tokenHash = hash plaintextToken)
      (late : token.expiresAt ≤ before.clock) :
      AutomatonStep hash before
        (.rotate plaintextToken (.error (unauthorizedError "Refresh token has expired"))) before
  | unknown (plaintextToken : String) (unused : before.Unused (hash plaintextToken)) :
      AutomatonStep hash before
        (.rotate plaintextToken (.error (unauthorizedError "Refresh token is invalid"))) before
  | revoked (tokenHash sessionFamily : String) (session : Session) (token : SessionToken)
      (live : before.Live sessionFamily session token) (presented : token.tokenHash = tokenHash) :
      AutomatonStep hash before (.revokeByHash tokenHash) (before.put sessionFamily session.close)
  | notCurrent (tokenHash : String) (idle : ∀ sessionFamily session token,
      before.Live sessionFamily session token → token.tokenHash ≠ tokenHash) :
      AutomatonStep hash before (.revokeByHash tokenHash) before
  | revokedLatest (userId sessionFamily : String) (session : Session) (token : SessionToken)
      (live : before.Live sessionFamily session token) (user : session.userId = userId)
      (latest : ∀ family other token', before.Live family other token' → other.userId = userId →
        token'.issuedAt ≤ token.issuedAt) :
      AutomatonStep hash before (.revokeMostRecent userId) (before.put sessionFamily session.close)
  | noSession (userId : String) (idle : ∀ sessionFamily session token,
      before.Live sessionFamily session token → session.userId ≠ userId) :
      AutomatonStep hash before (.revokeMostRecent userId) before
  | elapse (ms : Nat) : AutomatonStep hash before (.elapse ms) { before with clock := before.clock + ms }

def sessionAutomaton (hash : String → String) : Refinement.Machine SessionAutomaton SessionAct where
  start := fun automaton => ∀ sessionFamily, automaton.sessions sessionFamily = none
  step := AutomatonStep hash

theorem closed_step {hash : String → String} {before after : SessionAutomaton} {act : SessionAct}
    (step : AutomatonStep hash before act after) {sessionFamily : String}
    (closed : ∃ session, before.sessions sessionFamily = some session ∧ session.closed = true) :
    ∃ session, after.sessions sessionFamily = some session ∧ session.closed = true := by
  obtain ⟨held, found, closed⟩ := closed
  have closing : ∀ family (session : Session), before.sessions family = some session →
      ∃ later, (before.put family session.close).sessions sessionFamily = some later ∧ later.closed = true := by
    intro family session _
    by_cases same : sessionFamily = family
    · subst same
      exact ⟨session.close, before.put_same sessionFamily _, rfl⟩
    · exact ⟨held, (before.put_other _ same).trans found, closed⟩
  cases step with
  | login userId issued fresh unused =>
    have different : sessionFamily ≠ issued.sessionFamily := by
      rintro rfl
      rw [fresh] at found
      cases found
    exact ⟨held, (before.put_other _ different).trans found, closed⟩
  | rotated plaintextToken result session token live presented unexpired user unused =>
    have different : sessionFamily ≠ result.issued.sessionFamily := by
      rintro rfl
      obtain rfl := Option.some.inj (found.symm.trans live.1)
      have current := live.2
      rw [Session.current, if_pos closed] at current
      cases current
    exact ⟨held, (before.put_other _ different).trans found, closed⟩
  | reused plaintextToken family session token holds presented stale => exact closing family session holds.1
  | revoked tokenHash family session token live presented => exact closing family session live.1
  | revokedLatest userId family session token live user latest => exact closing family session live.1
  | expired | unknown | notCurrent | noSession | elapse => exact ⟨held, found, closed⟩

theorem closed_runs {hash : String → String} {before after : SessionAutomaton} {acts : List SessionAct}
    (runs : (sessionAutomaton hash).Runs before acts after) {sessionFamily : String}
    (closed : ∃ session, before.sessions sessionFamily = some session ∧ session.closed = true) :
    ∃ session, after.sessions sessionFamily = some session ∧ session.closed = true := by
  induction runs with
  | refl => exact closed
  | snoc _ moved ih => exact closed_step moved ih

end GatewayProof
