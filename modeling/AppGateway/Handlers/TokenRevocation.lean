import AppGateway.Handlers.LogoutScope
import AppGateway.Handlers.RevocationKeys
import AppGateway.Lists

namespace GatewayProof

open Async GatewayModel
open Async.Program (Completes completes_done completes_perform)
open Async.System (Reaches Modular next_cases next_threads advance_cases)

/-- The first millisecond at which `verifyAccessToken` no longer accepts a token with these claims. -/
def acceptedUntil (claims : JwtAccessTokenClaims) : Nat := (claims.exp + clockTolerance) * 1000

theorem lt_acceptedUntil {claims : JwtAccessTokenClaims} {now : Nat} :
    now < acceptedUntil claims ↔ now / 1000 < claims.exp + clockTolerance := by
  unfold acceptedUntil
  omega

/-- A request to the auth router, or a call of `verifyAccessToken` wherever a token is presented. -/
inductive AccessCall where
  | request (call : HandlerCall)
  | verify (token : PresentedToken)
deriving DecidableEq, Repr

inductive AccessAnswer where
  | request (answer : Answer)
  | verified (result : Except AppError JwtAccessTokenClaims)

def AccessCall.code (env : Env) : AccessCall → Gateway AccessAnswer
  | .request call => do return .request (← call.code env)
  | .verify token => do return .verified (← verifyAccessToken env token)

def AccessCall.presented : AccessCall → Option PresentedToken
  | .request call => call.bearer
  | .verify token => some token

abbrev accessCalls (env : Env) := processes env (AccessCall.code env)

abbrev AccessThread := GatewayThread AccessCall AccessAnswer
abbrev AccessConfig := GatewayConfig AccessCall AccessAnswer
abbrev AccessLabel := GatewayLabel AccessCall

abbrev AccessReachable (env : Env) := Reachable env (AccessCall.code env)

def LogsOutWith (accessToken : SignedJwt) (thread : AccessThread) : Prop :=
  ∃ refreshToken, thread.call = .request (.logout (some (.signed accessToken)) refreshToken)

/-- Revocations come late enough: a key that is set under the token's id outlives the token's acceptance
    by more than any call waits between its clock reading and its GET, and a logout that sets none
    answers only when the token is no longer accepted. -/
structure RevokesInTime (accessToken : SignedJwt) (patience : Nat) (config : AccessConfig)
    (label : AccessLabel) : Prop where
  set : ∀ index choice thread jwt read ttl, label = .step index choice →
    config.threads[index]? = some thread → thread.call.presented = some (.signed jwt) →
    jwt.claims.jti = accessToken.claims.jti →
    thread.program.pending = some (.redisSet (.revokedJti jwt.claims.jti) .flag ttl) →
    thread.past.getLast? = some ⟨.dateNow, .ok read⟩ →
    acceptedUntil accessToken.claims + patience ≤ config.state.expiry (ttlSeconds (jwt.claims.exp * 1000) read)
  unset : ∀ index choice thread entry, label = .step index choice → config.threads[index]? = some thread →
    LogsOutWith accessToken thread → ¬ SentRevocation thread.past accessToken.claims.jti →
    thread.program.pending = some (.insertAuditLog entry) →
    acceptedUntil accessToken.claims ≤ config.state.clock
  looked : ∀ index choice thread read, label = .step index choice → config.threads[index]? = some thread →
    thread.call.presented = some (.signed accessToken) →
    thread.program.pending = some (.redisGet (.revokedJti accessToken.claims.jti)) →
    thread.past.getLast? = some ⟨.dateNow, .ok read⟩ → config.state.clock ≤ read + patience

def ReadAt (past : List SessionEvent) (read : Nat) : Prop := past[1]? = some ⟨.dateNow, .ok read⟩

def Missed (past : List SessionEvent) (jti : String) : Prop :=
  past[2]? = some ⟨.redisGet (.revokedJti jti), .ok none⟩

def Accepted (presented : Option PresentedToken) (past : List SessionEvent) : Prop :=
  ∃ jwt read, presented = some (.signed jwt) ∧ ReadAt past read ∧ read < acceptedUntil jwt.claims ∧
    Missed past jwt.claims.jti

def AccessCall.Ends : AccessCall → List SessionEvent → Except Thrown AccessAnswer → Prop
  | .request (.logout bearer _), past, .ok (.request .noContent) =>
    RevocationEnds past (.ok .noContent) ∧ Accepted bearer past
  | .verify token, past, .ok (.verified (.ok _)) => Accepted (some token) past
  | _, _, _ => True

abbrev RevocationsValid : AccessConfig → Prop :=
  Modular.Holds TableValid (ProcessHolds (fun call : AccessCall => RevocationPermits call.presented)
    AccessCall.Ends)

def KeyHeld (state : GatewayState) (jti : String) : Prop := ∃ entry ∈ state.redis, entry.key = .revokedJti jti

/-- What keeps the token dead: every key under its id lives long enough, what was stored is there, and
    a logout that stored nothing came late. -/
structure RevocationKept (accessToken : SignedJwt) (patience : Nat) (config : AccessConfig) : Prop where
  keys : ∀ entry ∈ config.state.redis, entry.key = .revokedJti accessToken.claims.jti →
    acceptedUntil accessToken.claims + patience ≤ entry.expiresAt
  stored : ∀ thread ∈ config.threads, StoredRevocation thread.past accessToken.claims.jti →
    KeyHeld config.state accessToken.claims.jti
  audited : ∀ thread ∈ config.threads, LogsOutWith accessToken thread → Audited thread.past →
    ¬ SentRevocation thread.past accessToken.claims.jti → acceptedUntil accessToken.claims ≤ config.state.clock

/-- The token is past its acceptance or under a key, and no call that presents it and was begun in this
    place or later has missed the key. -/
structure Barred (accessToken : SignedJwt) (first : Nat) (config : AccessConfig) : Prop where
  killed : acceptedUntil accessToken.claims ≤ config.state.clock ∨ KeyHeld config.state accessToken.claims.jti
  calls : ∀ index thread read, first ≤ index → config.threads[index]? = some thread →
    thread.call.presented = some (.signed accessToken) → ReadAt thread.past read →
    acceptedUntil accessToken.claims ≤ read ∨
      KeyHeld config.state accessToken.claims.jti ∧ ¬ Missed thread.past accessToken.claims.jti

theorem RedisStep.key_kept {before after : GatewayState} {effect : Effect} {key : RedisKey}
    (step : RedisStep before after effect) (spared : effect ≠ .redisDel key)
    (held : ∃ entry ∈ before.redis, entry.key = key) : ∃ entry ∈ after.redis, entry.key = key := by
  obtain ⟨entry, member, rfl⟩ := held
  have kept : ∀ other value expiresAt,
      ∃ later ∈ before.redis.set other value expiresAt, later.key = entry.key := by
    intro other value expiresAt
    by_cases same : entry.key = other
    · exact ⟨_, List.mem_cons_self .., same.symm⟩
    · exact ⟨entry, List.mem_cons_of_mem _ (List.mem_filter.mpr ⟨member, by simpa using same⟩), rfl⟩
  cases step with
  | keep _ redis => exact ⟨entry, redis ▸ member, rfl⟩
  | set other value ttl redis => rw [redis]; exact kept _ _ _
  | setNx other value ttl free redis => rw [redis]; exact kept _ _ _
  | del other redis =>
    rw [redis]
    have different : entry.key ≠ other := fun same => spared (congrArg _ same.symm)
    exact ⟨entry, List.mem_filter.mpr ⟨member, by simpa using different⟩, rfl⟩

theorem set_stores {env : Env} {choice : Choice} {before after : GatewayState} {key : RedisKey}
    {value : RedisValue} {ttl : Nat}
    (executed : exec env (.redisSet key value ttl) choice before = some (.ok (), after)) :
    ∃ entry ∈ after.redis, entry.key = key := by
  cases exec_ok executed
  exact ⟨_, List.mem_cons_self .., rfl⟩

section Code

variable (env : Env)

theorem verifyAccessToken_accepted (token : PresentedToken) :
    (verifyAccessToken env token).Obeys (fun _ _ => True) (fun past outcome => ∀ claims,
      outcome = .ok (.ok claims) → Accepted (some token) past) [] := by
  refine ⟨trivial, fun loaded => ?_⟩
  rcases loaded with thrown | _
  · exact nofun
  refine ⟨trivial, fun clock => ?_⟩
  rcases clock with thrown | read
  · exact nofun
  simp only [Program.done_ok_bind]
  split
  · exact nofun
  · exact nofun
  · rename_i payload accepted
    obtain ⟨jwt, rfl, rfl, unexpired⟩ := jwtVerify_ok accepted
    refine ⟨trivial, fun looked => ?_⟩
    rcases looked with thrown | value
    · exact nofun
    cases value with
    | some held => exact nofun
    | none =>
      intro claims _
      exact ⟨jwt, read, rfl, rfl, lt_acceptedUntil.mpr unexpired, rfl⟩

theorem Accepted.extend {presented : Option PresentedToken} {past : List SessionEvent}
    (accepted : Accepted presented past) (events : List SessionEvent) : Accepted presented (past ++ events) := by
  obtain ⟨jwt, read, same, reading, early, missed⟩ := accepted
  have kept : ∀ (index : Nat) event, past[index]? = some event → (past ++ events)[index]? = some event := by
    intro index event found
    rw [List.getElem?_append_left (List.getElem?_eq_some_iff.mp found).1]
    exact found
  exact ⟨jwt, read, same, kept _ _ reading, early, kept _ _ missed⟩

theorem logout_accepted (bearer : Option PresentedToken) (refreshToken : Option String) :
    (logout env bearer refreshToken).Obeys (fun _ _ => True) (fun past outcome =>
      outcome = .ok .noContent → Accepted bearer past) [] := by
  have required : (requireAccessToken env bearer).Obeys (fun _ _ => True) (fun past outcome => ∀ claims,
      outcome = .ok (.ok claims) → Accepted bearer past) [] := by
    cases bearer with
    | none => exact nofun
    | some token => exact verifyAccessToken_accepted env token
  refine required.bind (fun _ _ _ => nofun) ?_
  rintro verified answer known
  rcases answer with error | auth
  · exact nofun
  have accepted := known auth rfl
  refine (Program.obeys_append _ _).weaken (fun _ _ permit => permit) ?_
  rintro _ _ ⟨events, rfl⟩ _
  exact accepted.extend events

theorem AccessCall.code_obeys (call : AccessCall) :
    (call.code env).Obeys (RevocationPermits call.presented) call.Ends [] := by
  cases call with
  | request call =>
    have code := HandlerCall.code_revocation_obeys env call
    cases call with
    | login client email password => exact code.bind (fun _ _ _ => trivial) fun _ _ _ => trivial
    | refresh client refreshToken idempotencyKey => exact code.bind (fun _ _ _ => trivial) fun _ _ _ => trivial
    | logout bearer refreshToken =>
      refine (code.also (logout_accepted env bearer refreshToken)).bind (fun _ _ _ => trivial) ?_
      rintro past answer ⟨ended, accepted⟩
      cases answer with
      | noContent => exact ⟨ended, accepted rfl⟩
      | _ => trivial
  | verify token =>
    have spares : ∀ (past events : List SessionEvent) op, Passive op →
      RevocationPermits (some token) (past ++ events) op :=
      fun _ _ _ passive => passive.sparesJtis.permitted _ _
    refine (((verifyAccessToken_passive env token).obeys (spares [])).also
      (verifyAccessToken_accepted env token)).bind (fun _ _ _ => trivial) ?_
    rintro past result ⟨_, accepted⟩
    cases result with
    | error error => trivial
    | ok claims => exact accepted claims rfl

end Code

section Steps

variable {env : Env} {accessToken : SignedJwt} {patience : Nat} {config after : AccessConfig} {label : AccessLabel}

theorem keys_next (kept : RevocationKept accessToken patience config) (valid : RevocationsValid config)
    (inTime : RevokesInTime accessToken patience config label)
    (moved : (accessCalls env).next config label = some after) {entry : Store.Entry RedisKey RedisValue}
    (member : entry ∈ after.state.redis) (named : entry.key = .revokedJti accessToken.claims.jti) :
    acceptedUntil accessToken.claims + patience ≤ entry.expiresAt := by
  rcases next_cases moved with ⟨call, _, rfl⟩ | ⟨index, choice, thread, later, state, rfl, found, stepped, rfl⟩ |
    ⟨place, old, _, _, rfl⟩ | ⟨event, _, rfl⟩
  · exact kept.keys entry member named
  · obtain ⟨effect, resume, reply, _, program, executed, rfl⟩ := advance_cases stepped
    have step : RedisStep config.state state effect := exec_redisStep executed
    have permit := (valid.2 thread (List.mem_of_getElem? found)).1.permitted program
    rcases step.entry_cases member with earlier | ⟨key, value, ttl, rfl, rfl | rfl⟩
    · exact kept.keys entry earlier named
    · obtain rfl : key = .revokedJti accessToken.claims.jti := named
      obtain ⟨rfl, jwt, read, bearer, same, reading, rfl⟩ := permit
      have pending : thread.program.pending = some (.redisSet (.revokedJti jwt.claims.jti) .flag
          (ttlSeconds (jwt.claims.exp * 1000) read)) := by rw [program, same]; rfl
      exact inTime.set index choice thread jwt read _ rfl found bearer same.symm pending reading
    · obtain rfl : key = .revokedJti accessToken.claims.jti := named
      exact permit.elim
  · exact kept.keys entry member named
  · exact kept.keys entry (external_redis event config.state ▸ member) named

theorem key_next (valid : RevocationsValid config) (moved : (accessCalls env).next config label = some after)
    {jti : String} (held : KeyHeld config.state jti) : KeyHeld after.state jti := by
  rcases next_cases moved with ⟨call, _, rfl⟩ | ⟨index, choice, thread, later, state, rfl, found, stepped, rfl⟩ |
    ⟨place, old, _, _, rfl⟩ | ⟨event, _, rfl⟩
  · exact held
  · obtain ⟨effect, resume, reply, _, program, executed, rfl⟩ := advance_cases stepped
    have step : RedisStep config.state state effect := exec_redisStep executed
    have permit := (valid.2 thread (List.mem_of_getElem? found)).1.permitted program
    refine step.key_kept ?_ held
    rintro rfl
    exact permit
  · exact held
  · unfold KeyHeld at held ⊢
    rw [← external_redis event config.state] at held
    exact held

theorem stored_revocation_next (kept : RevocationKept accessToken patience config) (valid : RevocationsValid config)
    (moved : (accessCalls env).next config label = some after) {thread : AccessThread}
    (member : thread ∈ after.threads) (stored : StoredRevocation thread.past accessToken.claims.jti) :
    KeyHeld after.state accessToken.claims.jti := by
  obtain ⟨index, found⟩ := List.getElem?_of_mem member
  rcases next_threads moved found with same | ⟨call, _, _, rfl⟩ | ⟨choice, old, _, there, advanced⟩ |
    ⟨old, _, there, rfl⟩
  · exact key_next valid moved (kept.stored thread (List.mem_of_getElem? same) stored)
  · obtain ⟨_, _, sent⟩ := stored
    cases sent
  · obtain ⟨effect, resume, reply, _, _, executed, rfl⟩ := advance_cases advanced
    obtain ⟨value, ttl, present⟩ := stored
    rcases List.mem_append.mp present with earlier | now
    · exact key_next valid moved (kept.stored old (List.mem_of_getElem? there) ⟨value, ttl, earlier⟩)
    · cases List.mem_singleton.mp now
      exact set_stores executed
  · exact key_next valid moved (kept.stored old (List.mem_of_getElem? there) stored)

theorem audited_next (kept : RevocationKept accessToken patience config)
    (inTime : RevokesInTime accessToken patience config label)
    (moved : (accessCalls env).next config label = some after) {thread : AccessThread}
    (member : thread ∈ after.threads) (logsOut : LogsOutWith accessToken thread) (audited : Audited thread.past)
    (unsent : ¬ SentRevocation thread.past accessToken.claims.jti) :
    acceptedUntil accessToken.claims ≤ after.state.clock := by
  have later : config.state.clock ≤ after.state.clock := (processes_grow moved).clock
  obtain ⟨index, found⟩ := List.getElem?_of_mem member
  rcases next_threads moved found with same | ⟨call, _, _, rfl⟩ | ⟨choice, old, label_eq, there, advanced⟩ |
    ⟨old, _, there, rfl⟩
  · exact Nat.le_trans (kept.audited thread (List.mem_of_getElem? same) logsOut audited unsent) later
  · obtain ⟨_, _, sent⟩ := audited
    cases sent
  · obtain ⟨effect, resume, reply, _, program, executed, rfl⟩ := advance_cases advanced
    have before : ¬ SentRevocation old.past accessToken.claims.jti := by
      rintro ⟨value, ttl, reply, sent⟩
      exact unsent ⟨value, ttl, reply, List.mem_append_left _ sent⟩
    obtain ⟨entry, reply, present⟩ := audited
    rcases List.mem_append.mp present with earlier | now
    · exact Nat.le_trans (kept.audited old (List.mem_of_getElem? there) logsOut ⟨entry, reply, earlier⟩ before) later
    · cases List.mem_singleton.mp now
      have pending : old.program.pending = some (.insertAuditLog entry) := by rw [program]; rfl
      exact Nat.le_trans (inTime.unset index choice old entry label_eq there logsOut before pending) later
  · exact Nat.le_trans (kept.audited old (List.mem_of_getElem? there) logsOut audited unsent) later

theorem RevocationKept.next (kept : RevocationKept accessToken patience config) (valid : RevocationsValid config)
    (inTime : RevokesInTime accessToken patience config label)
    (moved : (accessCalls env).next config label = some after) : RevocationKept accessToken patience after where
  keys := fun _ member named => keys_next kept valid inTime moved member named
  stored := fun _ member stored => stored_revocation_next kept valid moved member stored
  audited := fun _ member logsOut audited unsent => audited_next kept inTime moved member logsOut audited unsent

theorem looked_found (kept : RevocationKept accessToken patience config)
    (held : KeyHeld config.state accessToken.claims.jti) {read : Nat} (prompt : config.state.clock ≤ read + patience)
    (free : config.state.redis.get config.state.clock (.revokedJti accessToken.claims.jti) = none) :
    acceptedUntil accessToken.claims ≤ read := by
  by_contra early
  obtain ⟨entry, stored, named⟩ := held
  have lives := kept.keys entry stored named
  exact Store.Expiring.get_ne_none stored named (by omega) free

theorem Barred.calls_step {first index read : Nat} {choice : Choice} {state : GatewayState}
    (barred : Barred accessToken first config) (kept : RevocationKept accessToken patience config)
    (inTime : RevokesInTime accessToken patience config (.step index choice)) {old moved : AccessThread}
    (later : first ≤ index) (there : config.threads[index]? = some old)
    (advanced : (accessCalls env).advance choice config.state old = some (moved, state))
    (presents : old.call.presented = some (.signed accessToken)) (reading : ReadAt moved.past read) :
    acceptedUntil accessToken.claims ≤ read ∨
      KeyHeld config.state accessToken.claims.jti ∧ ¬ Missed moved.past accessToken.claims.jti := by
  obtain ⟨effect, resume, reply, _, program, executed, rfl⟩ := advance_cases advanced
  rcases Lists.concat_eq_some.mp reading with before | ⟨place, now⟩
  · rcases barred.calls index old read later there presents before with late | ⟨held, unmissed⟩
    · exact .inl late
    by_cases early : acceptedUntil accessToken.claims ≤ read
    · exact .inl early
    refine .inr ⟨held, fun missed => ?_⟩
    rcases Lists.concat_eq_some.mp missed with earlier | ⟨place, now⟩
    · exact unmissed earlier
    cases now
    have last : old.past.getLast? = some ⟨.dateNow, .ok read⟩ := by
      rw [List.getLast?_eq_getElem?, ← place]
      exact before
    have pending : old.program.pending = some (.redisGet (.revokedJti accessToken.claims.jti)) := by rw [program]; rfl
    have free : config.state.redis.get config.state.clock (.revokedJti accessToken.claims.jti) = none := by
      have responded := exec_ok executed
      simp only [respond, Option.some.injEq, Prod.mk.injEq, Except.ok.injEq] at responded
      exact responded.1
    exact early (looked_found kept held (inTime.looked index choice old read rfl there presents pending last) free)
  · cases now
    obtain rfl : read = config.state.clock := by
      cases exec_ok executed
      rfl
    refine barred.killed.imp_right fun held => ⟨held, fun missed => ?_⟩
    have outside : old.past.length + 1 ≤ 2 := by omega
    rw [Missed, List.getElem?_eq_none (by simpa using outside)] at missed
    cases missed

theorem Barred.next {first : Nat} (barred : Barred accessToken first config)
    (kept : RevocationKept accessToken patience config)
    (valid : RevocationsValid config) (inTime : RevokesInTime accessToken patience config label)
    (moved : (accessCalls env).next config label = some after) : Barred accessToken first after where
  killed := barred.killed.imp (fun late => Nat.le_trans late (processes_grow moved).clock) (key_next valid moved)
  calls := by
    have onward : ∀ {read : Nat} {missed : Prop}, (acceptedUntil accessToken.claims ≤ read ∨
        KeyHeld config.state accessToken.claims.jti ∧ missed) → acceptedUntil accessToken.claims ≤ read ∨
        KeyHeld after.state accessToken.claims.jti ∧ missed :=
      fun known => known.imp_right fun ⟨held, unmissed⟩ => ⟨key_next valid moved held, unmissed⟩
    intro index thread read later found presents reading
    rcases next_threads moved found with same | ⟨call, _, _, rfl⟩ | ⟨choice, old, rfl, there, advanced⟩ |
      ⟨old, _, there, rfl⟩
    · exact onward (barred.calls index thread read later same presents reading)
    · cases reading
    · have presented : old.call.presented = some (.signed accessToken) := by
        obtain ⟨_, _, _, _, _, _, rfl⟩ := advance_cases advanced
        exact presents
      exact onward (barred.calls_step kept inTime later there advanced presented reading)
    · exact onward (barred.calls index old read later there presents reading)

end Steps

theorem AccessReachable.revocationKept {env : Env} {accessToken : SignedJwt} {patience : Nat} {config : AccessConfig}
    (reachable : AccessReachable env (RevokesInTime accessToken patience) config) :
    RevocationsValid config ∧ RevocationKept accessToken patience config := by
  obtain ⟨clock, users, reached⟩ := reachable
  have initial : RevocationsValid (freshGateway clock users) ∧
      RevocationKept accessToken patience (freshGateway clock users) :=
    ⟨freshGateway_valid clock users, by constructor <;> simp [freshGateway]⟩
  have preserved : ∀ config label after, (RevocationsValid config ∧ RevocationKept accessToken patience config) →
      RevokesInTime accessToken patience config label → (accessCalls env).next config label = some after →
      RevocationsValid after ∧ RevocationKept accessToken patience after := fun config label after holds inTime moved =>
    ⟨processes_next (AccessCall.code_obeys env) holds.1 moved, holds.2.next holds.1 inTime moved⟩
  exact reached.invariant initial preserved

theorem RevocationKept.killed {accessToken : SignedJwt} {patience : Nat} {config : AccessConfig}
    (kept : RevocationKept accessToken patience config) (valid : RevocationsValid config) {thread : AccessThread}
    (member : thread ∈ config.threads) (logsOut : LogsOutWith accessToken thread)
    (answered : thread.answered (.ok (.request .noContent))) :
    acceptedUntil accessToken.claims ≤ config.state.clock ∨ KeyHeld config.state accessToken.claims.jti := by
  have ended := (valid.2 thread member).1.ended answered
  obtain ⟨refreshToken, call⟩ := logsOut
  rw [call] at ended
  obtain ⟨⟨audited, acknowledged⟩, _⟩ := ended
  by_cases sent : SentRevocation thread.past accessToken.claims.jti
  · exact .inr (kept.stored thread member (acknowledged _ sent))
  · exact .inl (kept.audited thread member ⟨refreshToken, call⟩ audited sent)

theorem Barred.onward {env : Env} {accessToken : SignedJwt} {patience : Nat} {config later : AccessConfig}
    (reachable : AccessReachable env (RevokesInTime accessToken patience) config)
    (since : Reaches (accessCalls env) (RevokesInTime accessToken patience) config later)
    (barred : Barred accessToken config.threads.length config) : Barred accessToken config.threads.length later := by
  obtain ⟨clock, users, reached⟩ := reachable
  have along := since.along fun middle between =>
    AccessReachable.revocationKept ⟨clock, users, reached.trans between⟩
  exact along.invariant barred fun _ _ _ holds allow moved => holds.next allow.2.2 allow.2.1 allow.1 moved

theorem Barred.refused {accessToken : SignedJwt} {first index : Nat} {config : AccessConfig} {thread : AccessThread}
    (barred : Barred accessToken first config) (later : first ≤ index) (found : config.threads[index]? = some thread)
    (presents : thread.call.presented = some (.signed accessToken)) : ¬ Accepted thread.call.presented thread.past := by
  rintro ⟨jwt, read, same, reading, early, missed⟩
  rw [presents] at same
  cases same
  rcases barred.calls index thread read later found presents reading with late | ⟨_, unmissed⟩
  · exact Nat.not_lt.mpr late early
  · exact unmissed missed

/-- In a run whose revocations come late enough, once a logout with a token has answered 204, no call of
    `verifyAccessToken` that begins afterwards accepts the token, and no further logout with it succeeds. -/
theorem logged_out_token_dead (env : Env) (accessToken : SignedJwt) (patience : Nat) (config : AccessConfig)
    (reachable : AccessReachable env (RevokesInTime accessToken patience) config) (thread : AccessThread)
    (member : thread ∈ config.threads) (logsOut : LogsOutWith accessToken thread)
    (answered : thread.answered (.ok (.request .noContent))) (later : AccessConfig)
    (since : Reaches (accessCalls env) (RevokesInTime accessToken patience) config later) (index : Nat)
    (begun : config.threads.length ≤ index) (presenting : AccessThread)
    (found : later.threads[index]? = some presenting) :
    (presenting.call = .verify (.signed accessToken) → ∀ claims, ¬ presenting.answered (.ok (.verified (.ok claims)))) ∧
    (LogsOutWith accessToken presenting → ¬ presenting.answered (.ok (.request .noContent))) := by
  obtain ⟨valid, kept⟩ := AccessReachable.revocationKept reachable
  have barred : Barred accessToken config.threads.length config := by
    refine ⟨kept.killed valid member logsOut answered, fun index thread read later found _ _ => ?_⟩
    exact absurd (List.getElem?_eq_some_iff.mp found).1 (Nat.not_lt.mpr later)
  have onward := Barred.onward reachable since barred
  have valid' : RevocationsValid later := by
    obtain ⟨clock, users, reached⟩ := reachable
    exact (AccessReachable.revocationKept ⟨clock, users, reached.trans since⟩).1
  have discipline := (valid'.2 presenting (List.mem_of_getElem? found)).1
  refine ⟨fun call claims accepted => ?_, fun ⟨refreshToken, call⟩ noContent => ?_⟩
  · have ended := discipline.ended accepted
    rw [call] at ended
    exact onward.refused begun found (by rw [call]; rfl) (by rw [call]; exact ended)
  · have ended := discipline.ended noContent
    rw [call] at ended
    exact onward.refused begun found (by rw [call]; rfl) (by rw [call]; exact ended.2)

theorem jwtVerify_later {env : Env} {token : PresentedToken} {now later : Nat} {claims : JwtAccessTokenClaims}
    (accepted : jwtVerify env token now = .ok claims) (after : now ≤ later)
    (early : later / 1000 < claims.exp + clockTolerance) : jwtVerify env token later = .ok claims := by
  unfold jwtVerify at accepted ⊢
  cases token with
  | forged text => cases accepted
  | signed jwt =>
    simp only at accepted ⊢
    split_ifs at accepted with kid iss aud immature late
    obtain rfl := Except.ok.inj accepted
    have mature : ¬ later / 1000 + clockTolerance < jwt.claims.nbf := by omega
    have inside : ¬ jwt.claims.exp + clockTolerance ≤ later / 1000 := Nat.not_le.mpr early
    simp [kid, iss, aud, mature, inside]

theorem verifyAccessToken_returns {env : Env} {token : PresentedToken} {claims : JwtAccessTokenClaims}
    {state : GatewayState} {sound : Choice → Prop} (good : sound {})
    (accepted : jwtVerify env token state.clock = .ok claims)
    (free : state.redis.get state.clock (.revokedJti claims.jti) = none) :
    Completes (exec env) sound (verifyAccessToken env token) state (.ok (.ok claims)) state := by
  have load : Completes (exec env) sound Gateway.loadSigningKeys state (.ok ()) state :=
    completes_perform.mpr ⟨{}, good, rfl⟩
  have read : Completes (exec env) sound Gateway.dateNow state (.ok state.clock) state :=
    completes_perform.mpr ⟨{}, good, rfl⟩
  have look : Completes (exec env) sound (isTokenRevoked claims.jti) state (.ok false) state := by
    have get : Completes (exec env) sound (Gateway.redisGet (.revokedJti claims.jti)) state
        (.ok (state.redis.get state.clock (.revokedJti claims.jti))) state :=
      completes_perform.mpr ⟨{}, good, rfl⟩
    rw [free] at get
    exact get.bind (.done _ _)
  refine load.bind (read.bind ?_)
  simp only [accepted]
  exact look.bind (.done _ _)

/-- At this instant no execution of `verifyAccessToken` in which each step comes at most `patience` after
    the one before it returns ok for the token. -/
def Dead (env : Env) (patience : Nat) (state : GatewayState) (accessToken : SignedJwt) : Prop :=
  ∀ claims after, ¬ Completes (execLater env) (fun choice => choice.1 ≤ patience)
    (verifyAccessToken env (.signed accessToken)) state (.ok (.ok claims)) after

theorem verifyAccessToken_accepts {env : Env} {accessToken : SignedJwt} {claims : JwtAccessTokenClaims} {patience : Nat}
    {before after : GatewayState}
    (completes : Completes (execLater env) (fun choice => choice.1 ≤ patience)
      (verifyAccessToken env (.signed accessToken)) before (.ok (.ok claims)) after) :
    ∃ read wait, before.clock ≤ read ∧ wait ≤ patience ∧ read < acceptedUntil accessToken.claims ∧
      before.redis.get (read + wait) (.revokedJti accessToken.claims.jti) = none := by
  obtain ⟨_, loaded, load, rest⟩ := Completes.bind_ok completes
  obtain ⟨⟨first, _⟩, _, executed⟩ := completes_perform.mp load
  cases exec_ok executed
  obtain ⟨now, read, reading, rest⟩ := Completes.bind_ok rest
  obtain ⟨⟨second, _⟩, _, executed⟩ := completes_perform.mp reading
  cases exec_ok executed
  split at rest
  · obtain ⟨answered, _⟩ := completes_done.mp rest
    cases answered
  · obtain ⟨answered, _⟩ := completes_done.mp rest
    cases answered
  · rename_i payload accepted
    obtain ⟨jwt, same, rfl, unexpired⟩ := jwtVerify_ok accepted
    cases same
    obtain ⟨revoked, looked, look, rest⟩ := Completes.bind_ok rest
    obtain ⟨value, got, get, finish⟩ := Completes.bind_ok look
    obtain ⟨⟨wait, _⟩, prompt, executed⟩ := completes_perform.mp get
    cases exec_ok executed
    obtain ⟨same, _⟩ := completes_done.mp finish
    cases same
    refine ⟨before.clock + first + second, wait, ?_, prompt, lt_acceptedUntil.mpr unexpired, ?_⟩
    · exact Nat.le_trans (Nat.le_add_right ..) (Nat.le_add_right ..)
    · split at rest
      · obtain ⟨answered, _⟩ := completes_done.mp rest
        cases answered
      · rename_i free
        exact Option.not_isSome_iff_eq_none.mp free

theorem verifyAccessToken_returns_later {env : Env} {token : PresentedToken} {claims : JwtAccessTokenClaims}
    {state : GatewayState} {patience : Nat} (accepted : jwtVerify env token state.clock = .ok claims)
    (free : state.redis.get (state.clock + patience) (.revokedJti claims.jti) = none) :
    Completes (execLater env) (fun choice => choice.1 ≤ patience) (verifyAccessToken env token) state (.ok (.ok claims))
      (external (.elapse patience) state) := by
  have load : Completes (execLater env) (fun choice => choice.1 ≤ patience) Gateway.loadSigningKeys state
    (.ok ()) state :=
    completes_perform.mpr ⟨(0, {}), Nat.zero_le _, rfl⟩
  have read : Completes (execLater env) (fun choice => choice.1 ≤ patience) Gateway.dateNow state
      (.ok state.clock) state := completes_perform.mpr ⟨(0, {}), Nat.zero_le _, rfl⟩
  have look : Completes (execLater env) (fun choice => choice.1 ≤ patience)
    (isTokenRevoked claims.jti) state (.ok false)
      (external (.elapse patience) state) := by
    have get : Completes (execLater env) (fun choice => choice.1 ≤ patience)
        (Gateway.redisGet (.revokedJti claims.jti)) state
        (.ok (state.redis.get (state.clock + patience) (.revokedJti claims.jti))) (external (.elapse patience) state) :=
      completes_perform.mpr ⟨(patience, {}), Nat.le_refl _, rfl⟩
    rw [free] at get
    exact get.bind (.done _ _)
  refine load.bind (read.bind ?_)
  simp only [accepted]
  exact look.bind (.done _ _)

/-- Left alone, a token that has been accepted stays dead exactly when it is past its acceptance or
    has a revocation key that lives until then and as long as a call may wait. -/
theorem dead_forever_iff {env : Env} {accessToken : SignedJwt} {claims : JwtAccessTokenClaims} {earlier patience : Nat}
    {state : GatewayState} (accepted : jwtVerify env (.signed accessToken) earlier = .ok claims)
    (since : earlier ≤ state.clock) :
    (∀ ms, Dead env patience (external (.elapse ms) state) accessToken) ↔
      acceptedUntil accessToken.claims ≤ state.clock ∨
      ∃ entry ∈ state.redis, entry.key = .revokedJti accessToken.claims.jti ∧
        acceptedUntil accessToken.claims + patience ≤ entry.expiresAt := by
  obtain ⟨jwt, same, rfl, unexpired⟩ := jwtVerify_ok accepted
  cases same
  constructor
  · intro dead
    by_contra neither
    push Not at neither
    obtain ⟨early, short⟩ := neither
    -- the last millisecond at which the token is accepted
    have moment : state.clock + (acceptedUntil accessToken.claims - 1 - state.clock) =
        acceptedUntil accessToken.claims - 1 := by omega
    have inside : (acceptedUntil accessToken.claims - 1) / 1000 < accessToken.claims.exp + clockTolerance :=
      lt_acceptedUntil.mp (by omega)
    apply dead (acceptedUntil accessToken.claims - 1 - state.clock) accessToken.claims _
    apply verifyAccessToken_returns_later
    · apply jwtVerify_later accepted
      · exact Nat.le_trans since (Nat.le_add_right _ _)
      · simpa only [external, moment] using inside
    · by_contra held
      obtain ⟨value, found⟩ := Option.ne_none_iff_exists'.mp held
      obtain ⟨entry, stored, named, _, live⟩ := Store.Expiring.mem_of_get found
      have gone := short entry stored named
      simp only [external, moment] at live
      omega
  · intro listed ms claims after completes
    obtain ⟨read, wait, started, prompt, early, free⟩ := verifyAccessToken_accepts completes
    have passed : state.clock + ms ≤ read := started
    rcases listed with late | ⟨entry, stored, named, long⟩
    · omega
    · exact Store.Expiring.get_ne_none stored named (by omega) free

def sampleToken : SignedJwt where
  kid := "kid-1"
  claims :=
    { sub := "u", email := "u@example.com", roles := ["viewer"], auth_method := .password, tenant_id := none
      scope := "openid profile email api:read", iat := 0, nbf := 0, exp := 900
      iss := "http://localhost:3000", aud := "platform", jti := "j0" }

def asAccess : HandlerLabel → AccessLabel
  | .call call => .call (.request call)
  | .step index choice => .step index choice
  | .crash index => .crash index
  | .external event => .external event

def isRevocation (jti : String) (event : SessionEvent) : Bool :=
  match event.op with
  | .redisSet (.revokedJti other) _ _ => other = jti
  | _ => false

def revokesInTime (accessToken : SignedJwt) (patience : Nat) (config : AccessConfig) (label : AccessLabel) : Bool :=
  match label with
  | .step index _ =>
    config.threads[index]?.all fun thread =>
      match thread.call.presented, thread.program.pending, thread.past.getLast? with
      | some (.signed jwt), some (.redisSet (.revokedJti _) _ _), some ⟨.dateNow, .ok read⟩ =>
        acceptedUntil accessToken.claims + patience ≤ config.state.expiry (ttlSeconds (jwt.claims.exp * 1000) read)
      | _, some (.redisGet (.revokedJti _)), some ⟨.dateNow, .ok read⟩ => config.state.clock ≤ read + patience
      | presented, some (.insertAuditLog _), _ =>
        thread.past.any (isRevocation accessToken.claims.jti) || presented.isNone
      | _, _, _ => true
  | _ => true

theorem revokesInTime_sound {accessToken : SignedJwt} {patience : Nat} {config : AccessConfig} {label : AccessLabel}
    (passed : revokesInTime accessToken patience config label = true) :
    RevokesInTime accessToken patience config label where
  set := by
    intro index choice thread jwt read ttl same found presented _ pending reading
    subst same
    simp only [revokesInTime, found, Option.all_some, presented, pending, reading, decide_eq_true_eq] at passed
    exact passed
  unset := by
    intro index choice thread entry same found logsOut unsent pending
    subst same
    obtain ⟨refreshToken, call⟩ := logsOut
    simp only [revokesInTime, found, call, pending, AccessCall.presented, HandlerCall.bearer, Option.all_some,
      Bool.or_eq_true, List.any_eq_true, Option.isNone_some, Bool.false_eq_true, or_false] at passed
    obtain ⟨⟨op, reply⟩, member, revocation⟩ := passed
    unfold isRevocation at revocation
    split at revocation
    · rename_i jti value ttl same
      obtain rfl : jti = accessToken.claims.jti := of_decide_eq_true revocation
      obtain rfl : op = _ := same
      exact (unsent ⟨value, ttl, reply, member⟩).elim
    · cases revocation
  looked := by
    intro index choice thread read same found presented pending reading
    subst same
    simp only [revokesInTime, found, Option.all_some, presented, pending, reading, decide_eq_true_eq] at passed
    exact passed

def answered204 (config : AccessConfig) (index : Nat) : Bool :=
  config.threads[index]?.any fun thread =>
    decide (thread.call = .request (.logout (some (.signed sampleToken)) none)) &&
      match thread.program with
      | .done (.ok (.request .noContent)) => true
      | _ => false

theorem answered204_spec {config : AccessConfig} {index : Nat} (passed : answered204 config index = true) :
    ∃ thread ∈ config.threads, LogsOutWith sampleToken thread ∧ thread.answered (.ok (.request .noContent)) := by
  simp only [answered204, Option.any_eq_true, Bool.and_eq_true, decide_eq_true_eq] at passed
  obtain ⟨thread, found, call, ended⟩ := passed
  refine ⟨thread, List.mem_of_getElem? found, ⟨none, call⟩, ?_⟩
  split at ended
  · assumption
  · cases ended

def verifiedAs (result : Except AppError JwtAccessTokenClaims) (index : Nat) (config : AccessConfig) : Bool :=
  config.threads[index]?.any fun thread =>
    decide (thread.call = .verify (.signed sampleToken)) &&
      match thread.program with
      | .done (.ok (.verified other)) => decide (other = result)
      | _ => false

theorem verifiedAs_spec {result : Except AppError JwtAccessTokenClaims} {index : Nat} {config : AccessConfig}
    (passed : verifiedAs result index config = true) : ∃ thread, config.threads[index]? = some thread ∧
      thread.call = .verify (.signed sampleToken) ∧ thread.answered (.ok (.verified result)) := by
  simp only [verifiedAs, Option.any_eq_true, Bool.and_eq_true, decide_eq_true_eq] at passed
  obtain ⟨thread, found, call, ended⟩ := passed
  refine ⟨thread, found, call, ?_⟩
  split at ended
  · rename_i program
    rw [decide_eq_true_eq] at ended
    exact ended ▸ program
  · cases ended

def delayedLogout : List AccessLabel :=
  (logIn 0 "j0" "f" "t0" "r0").map asAccess ++
  [.external (.elapse 899000), .call (.request (.logout (some (.signed sampleToken)) none))] ++
  steps 1 4 ++ [.external (.elapse 30500)] ++ steps 1 7

def lateLook (ms : Nat) : List AccessLabel :=
  [.call (.verify (.signed sampleToken))] ++ steps 2 2 ++ [.external (.elapse ms)] ++ steps 2 1

/-- The delayed logout has killed a token that would still have been accepted, also for a call that waits
    half a second. -/
theorem delayed_logout_dead : ∃ config later presenting,
    AccessReachable sampleEnv (RevokesInTime sampleToken 500) config ∧
    (∃ thread ∈ config.threads, LogsOutWith sampleToken thread ∧ thread.answered (.ok (.request .noContent))) ∧
    config.state.clock < acceptedUntil sampleToken.claims ∧
    Reaches (accessCalls sampleEnv) (RevokesInTime sampleToken 500) config later ∧
    later.threads[2]? = some presenting ∧ presenting.answered (.ok (.verified (.error tokenRevokedError))) ∧
    ∀ claims, ¬ presenting.answered (.ok (.verified (.ok claims))) := by
  have passed : ((accessCalls sampleEnv).runChecked (revokesInTime sampleToken 500) delayedLogout
      (freshGateway 0 [sampleUser "u" "u@example.com"])).any (fun config => answered204 config 1 &&
        decide (config.state.clock < acceptedUntil sampleToken.claims) && decide (config.threads.length = 2) &&
        ((accessCalls sampleEnv).runChecked (revokesInTime sampleToken 500) (lateLook 500) config).any
          (verifiedAs (.error tokenRevokedError) 2)) = true := by decide
  obtain ⟨config, reached, checked⟩ := Reaches.of_checks (fun _ _ => revokesInTime_sound) passed
  simp only [Bool.and_eq_true, decide_eq_true_eq] at checked
  obtain ⟨⟨⟨logout, early⟩, count⟩, looks⟩ := checked
  obtain ⟨later, onward, refused⟩ := Reaches.of_checks (fun _ _ => revokesInTime_sound) looks
  obtain ⟨thread, member, logsOut, answered⟩ := answered204_spec logout
  obtain ⟨presenting, found, call, revoked⟩ := verifiedAs_spec refused
  have reachable : AccessReachable sampleEnv (RevokesInTime sampleToken 500) config := ⟨_, _, reached⟩
  refine ⟨config, later, presenting, reachable, ⟨thread, member, logsOut, answered⟩, early, onward, found, revoked, ?_⟩
  exact (logged_out_token_dead sampleEnv sampleToken 500 config reachable thread member logsOut answered later onward 2
    (by omega) presenting found).1 call

def promptLogout : List AccessLabel :=
  (logIn 0 "j0" "f" "t0" "r0").map asAccess ++
  [.external (.elapse 1000), .call (.request (.logout (some (.signed sampleToken)) none))] ++
  steps 1 11 ++ [.external (.elapse 899000)]

/-- The revocation key is gone at `exp`, and the token is accepted again. -/
theorem prompt_logout_revived : ∃ config later presenting, AccessReachable sampleEnv System.anyStep config ∧
    (∃ thread ∈ config.threads, LogsOutWith sampleToken thread ∧ thread.answered (.ok (.request .noContent))) ∧
    Reaches (accessCalls sampleEnv) System.anyStep config later ∧ config.threads.length = 2 ∧
    later.threads[2]? = some presenting ∧ presenting.call = .verify (.signed sampleToken) ∧
    presenting.answered (.ok (.verified (.ok sampleToken.claims))) := by
  have passed : ((accessCalls sampleEnv).run promptLogout (freshGateway 0 [sampleUser "u" "u@example.com"])).any
      (fun config => answered204 config 1 && decide (config.threads.length = 2) &&
        ((accessCalls sampleEnv).run (lateLook 0) config).any (verifiedAs (.ok sampleToken.claims) 2)) =
        true := by decide
  obtain ⟨config, reached, checked⟩ := Reaches.of_check passed
  simp only [Bool.and_eq_true, decide_eq_true_eq] at checked
  obtain ⟨⟨logout, count⟩, looks⟩ := checked
  obtain ⟨later, onward, accepted⟩ := Reaches.of_check looks
  obtain ⟨presenting, found, call, answered⟩ := verifiedAs_spec accepted
  exact ⟨config, later, presenting, ⟨_, _, reached⟩, answered204_spec logout, onward, count, found, call, answered⟩

end GatewayProof
