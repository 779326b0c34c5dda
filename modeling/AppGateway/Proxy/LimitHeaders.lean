import AppGateway.Async.Replay
import AppGateway.Proxy.RateLimit

namespace GatewayProof

open Async GatewayModel
open Async.Program (Follows follows_done follows_await)

def SentHeader (events : List ProxyEvent) (name value : String) : Prop :=
  ∃ reply, ⟨.setHeader name value, reply⟩ ∈ events

section Histories

variable {env : ProxyEnv} {call : LimiterCall} {events : List ProxyEvent} {answer : Option AppError}
  {maxRequests count windowResetAtMs : Nat}

inductive Limited (maxRequests count windowResetAtMs : Nat) (events : List ProxyEvent) : Option AppError → Prop where
  | admitted (fits : count ≤ maxRequests) : Limited maxRequests count windowResetAtMs events none
  | refused (exceeds : maxRequests < count) (now : Nat) (clock : ⟨.gateway .dateNow, .ok now⟩ ∈ events)
      (remaining : SentHeader events "X-RateLimit-Remaining" (toString (maxRequests - count)))
      (reset : SentHeader events "X-RateLimit-Reset" (toString (windowResetAtMs / 1000)))
      (retryAfter : SentHeader events "Retry-After" (toString (max 1 ((windowResetAtMs - now + 999) / 1000)))) :
      Limited maxRequests count windowResetAtMs events (some tooManyRequestsError)

theorem limitRequest_limited
    (follows : (limitRequest maxRequests count windowResetAtMs).Follows events (.done (.ok answer))) :
    Limited maxRequests count windowResetAtMs events answer := by
  obtain ⟨_, _, rfl, limit⟩ := follows_await.mp follows
  obtain ⟨second, _, rfl, remaining⟩ := follows_await.mp limit
  obtain ⟨third, _, rfl, reset⟩ := follows_await.mp remaining
  simp only [Program.done_ok_bind] at reset
  by_cases exceeds : maxRequests < count
  · simp only [exceeds, if_true] at reset
    obtain ⟨clock, _, rfl, reading⟩ := follows_await.mp reset
    rcases clock with thrown | now
    · cases (follows_done.mp reading).2
    obtain ⟨last, _, rfl, retry⟩ := follows_await.mp reading
    obtain ⟨rfl, same⟩ := follows_done.mp retry
    cases same
    exact .refused exceeds now (by simp) ⟨second, by simp⟩ ⟨third, by simp⟩ ⟨last, by simp⟩
  · simp only [exceeds, if_false] at reset
    obtain ⟨rfl, same⟩ := follows_done.mp reset
    cases same
    exact .admitted (Nat.not_lt.mp exceeds)

inductive LimiterCase (env : ProxyEnv) (call : LimiterCall) (events : List ProxyEvent)
    (answer : Option AppError) : Prop where
  | failedOpen (passed : answer = none)
    (first : ∀ (key : String) (count : Nat), ⟨.redisIncr key, .ok count⟩ ∈ events → count = 1)
  | counted (now count : Nat) (rest : List ProxyEvent) (first : events.head? = some ⟨.gateway .dateNow, .ok now⟩)
      (incr : ∀ (key : String) (other : Nat), ⟨.redisIncr key, .ok other⟩ ∈ events ↔
        key = counterKey call.base (now / call.windowMs env) ∧ other = count)
      (behind : rest ⊆ events.tail)
      (limited : Limited (call.maxRequests env) count ((now / call.windowMs env + 1) * call.windowMs env) rest answer)

theorem rateLimiter_cases
    (follows : (rateLimiter env call.options call.req).Follows events (.done (.ok answer))) :
    LimiterCase env call events answer := by
  obtain ⟨clock, later, rfl, reading⟩ := follows_await.mp follows
  rcases clock with thrown | now
  · cases (follows_done.mp reading).2
  obtain ⟨counted, later, rfl, behind⟩ := follows_await.mp reading
  rcases counted with thrown | count
  · obtain ⟨rfl, same⟩ := follows_done.mp behind
    cases same
    exact .failedOpen rfl (by simp)
  by_cases first : count = 1
  · subst first
    obtain ⟨expires, later, rfl, rest⟩ := follows_await.mp behind
    rcases expires with thrown | _
    · obtain ⟨rfl, same⟩ := follows_done.mp rest
      cases same
      exact .failedOpen rfl (by simp)
    · have uncounted := rest.uses (limitRequest_uncounted _ _ _)
      refine .counted now 1 later rfl (fun key other => ?_) (by simp) (limitRequest_limited rest)
      have absent : ⟨.redisIncr key, .ok other⟩ ∉ later := fun member => uncounted _ member key rfl
      simp [absent, counterKey, LimiterCall.base, LimiterCall.windowMs]
  · simp only [Program.done_ok_bind, first, if_false] at behind
    have uncounted := behind.uses (limitRequest_uncounted _ _ _)
    refine .counted now count later rfl (fun key other => ?_) (by simp) (limitRequest_limited behind)
    have absent : ⟨.redisIncr key, .ok other⟩ ∉ later := fun member => uncounted _ member key rfl
    simp [absent, counterKey, LimiterCall.base, LimiterCall.windowMs]

end Histories

/-- The numbers in the answer to a refused request: its two clock readings, the reply to its INCR, and the three
    headers. -/
structure Refusal where
  first : Nat
  second : Nat
  count : Nat
  remaining : Nat
  reset : Nat
  retryAfter : Nat
deriving DecidableEq, Repr

structure Refusal.SeenIn (env : ProxyEnv) (call : LimiterCall) (events : List ProxyEvent)
    (refusal : Refusal) : Prop where
  first : events.head? = some ⟨.gateway .dateNow, .ok refusal.first⟩
  second : ⟨.gateway .dateNow, .ok refusal.second⟩ ∈ events.tail
  counted : ⟨.redisIncr (counterKey call.base (refusal.first / call.windowMs env)), .ok refusal.count⟩ ∈ events
  remaining : SentHeader events "X-RateLimit-Remaining" (toString refusal.remaining)
  reset : SentHeader events "X-RateLimit-Reset" (toString refusal.reset)
  retryAfter : SentHeader events "Retry-After" (toString refusal.retryAfter)

/-- Clients that wait as the headers say arrive in a later window, and of the requests counted after this one exactly
    the next `remaining` are admitted. -/
structure Refusal.HeadersTrue (env : ProxyEnv) (call : LimiterCall) (refusal : Refusal) : Prop where
  reset : refusal.first / call.windowMs env < refusal.reset * 1000 / call.windowMs env
  retryAfter : refusal.first / call.windowMs env < (refusal.second + refusal.retryAfter * 1000) / call.windowMs env
  remaining : ∀ (later : LimiterCall) (further : Nat) (events : List ProxyEvent) (answer : Option AppError)
    (key : String),
    later.maxRequests env = call.maxRequests env → 0 < further →
    (rateLimiter env later.options later.req).Follows events (.done (.ok answer)) →
    ⟨.redisIncr key, .ok (refusal.count + further)⟩ ∈ events → (answer = none ↔ further ≤ refusal.remaining)

theorem reset_reaches_iff {window windowMs : Nat} (windowed : 0 < windowMs) :
    window < (window + 1) * windowMs / 1000 * 1000 / windowMs ↔ 1000 ∣ (window + 1) * windowMs := by
  have reaches : window < (window + 1) * windowMs / 1000 * 1000 / windowMs ↔
      (window + 1) * windowMs ≤ (window + 1) * windowMs / 1000 * 1000 := by
    rw [Nat.lt_iff_add_one_le, Nat.le_div_iff_mul_le windowed]
  rw [reaches]
  omega

theorem retryAfter_reaches {window windowMs : Nat} (windowed : 0 < windowMs) (now : Nat) :
    window < (now + max 1 (((window + 1) * windowMs - now + 999) / 1000) * 1000) / windowMs := by
  rw [Nat.lt_iff_add_one_le, Nat.le_div_iff_mul_le windowed]
  omega

theorem admitted_further {env : ProxyEnv} {call : LimiterCall} {events : List ProxyEvent} {answer : Option AppError}
    {key : String} {number : Nat} (later : 1 < number)
    (follows : (rateLimiter env call.options call.req).Follows events (.done (.ok answer)))
    (counted : ⟨.redisIncr key, .ok number⟩ ∈ events) : answer = none ↔ number ≤ call.maxRequests env := by
  cases rateLimiter_cases follows with
  | failedOpen passed first =>
    have one := first key number counted
    omega
  | counted now count rest first incr behind limited =>
    obtain ⟨_, rfl⟩ := (incr key number).mp counted
    cases limited with
    | admitted fits => simp [fits]
    | refused exceeds => simp [Nat.not_le.mpr exceeds]

structure Refusal.Computed (env : ProxyEnv) (call : LimiterCall) (refusal : Refusal) : Prop where
  exceeds : call.maxRequests env < refusal.count
  remaining : refusal.remaining = call.maxRequests env - refusal.count
  reset : refusal.reset = (refusal.first / call.windowMs env + 1) * call.windowMs env / 1000
  retryAfter : refusal.retryAfter =
    max 1 (((refusal.first / call.windowMs env + 1) * call.windowMs env - refusal.second + 999) / 1000)

theorem refusal_computed {env : ProxyEnv} {call : LimiterCall} {events : List ProxyEvent} {error : AppError}
    (refused : (rateLimiter env call.options call.req).Follows events (.done (.ok (some error)))) :
    ∃ refusal : Refusal, refusal.SeenIn env call events ∧ refusal.Computed env call := by
  cases rateLimiter_cases refused with
  | failedOpen passed => cases passed
  | counted first count rest reading incr behind limited =>
    cases limited with
    | refused exceeds second clock remaining reset retryAfter =>
      have sent : ∀ {name value}, SentHeader rest name value → SentHeader events name value := by
        rintro name value ⟨reply, member⟩
        exact ⟨reply, List.mem_of_mem_tail (behind member)⟩
      exact ⟨⟨first, second, count, _, _, _⟩, ⟨reading, behind clock, (incr _ _).mpr ⟨rfl, rfl⟩, sent remaining,
        sent reset, sent retryAfter⟩, ⟨exceeds, rfl, rfl, rfl⟩⟩

theorem Refusal.Computed.headersTrue_iff {env : ProxyEnv} {call : LimiterCall} {refusal : Refusal}
    (computed : refusal.Computed env call) (windowed : 0 < call.windowMs env) :
    refusal.HeadersTrue env call ↔ 1000 ∣ (refusal.first / call.windowMs env + 1) * call.windowMs env := by
  rw [← reset_reaches_iff windowed, ← computed.reset]
  constructor
  · exact fun holds => holds.reset
  · intro reset
    refine ⟨reset, ?_, ?_⟩
    · rw [computed.retryAfter]
      exact retryAfter_reaches windowed refusal.second
    · intro later further events answer key same positive follows counted
      have exceeds := computed.exceeds
      have second_or_later : 1 < refusal.count + further := by omega
      rw [admitted_further second_or_later follows counted, same, computed.remaining]
      omega

/-- The headers of a refused request tell the truth exactly when its window ends on a whole second. -/
theorem limit_headers_true_iff {env : ProxyEnv} {call : LimiterCall} {events : List ProxyEvent} {error : AppError}
    (windowed : 0 < call.windowMs env)
    (refused : (rateLimiter env call.options call.req).Follows events (.done (.ok (some error)))) :
    ∃ refusal : Refusal, refusal.SeenIn env call events ∧
      (refusal.HeadersTrue env call ↔ 1000 ∣ (refusal.first / call.windowMs env + 1) * call.windowMs env) := by
  obtain ⟨refusal, seen, computed⟩ := refusal_computed refused
  exact ⟨refusal, seen, computed.headersTrue_iff windowed⟩

/-! The second request of a window of one second, and of one second and a half -/

def secondCall (windowMs : Nat) : LimiterCall where
  options := { windowMs, maxRequests := some 1 }
  req := sampleRequest "/login"

def secondAnswers : (effect : ProxyEffect) → Except Thrown effect.Reply
  | .gateway .dateNow => .ok 100
  | .gateway _ => .error (.error "unexpected")
  | .redisIncr _ => .ok 2
  | .redisPexpire .. => .ok ()
  | .setHeader .. => .ok ()
  | .proxy .. => .ok .finish
  | .next _ => .ok ()

def secondEvents (windowMs : Nat) : List ProxyEvent :=
  ((rateLimiter sampleProxy (secondCall windowMs).options (secondCall windowMs).req).replay secondAnswers).1

theorem secondEvents_refused (windowMs : Nat) :
    (rateLimiter sampleProxy (secondCall windowMs).options (secondCall windowMs).req).Follows (secondEvents windowMs)
      (.done (.ok (some tooManyRequestsError))) :=
  Program.follows_replay secondAnswers (rateLimiter sampleProxy (secondCall windowMs).options (secondCall windowMs).req)

theorem secondEvents_clock {windowMs now : Nat} (read : ⟨.gateway .dateNow, .ok now⟩ ∈ secondEvents windowMs) :
    now = 100 :=
  Except.ok.inj (Program.replay_reply secondAnswers _ _ read)

theorem whole_seconds_true : ∃ refusal : Refusal, refusal.SeenIn sampleProxy (secondCall 1000) (secondEvents 1000) ∧
    refusal.HeadersTrue sampleProxy (secondCall 1000) := by
  obtain ⟨refusal, seen, true_iff⟩ := limit_headers_true_iff (by decide) (secondEvents_refused 1000)
  have first := secondEvents_clock (List.mem_of_head? seen.first)
  refine ⟨refusal, seen, true_iff.mpr ?_⟩
  rw [first]
  decide

/-- The window ends after 1500 ms, and the client is told to come back after one second. -/
theorem reset_too_early : ∃ refusal : Refusal, refusal.SeenIn sampleProxy (secondCall 1500) (secondEvents 1500) ∧
    refusal.first ≤ refusal.second ∧ ¬ refusal.HeadersTrue sampleProxy (secondCall 1500) := by
  obtain ⟨refusal, seen, computed⟩ := refusal_computed (secondEvents_refused 1500)
  have first := secondEvents_clock (List.mem_of_head? seen.first)
  have second := secondEvents_clock (List.mem_of_mem_tail seen.second)
  refine ⟨refusal, seen, by omega, ?_⟩
  rw [computed.headersTrue_iff (by decide), first]
  decide

end GatewayProof
