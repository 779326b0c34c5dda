import AppGateway.Handlers.Calls
import AppGateway.Handlers.Redis

namespace GatewayProof

open Async GatewayModel
open Async.System (Reaches next_cases next_threads next_extends advance_cases)

def Presents (refreshToken : String) (thread : HandlerThread) : Prop :=
  ∃ client idempotencyKey, thread.call = .refresh client refreshToken idempotencyKey

structure SlotsStored (config : HandlerConfig) : Prop where
  slots : ∀ entry ∈ config.state.redis, ∀ result, entry.value = .slot (.done result) →
    ∃ thread ∈ config.threads, Stored thread.past result
  seen : ∀ thread ∈ config.threads, ∀ result, Seen thread.past result →
    ∃ writer ∈ config.threads, Stored writer.past result

theorem Stored.grow {past whole : List SessionEvent} {result : CachedRefreshResult}
    (stored : Stored past result) (grown : past ⊆ whole) : Stored whole result := by
  obtain ⟨key, ttl, reply, member⟩ := stored
  exact ⟨key, ttl, reply, grown member⟩

theorem stored_next {env : Env} {config after : HandlerConfig} {label : HandlerLabel}
    (moved : (handlers env).next config label = some after) {result : CachedRefreshResult}
    (stored : ∃ thread ∈ config.threads, Stored thread.past result) :
    ∃ thread ∈ after.threads, Stored thread.past result := by
  obtain ⟨thread, member, stored⟩ := stored
  obtain ⟨index, found⟩ := List.getElem?_of_mem member
  obtain ⟨later, there, ext⟩ := next_extends moved found
  exact ⟨later, List.mem_of_getElem? there, stored.grow ext.past.subset⟩

theorem slots_next {env : Env} {config after : HandlerConfig} {label : HandlerLabel}
    (stored : SlotsStored config) (valid : HandlersValid env config)
    (moved : (handlers env).next config label = some after)
    {entry : Store.Entry RedisKey RedisValue} (member : entry ∈ after.state.redis)
    {result : CachedRefreshResult} (done : entry.value = .slot (.done result)) :
    ∃ thread ∈ after.threads, Stored thread.past result := by
  have earlier : entry ∈ config.state.redis → ∃ thread ∈ after.threads, Stored thread.past result :=
    fun kept => stored_next moved (stored.slots entry kept result done)
  rcases next_cases moved with ⟨call, _, rfl⟩ | ⟨index, choice, thread, later, state, rfl, found, stepped, rfl⟩ |
    ⟨place, old, _, _, rfl⟩ | ⟨event, _, rfl⟩
  · exact earlier member
  · obtain ⟨effect, resume, reply, _, program, executed, rfl⟩ := advance_cases stepped
    have step : RedisStep config.state state effect := exec_redisStep executed
    rcases step.entry_cases member with kept | ⟨key, value, ttl, same, written⟩
    · exact earlier kept
    subst same
    obtain rfl : value = .slot (.done result) := done
    rcases written with rfl | rfl
    · have bound := (List.getElem?_eq_some_iff.mp found).1
      exact ⟨_, List.mem_of_getElem? (List.getElem?_set_self bound), key, ttl, reply, by simp⟩
    · have permit := (valid.2 thread (List.mem_of_getElem? found)).1.permitted program
      cases call : thread.call with
      | login client email password => rw [call] at permit; exact permit.elim
      | refresh client token idempotencyKey => rw [call] at permit; cases permit
      | logout bearer token => rw [call] at permit; exact permit.elim
  · exact earlier member
  · exact earlier (external_redis event config.state ▸ member)

theorem SlotsStored.next {env : Env} {config after : HandlerConfig} {label : HandlerLabel}
    (stored : SlotsStored config) (valid : HandlersValid env config)
    (moved : (handlers env).next config label = some after) : SlotsStored after where
  slots := fun _ member _ done => slots_next stored valid moved member done
  seen := by
    intro thread member result seen
    obtain ⟨index, found⟩ := List.getElem?_of_mem member
    rcases next_threads moved found with kept | ⟨call, _, _, rfl⟩ | ⟨choice, old, _, there, advanced⟩ |
      ⟨old, _, there, rfl⟩
    · exact stored_next moved (stored.seen thread (List.mem_of_getElem? kept) result seen)
    · simp [Seen, Thread.start] at seen
    · obtain ⟨effect, resume, reply, _, _, executed, rfl⟩ := advance_cases advanced
      obtain ⟨key, present⟩ := seen
      rcases List.mem_append.mp present with earlier | now
      · exact stored_next moved (stored.seen old (List.mem_of_getElem? there) result ⟨key, earlier⟩)
      · cases List.mem_singleton.mp now
        obtain ⟨entry, held, _, value, _⟩ := redis_get_some executed
        exact stored_next moved (stored.slots entry held result value)
    · exact stored_next moved (stored.seen old (List.mem_of_getElem? there) result seen)

theorem HandlersReachable.slots {env : Env} {allowed : HandlerConfig → HandlerLabel → Prop}
    {config : HandlerConfig} (reachable : HandlersReachable env allowed config) : SlotsStored config := by
  obtain ⟨clock, users, reached⟩ := reachable
  have initial : HandlersValid env (freshGateway clock users) ∧ SlotsStored (freshGateway clock users) :=
    ⟨freshGateway_valid clock users, by constructor <;> simp [freshGateway]⟩
  have preserved : ∀ config label after, (HandlersValid env config ∧ SlotsStored config) →
      allowed config label → (handlers env).next config label = some after →
      HandlersValid env after ∧ SlotsStored after := fun config label after holds _ moved =>
    ⟨processes_next (HandlerCall.code_obeys env) holds.1 moved, holds.2.next holds.1 moved⟩
  exact (reached.invariant initial preserved).2

/-- A finished entry was written by a refresh of the token it names, which made the pair itself. -/
theorem stored_produced {env : Env} {config : HandlerConfig} (valid : HandlersValid env config)
    {thread : HandlerThread} (member : thread ∈ config.threads) {result : CachedRefreshResult}
    (stored : Stored thread.past result) :
    ∃ refreshToken, Presents refreshToken thread ∧ result.presentedTokenHash = env.sha256Hex refreshToken ∧
      Produced env (env.sha256Hex refreshToken) thread.past result.accessToken result.refreshToken := by
  obtain ⟨key, ttl, reply, sent⟩ := stored
  have lawful := (valid.2 thread member).1.1
  obtain ⟨before, rest, split, permit⟩ := lawful.of_mem sent
  have grown : before ⊆ thread.past := by simp [split]
  cases call : thread.call with
  | login client email password => rw [call] at permit; exact permit.elim
  | logout bearer token => rw [call] at permit; exact permit.elim
  | refresh client refreshToken idempotencyKey =>
    rw [call] at permit
    obtain ⟨written, same, presented, produced⟩ := permit
    cases same
    exact ⟨refreshToken, ⟨client, idempotencyKey, call⟩, presented, produced.grow grown⟩

/-- Where the pair of an answer comes from: the rotation of the token with this row, in a family that
    one login began, for the user of that login. -/
structure Provenance (env : Env) (config : HandlerConfig) (refreshToken : String) (body : TokenResponse)
    (row successor : RefreshTokenRow) : Prop where
  presented : row ∈ config.state.refreshTokens ∧ row.tokenHash = env.sha256Hex refreshToken
  answered : successor ∈ config.state.refreshTokens ∧ successor.tokenHash = env.sha256Hex body.refresh_token
  family : successor.sessionFamily = row.sessionFamily
  user : successor.userId = row.userId
  rotation : ∃ thread ∈ config.threads, Presents refreshToken thread ∧ Consumed thread.past row.id ∧
    (∃ values, Inserted thread.past values ∧ values.tokenHash = successor.tokenHash) ∧
    Drew thread.past body.refresh_token ∧ Drew thread.past body.access_token.claims.jti
  exclusive : ∀ thread ∈ config.threads, Drew thread.past body.refresh_token ∨
    Drew thread.past body.access_token.claims.jti → Presents refreshToken thread
  sub : body.access_token.claims.sub = row.userId
  login : ∃ index thread client email password user, config.threads[index]? = some thread ∧
    thread.call = .login client email password ∧ FoundUser thread.past (env.hashEmail email) user ∧
    user.id = row.userId ∧ Drew thread.past row.sessionFamily ∧
    ∀ other, Founds Logins config other row → other = index

theorem founder_login {env : Env} {config : HandlerConfig} (valid : HandlersValid env config)
    (lineage : Lineage Logins config) {row : RefreshTokenRow} (member : row ∈ config.state.refreshTokens) :
    ∃ index thread client email password user, config.threads[index]? = some thread ∧
      thread.call = .login client email password ∧ FoundUser thread.past (env.hashEmail email) user ∧
      user.id = row.userId ∧ Drew thread.past row.sessionFamily ∧
      ∀ other, Founds Logins config other row → other = index := by
  obtain ⟨index, founds⟩ := lineage.founded row member
  obtain ⟨thread, values, found, ⟨client, email, password, call⟩, ⟨reply, sent⟩, drew, family, owner⟩ := founds
  have lawful := (valid.2 thread (List.mem_of_getElem? found)).1.1
  obtain ⟨before, rest, split, permit⟩ := lawful.of_mem sent
  rw [call] at permit
  obtain ⟨_, _, user, read, same⟩ := permit
  have grown : before ⊆ thread.past := by simp [split]
  refine ⟨index, thread, client, email, password, user, found, call, grown read, same.symm.trans owner,
    family ▸ drew, fun other founds' => ?_⟩
  exact lineage.draws.founder_unique founds'
    ⟨thread, values, found, ⟨client, email, password, call⟩, ⟨reply, sent⟩, drew, family, owner⟩ rfl

theorem produced_provenance {env : Env} {config : HandlerConfig} (valid : HandlersValid env config)
    (lineage : Lineage Logins config) {thread : HandlerThread} (member : thread ∈ config.threads)
    {refreshToken : String} (presents : Presents refreshToken thread) {body : TokenResponse}
    (produced : Produced env (env.sha256Hex refreshToken) thread.past body.access_token body.refresh_token) :
    ∃ row successor, Provenance env config refreshToken body row successor := by
  obtain ⟨row, values, user, selected, _, consumed, inserted, hash, family, owner, read, sub, drew, jti⟩ :=
    produced
  have knows := (valid.2 thread member).2
  obtain ⟨presented, stored, held, version⟩ := knows.selected _ row selected
  obtain ⟨id, issuedAt, successor, held', version'⟩ := knows.inserted values inserted
  have tokenHash : successor.tokenHash = values.tokenHash := version'.tokenHash
  have inFamily : successor.sessionFamily = values.sessionFamily := version'.sessionFamily
  obtain ⟨index, found⟩ := List.getElem?_of_mem member
  refine ⟨stored, successor, ⟨held, version.tokenHash.trans presented⟩, ⟨held', tokenHash.trans hash⟩, ?_, ?_,
    ⟨thread, member, presents, version.id ▸ consumed, ⟨values, inserted, tokenHash.symm⟩, drew, jti⟩, ?_, ?_,
    founder_login valid lineage held⟩
  · rw [inFamily, family, version.sessionFamily]
  · have forUser : successor.userId = values.userId := version'.userId
    rw [forUser, owner, version.userId]
  · rintro other present draws
    obtain ⟨place, found'⟩ := List.getElem?_of_mem present
    have same : place = index := by
      rcases draws with draws | draws
      · exact lineage.draws.apart _ _ _ _ _ found' found draws drew
      · exact lineage.draws.apart _ _ _ _ _ found' found draws jti
    subst same
    obtain rfl := Option.some.inj (found'.symm.trans found)
    exact presents
  · rw [sub, knows.user _ user read, version.userId]

/-- Every pair that `POST /refresh` answers with was made by a rotation of the presented token. -/
theorem refresh_provenance (env : Env) (distinct : Function.Injective env.sha256Hex)
    (config : HandlerConfig) (reachable : HandlersReachable env System.anyStep config)
    (thread : HandlerThread) (member : thread ∈ config.threads) (refreshToken : String)
    (presents : Presents refreshToken thread) (body : TokenResponse)
    (answered : thread.answered (.ok (.tokens body))) :
    ∃ row successor, Provenance env config refreshToken body row successor := by
  have valid := handlers_valid reachable
  have lineage := handlers_lineage reachable
  obtain ⟨client, idempotencyKey, call⟩ := presents
  have ended := (valid.2 thread member).1.ended answered
  rw [call] at ended
  rcases ended with produced | ⟨result, seen, presented, access, refresh⟩
  · exact produced_provenance valid lineage member ⟨client, idempotencyKey, call⟩ produced
  · obtain ⟨writer, present, stored⟩ := reachable.slots.seen thread member result seen
    obtain ⟨other, presents, same, produced⟩ := stored_produced valid present stored
    obtain rfl : other = refreshToken := distinct (same.symm.trans presented)
    rw [← access, ← refresh] at produced
    exact produced_provenance valid lineage present presents produced

def answeredTokens (thread : HandlerThread) : Option TokenResponse :=
  match thread.program with
  | .done (.ok (.tokens body)) => some body
  | _ => none

theorem answeredTokens_spec {thread : HandlerThread} {body : TokenResponse}
    (answered : answeredTokens thread = some body) : thread.answered (.ok (.tokens body)) := by
  unfold answeredTokens at answered
  split at answered
  · rename_i other program
    cases answered
    exact program
  · cases answered

def sampleClient : Client := { ip := some "10.0.0.1", userAgent := none }

def logIn (index : Nat) (jti family token row : String) : List HandlerLabel :=
  [.call (.login sampleClient "u@example.com" "secret")] ++ steps index 3 ++ [.step index (drawing jti)] ++
  steps index 1 ++ [.step index (drawing family), .step index (drawing token)] ++ steps index 1 ++
  [.step index (drawing row)] ++ steps index 4

def retriedRefresh : List HandlerLabel :=
  logIn 0 "j0" "f" "t0" "r0" ++ [.call (.refresh sampleClient "t0" (some "k"))] ++ steps 1 7 ++
    [.step 1 (drawing "t1")] ++
  steps 1 1 ++ [.step 1 (drawing "r1")] ++ steps 1 3 ++ [.step 1 (drawing "j1")] ++ steps 1 3 ++
  [.call (.refresh sampleClient "t0" (some "k"))] ++ steps 2 2

def answeredAgain (config : HandlerConfig) : Bool :=
  match config.threads[2]? with
  | some thread =>
    thread.call = .refresh sampleClient "t0" (some "k") && (answeredTokens thread).any fun body =>
      body.refresh_token = "t1"
  | none => false

theorem retriedRefresh_provenance : ∃ config thread body row successor,
    HandlersReachable sampleEnv System.anyStep config ∧ config.threads[2]? = some thread ∧
    thread.answered (.ok (.tokens body)) ∧ body.refresh_token = "t1" ∧
    Provenance sampleEnv config "t0" body row successor := by
  have passed : ((handlers sampleEnv).run retriedRefresh
      (freshGateway 0 [sampleUser "u" "u@example.com"])).any answeredAgain = true := by decide
  obtain ⟨config, reached, checked⟩ := Reaches.of_check passed
  unfold answeredAgain at checked
  split at checked
  · rename_i thread found
    simp only [Bool.and_eq_true, decide_eq_true_eq, Option.any_eq_true] at checked
    obtain ⟨call, body, answered, refresh⟩ := checked
    have reachable : HandlersReachable sampleEnv System.anyStep config := ⟨_, _, reached⟩
    obtain ⟨row, successor, provenance⟩ := refresh_provenance sampleEnv sampleSha256_injective config
      reachable thread (List.mem_of_getElem? found) "t0" ⟨_, _, call⟩ body (answeredTokens_spec answered)
    exact ⟨config, thread, body, row, successor, reachable, found, answeredTokens_spec answered, refresh,
      provenance⟩
  · cases checked

end GatewayProof
