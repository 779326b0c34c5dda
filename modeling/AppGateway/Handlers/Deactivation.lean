import AppGateway.Handlers.Provenance
import AppGateway.Handlers.Routine
import Mathlib.Data.Nat.Init

namespace GatewayProof

open Async GatewayModel
open Async.System (Modular Reaches Guarded anyStep advance_cases)

def ActiveAsRead (env : Env) (call : HandlerCall) (past : List SessionEvent) (userId : String) : Prop :=
  match call with
  | .login _ email _ => ∃ user, FoundUser past (env.hashEmail email) user ∧ user.id = userId ∧ user.isActive = true
  | .refresh _ _ _ => ∃ id user, ReadUser past id user ∧ user.id = userId ∧ user.isActive = true
  | .logout _ _ => False

def Rotated (past : List SessionEvent) : Prop := ∃ id, Consumed past id

def LoginGrants (emailHash : String) (past : List SessionEvent) : Except Thrown Answer → Prop
  | .ok (.tokens body) => ∃ user, FoundUser past emailHash user ∧
      user.id = body.access_token.claims.sub ∧ user.isActive = true
  | _ => True

/-- A refresh that has rotated gives tokens to the user it has read, active or not. -/
def RefreshGrants (past : List SessionEvent) : Except Thrown Answer → Prop
  | .ok (.tokens body) => Rotated past → ∃ id user, ReadUser past id user ∧ user.id = body.access_token.claims.sub
  | _ => True

def HandlerCall.Grants (env : Env) : HandlerCall → List SessionEvent → Except Thrown Answer → Prop
  | .login _ email _ => LoginGrants (env.hashEmail email)
  | .refresh _ _ _ => RefreshGrants
  | .logout _ _ => LogoutEnds

abbrev Any (_ : List SessionEvent) (_ : Effect) : Prop := True

theorem any_permitted (past : List SessionEvent) : ∀ events op, Plain op → Any (past ++ events) op :=
  fun _ _ _ => trivial

theorem login_grants (env : Env) (client : Client) (email password : String) :
    (login env client email password).Obeys Any (LoginGrants (env.hashEmail email)) [] := by
  have refuse : ∀ before entry error,
      (writeAuditEvent entry >>= fun _ => pure (.failed error) : Gateway Answer).Obeys Any
        (LoginGrants (env.hashEmail email)) before :=
    fun before entry _ => (Program.obeys_grow _ before).bind (fun _ _ _ => trivial) fun _ _ _ => trivial
  have finds : (findUserByEmail env email).Obeys Any _ [] := findUserByEmail_obeys (any_permitted []) email
  refine finds.bind (fun _ _ _ => trivial) ?_
  rintro past found ⟨_, known⟩
  rcases found with _ | ⟨user, passwordHash⟩
  · exact refuse _ _ _
  obtain ⟨row, read, same, active⟩ := known user passwordHash rfl
  simp only
  split
  · rename_i hash _ enabled
    split
    · exact refuse _ _ _
    have signs : (signAccessToken env (accessTokenSubject env user)).Obeys Any _ past :=
      signAccessToken_obeys (any_permitted past) _
    refine signs.bind (fun _ _ _ => trivial) ?_
    rintro signing signed ⟨grown, made⟩
    have sub := (made signed rfl).1
    have granted : ∀ whole, signing ⊆ whole → ∀ refresh : IssuedRefreshToken,
        LoginGrants (env.hashEmail email) whole
          (.ok (.tokens (tokenResponse env signed.token refresh.plaintext))) :=
      fun whole later refresh =>
        ⟨row, later (grown read), (sub.trans same).symm, active.symm.trans enabled⟩
    refine (Program.obeys_grow _ signing).bind (fun _ _ _ => trivial) fun issued refresh first => ?_
    refine (Program.obeys_grow _ issued).bind (fun _ _ _ => trivial) fun marked _ second => ?_
    refine (Program.obeys_grow _ marked).bind (fun _ _ _ => trivial) fun whole _ third => ?_
    exact granted whole (fun _ member => third (second (first member))) refresh
  · exact refuse _ _ _

theorem rotateAndAnswer_grants (env : Env) (refreshToken presentedTokenHash : String) (metadata : RefreshTokenMetadata)
    (claimed : Option String) (past : List SessionEvent) :
    (rotateAndAnswer env refreshToken metadata presentedTokenHash claimed).Obeys Any RefreshGrants past := by
  refine (Program.obeys_grow _ past).bind (fun _ _ _ => trivial) fun rotating rotation _ => ?_
  rcases rotation with error | rotated
  · refine (Program.obeys_grow _ rotating).bind (fun _ _ _ => trivial) fun released _ _ => ?_
    exact (Program.obeys_grow _ released).bind (fun _ _ _ => trivial) fun _ _ _ => trivial
  have finds := findUserById_obeys (any_permitted rotating) rotated.userId
  refine finds.bind (fun _ _ _ => trivial) ?_
  rintro reading found ⟨_, known⟩
  rcases found with _ | user
  · trivial
  obtain ⟨row, read, same⟩ := known user rfl
  have signs : (signAccessToken env (accessTokenSubject env user)).Obeys Any _ reading :=
    signAccessToken_obeys (any_permitted reading) _
  refine signs.bind (fun _ _ _ => trivial) ?_
  rintro signing signed ⟨grown, made⟩
  have sub := (made signed rfl).1
  refine (Program.obeys_grow _ signing).bind (fun _ _ _ => trivial) fun audited _ first => ?_
  refine (Program.obeys_grow _ audited).bind (fun _ _ _ => trivial) fun whole _ second => ?_
  intro _
  exact ⟨_, row, second (first (grown read)), (sub.trans same).symm⟩

theorem not_rotated {past events : List SessionEvent} (before : ¬ Rotated past)
    (polls : ∀ event ∈ events, Polls event.op) : ¬ Rotated (past ++ events) := by
  rintro ⟨id, revokedAt, member⟩
  rcases List.mem_append.mp member with earlier | later
  · exact before ⟨id, revokedAt, earlier⟩
  · exact polls _ later

theorem refresh_grants (env : Env) (client : Client) (refreshToken : String) (idempotencyKey : Option String) :
    (refresh env client refreshToken idempotencyKey).Obeys Any RefreshGrants [] := by
  unfold refresh
  simp only [hashRefreshToken]
  split
  · exact rotateAndAnswer_grants env refreshToken _ _ _ _
  rename_i key _
  refine ⟨trivial, fun claim => ?_⟩
  rcases claim with thrown | owned
  · trivial
  simp only [Program.done_ok_bind]
  split
  · exact rotateAndAnswer_grants env refreshToken _ _ _ _
  have waits : (waitForIdempotentResult key (env.sha256Hex refreshToken)).Uses Polls := pollIdempotentResult_uses _ _ _
  refine (waits.obeys fun _ _ _ => trivial).bind (fun _ _ _ => trivial) ?_
  rintro whole waited ⟨events, rfl, polls⟩
  rcases waited with _ | result
  · exact rotateAndAnswer_grants env refreshToken _ _ _ _
  · intro rotated
    exact absurd rotated (not_rotated (by simp [Rotated, Consumed]) polls)

theorem HandlerCall.code_grants (env : Env) (call : HandlerCall) : (call.code env).Obeys Any (call.Grants env) [] := by
  cases call with
  | login client email password => exact login_grants env client email password
  | refresh client refreshToken idempotencyKey => exact refresh_grants env client refreshToken idempotencyKey
  | logout bearer refreshToken =>
    exact (logout_obeys env bearer refreshToken).weaken (fun _ _ _ => trivial) fun _ _ ended => ended

def ReadsActive (state : GatewayState) (thread : HandlerThread) : Prop :=
  ∀ id, thread.program.pending = some (.selectUserById id) →
    ∀ user, state.users.find? (·.id = id) = some user → user.isActive = true

def KnowsActive (thread : HandlerThread) : Prop :=
  ∀ id user, ReadUser thread.past id user → user.isActive = true

theorem knowsActive_modular (env : Env) :
    Modular (handlers env) ReadsActive (fun _ => True) (fun _ _ => True) fun _ thread => KnowsActive thread where
  call := fun state call _ id user read => by simp [Thread.start, ReadUser] at read
  step := by
    intro choice state thread moved later guarded _ earlier advanced
    obtain ⟨effect, resume, reply, _, program, executed, rfl⟩ := advance_cases advanced
    refine ⟨trivial, trivial, fun id user read => ?_⟩
    rcases List.mem_append.mp read with before | now
    · exact earlier id user before
    · cases List.mem_singleton.mp now
      have responded := exec_ok executed
      simp only [respond, Option.some.injEq, Prod.mk.injEq, Except.ok.injEq] at responded
      have pending : thread.program.pending = some (.selectUserById id) := by rw [program]; rfl
      exact guarded id pending user responded.1
  external := fun _ _ _ => ⟨trivial, trivial⟩
  stable := fun _ _ _ _ own => own
  crash := fun _ _ own => own

/-- In every run whose refreshes read only active users by id, tokens are given to active users only. -/
theorem no_token_for_deactivated_user (env : Env) (config : HandlerConfig)
    (reachable : HandlersReachable env (Guarded ReadsActive) config) (thread : HandlerThread)
    (member : thread ∈ config.threads) (body : TokenResponse) (answered : thread.answered (.ok (.tokens body)))
    (granted : Logins thread.call ∨ Rotated thread.past) :
    ActiveAsRead env thread.call thread.past body.access_token.claims.sub := by
  obtain ⟨clock, users, reached⟩ := reachable
  have active : KnowsActive thread := by
    have run := (knowsActive_modular env).run (fun _ _ guarded => guarded) reached ⟨trivial, by simp [freshGateway]⟩
    exact run.2 thread member
  have ended := (Reaches.disciplined (HandlerCall.code_grants env) reached rfl thread member).ended answered
  cases call : thread.call with
  | login client email password =>
    rw [call] at ended
    exact ended
  | refresh client refreshToken idempotencyKey =>
    rw [call] at ended granted
    have rotated : Rotated thread.past := by
      rcases granted with ⟨_, _, _, same⟩ | rotated
      · cases same
      · exact rotated
    obtain ⟨id, user, read, same⟩ := ended rotated
    exact ⟨id, user, read, same, active id user read⟩
  | logout bearer refreshToken =>
    rw [call] at ended
    exact absurd rfl (ended body)

def readsActive (config : HandlerConfig) : HandlerLabel → Bool
  | .step index _ =>
    match config.threads[index]? with
    | some thread =>
      match thread.program.pending with
      | some (.selectUserById id) => (config.state.users.find? (·.id = id)).all (·.isActive)
      | _ => true
    | none => true
  | _ => true

theorem readsActive_sound (config : HandlerConfig) (label : HandlerLabel)
    (checked : readsActive config label = true) : Guarded ReadsActive config label := by
  rintro index choice thread rfl found id pending user read
  simpa [readsActive, found, pending, read] using checked

def refreshAs (index : Nat) : List HandlerLabel :=
  [.call (.refresh sampleClient "t0" none)] ++ steps index 6 ++ [.step index (drawing "t1")] ++ steps index 1 ++
  [.step index (drawing "r1")] ++ steps index 3 ++ [.step index (drawing "j1")] ++ steps index 2

def rotatedTo (thread : HandlerThread) : Bool :=
  (answeredTokens thread).isSome && thread.past.any fun event =>
    match event with
    | ⟨.updateRevokedById _ _ "rotation", .ok ()⟩ => true
    | _ => false

theorem rotatedTo_spec {thread : HandlerThread} (checked : rotatedTo thread = true) :
    (∃ body, thread.answered (.ok (.tokens body))) ∧ Rotated thread.past := by
  simp only [rotatedTo, Bool.and_eq_true, Option.isSome_iff_exists, List.any_eq_true] at checked
  obtain ⟨⟨body, answered⟩, event, member, consumed⟩ := checked
  refine ⟨⟨body, answeredTokens_spec answered⟩, ?_⟩
  split at consumed
  · exact ⟨_, _, member⟩
  · cases consumed

theorem refresh_of_active_user : ∃ config thread body,
    HandlersReachable sampleEnv (Guarded ReadsActive) config ∧ thread ∈ config.threads ∧
    thread.call = .refresh sampleClient "t0" none ∧ thread.answered (.ok (.tokens body)) ∧
    ActiveAsRead sampleEnv thread.call thread.past body.access_token.claims.sub := by
  have passed : ((handlers sampleEnv).runChecked readsActive (logIn 0 "j0" "f" "t0" "r0" ++ refreshAs 1)
      (freshGateway 0 [sampleUser "u" "u@example.com"])).any (fun config => config.threads[1]?.any fun thread =>
        decide (thread.call = .refresh sampleClient "t0" none) && rotatedTo thread) = true := by decide +kernel
  obtain ⟨config, reached, checked⟩ := Reaches.of_checks readsActive_sound passed
  obtain ⟨thread, found, checked⟩ := (Option.any_eq_true _ _).mp checked
  simp only [Bool.and_eq_true, decide_eq_true_eq] at checked
  obtain ⟨⟨body, answered⟩, rotated⟩ := rotatedTo_spec checked.2
  have member := List.mem_of_getElem? found
  have reachable : HandlersReachable sampleEnv (Guarded ReadsActive) config := ⟨_, _, reached⟩
  exact ⟨config, thread, body, reachable, member, checked.1, answered,
    no_token_for_deactivated_user sampleEnv config reachable thread member body answered (.inr rotated)⟩

def readInactive (thread : HandlerThread) : Bool :=
  thread.past.all fun event =>
    match event with
    | ⟨.selectUserById _, .ok (some user)⟩ => !user.isActive
    | _ => true

/-- A session outlives the deactivation of its user. -/
theorem deactivated_user_refreshed : ¬ ∀ env config, HandlersReachable env anyStep config →
    ∀ thread ∈ config.threads, ∀ body, thread.answered (.ok (.tokens body)) →
      Logins thread.call ∨ Rotated thread.past →
      ActiveAsRead env thread.call thread.past body.access_token.claims.sub := by
  intro claim
  have passed : ((handlers sampleEnv).run
      (logIn 0 "j0" "f" "t0" "r0" ++ [.external (.setActive "u" false)] ++ refreshAs 1)
      (freshGateway 0 [sampleUser "u" "u@example.com"])).any (fun config => config.threads[1]?.any fun thread =>
        decide (thread.call = .refresh sampleClient "t0" none) && rotatedTo thread && readInactive thread) = true := by
    decide +kernel
  obtain ⟨config, reached, checked⟩ := Reaches.of_check passed
  obtain ⟨thread, found, checked⟩ := (Option.any_eq_true _ _).mp checked
  simp only [Bool.and_eq_true, decide_eq_true_eq] at checked
  obtain ⟨⟨call, rotates⟩, inactive⟩ := checked
  obtain ⟨⟨body, answered⟩, rotated⟩ := rotatedTo_spec rotates
  have active := claim sampleEnv config ⟨_, _, reached⟩ thread (List.mem_of_getElem? found) body answered (.inr rotated)
  rw [call] at active
  obtain ⟨id, user, read, _, enabled⟩ := active
  have disabled := List.all_eq_true.mp inactive _ read
  simp [enabled] at disabled

end GatewayProof
