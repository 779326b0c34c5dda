import AppGateway.Handlers.Calls
import AppGateway.Handlers.Routine

namespace GatewayProof

open Async GatewayModel

def SparesJtis : Effect → Prop
  | .redisSet (.revokedJti _) .. | .redisSetNx (.revokedJti _) .. | .redisDel (.revokedJti _) => False
  | _ => True

theorem Routine.sparesJtis {effect : Effect} (routine : Routine effect) : SparesJtis effect := by
  cases effect <;> try trivial
  rename_i key value ttl
  cases key <;> cases value <;> trivial

theorem Passive.sparesJtis {effect : Effect} (passive : Passive effect) : SparesJtis effect :=
  passive.routine.sparesJtis

def SentRevocation (past : List SessionEvent) (jti : String) : Prop :=
  ∃ value ttl reply, ⟨.redisSet (.revokedJti jti) value ttl, reply⟩ ∈ past

def StoredRevocation (past : List SessionEvent) (jti : String) : Prop :=
  ∃ value ttl, ⟨.redisSet (.revokedJti jti) value ttl, .ok ()⟩ ∈ past

def Audited (past : List SessionEvent) : Prop := ∃ entry reply, ⟨.insertAuditLog entry, reply⟩ ∈ past

/-- A revocation key is only set, for the presented token and right after the clock was read. -/
def RevocationPermits (bearer : Option PresentedToken) (past : List SessionEvent) : Effect → Prop
  | .redisSet (.revokedJti jti) value ttl => value = .flag ∧ ∃ jwt read, bearer = some (.signed jwt) ∧
      jti = jwt.claims.jti ∧ past.getLast? = some ⟨.dateNow, .ok read⟩ ∧
      ttl = ttlSeconds (jwt.claims.exp * 1000) read
  | effect => SparesJtis effect

def RevocationEnds (past : List SessionEvent) : Except Thrown Answer → Prop
  | .ok .noContent => Audited past ∧ ∀ jti, SentRevocation past jti → StoredRevocation past jti
  | _ => True

def HandlerCall.bearer : HandlerCall → Option PresentedToken
  | .logout bearer _ => bearer
  | _ => none

def HandlerCall.RevocationEnds : HandlerCall → List SessionEvent → Except Thrown Answer → Prop
  | .logout .. => GatewayProof.RevocationEnds
  | _ => fun _ _ => True

theorem SparesJtis.permitted {effect : Effect} (spares : SparesJtis effect) (bearer : Option PresentedToken)
    (past : List SessionEvent) : RevocationPermits bearer past effect := by
  cases effect <;> try trivial
  rename_i key value ttl
  cases key with
  | revokedJti jti => exact spares.elim
  | revokedRefresh hash => trivial
  | idempotencyRefresh key => trivial

section Spares

variable (env : Env)

theorem login_spares (client : Client) (email password : String) :
    (login env client email password).Uses SparesJtis :=
  (login_routine env client email password).weaken fun _ routine => routine.sparesJtis

theorem refresh_spares (client : Client) (refreshToken : String) (idempotencyKey : Option String) :
    (refresh env client refreshToken idempotencyKey).Uses SparesJtis :=
  refresh_uses (fun _ routine => routine.sparesJtis) env client refreshToken idempotencyKey (fun _ => trivial)
    fun _ _ => ⟨fun _ => trivial, trivial, fun _ _ => trivial⟩

theorem revokeForLogout_spares (sub : String) (refreshToken : Option String) :
    (revokeForLogout env sub refreshToken).Uses SparesJtis :=
  (revokeForLogout_routine env sub refreshToken).weaken fun _ routine => routine.sparesJtis

end Spares

theorem requireAccessToken_claims (env : Env) (bearer : Option PresentedToken) (past : List SessionEvent) :
    (requireAccessToken env bearer).Obeys (RevocationPermits bearer) (fun _ outcome => ∀ auth,
      outcome = .ok (.ok auth) → ∃ jwt, bearer = some (.signed jwt) ∧ auth = jwt.claims) past := by
  rcases bearer with _ | token
  · exact nofun
  refine ⟨trivial, fun loaded => ?_⟩
  rcases loaded with thrown | _
  · exact nofun
  refine ⟨trivial, fun clock => ?_⟩
  rcases clock with thrown | now
  · exact nofun
  simp only [Program.done_ok_bind]
  split
  · exact nofun
  · exact nofun
  · rename_i payload accepted
    obtain ⟨jwt, rfl, same, _⟩ := jwtVerify_ok accepted
    refine ⟨trivial, fun looked => ?_⟩
    rcases looked with thrown | value
    · exact nofun
    cases value with
    | some held => exact nofun
    | none =>
      intro auth equal
      cases equal
      exact ⟨jwt, rfl, same⟩

theorem sentRevocation_append {past events : List SessionEvent} {jti : String}
    (spares : ∀ event ∈ events, SparesJtis event.op) (sent : SentRevocation (past ++ events) jti) :
    SentRevocation past jti := by
  obtain ⟨value, ttl, reply, member⟩ := sent
  rcases List.mem_append.mp member with earlier | here
  · exact ⟨value, ttl, reply, earlier⟩
  · exact (spares _ here).elim

theorem StoredRevocation.grow {past whole : List SessionEvent} {jti : String}
    (stored : StoredRevocation past jti) (grown : past ⊆ whole) : StoredRevocation whole jti := by
  obtain ⟨value, ttl, member⟩ := stored
  exact ⟨value, ttl, grown member⟩

theorem revokeToken_obeys {past : List SessionEvent} (jwt : SignedJwt) (unsent : ∀ jti, ¬ SentRevocation past jti) :
    (revokeToken jwt.claims.jti (jwt.claims.exp * 1000)).Obeys (RevocationPermits (some (.signed jwt)))
      (fun whole outcome => outcome = .ok () → ∀ jti, SentRevocation whole jti → StoredRevocation whole jti)
      past := by
  refine ⟨trivial, fun clock => ?_⟩
  rcases clock with thrown | read
  · exact nofun
  simp only [Program.pure_eq, Program.done_ok_bind]
  split
  · intro _ jti sent
    exact (unsent jti (sentRevocation_append (by simp [SparesJtis]) sent)).elim
  · refine ⟨⟨rfl, jwt, read, rfl, rfl, by simp, rfl⟩, fun stored => ?_⟩
    intro same jti sent
    cases stored with
    | error thrown => cases same
    | ok done =>
      obtain ⟨value, ttl, reply, member⟩ := sent
      simp only [List.append_assoc, List.mem_append, List.mem_singleton] at member
      rcases member with earlier | read' | here
      · exact (unsent jti ⟨value, ttl, reply, earlier⟩).elim
      · cases read'
      · cases here
        exact ⟨.flag, ttlSeconds (jwt.claims.exp * 1000) read, by simp⟩

theorem logout_revocation_obeys (env : Env) (bearer : Option PresentedToken) (refreshToken : Option String) :
    (logout env bearer refreshToken).Obeys (RevocationPermits bearer) RevocationEnds [] := by
  have quiet : ∀ past events op, SparesJtis op → RevocationPermits bearer (past ++ events) op :=
    fun _ _ _ spares => spares.permitted _ _
  refine (((requireAccessToken_passive env bearer).obeys fun _ _ passive => quiet [] _ _ passive.sparesJtis).and
    (requireAccessToken_claims env bearer [])).bind (fun _ _ _ => trivial) ?_
  rintro verified answer ⟨⟨events, whole, passive⟩, known⟩
  have spares : ∀ event ∈ events, SparesJtis event.op := fun event member => (passive event member).sparesJtis
  rcases answer with error | auth
  · trivial
  obtain ⟨jwt, rfl, rfl⟩ := known auth rfl
  have unsent : ∀ jti, ¬ SentRevocation verified jti := by
    intro jti sent
    rw [whole] at sent
    obtain ⟨_, _, _, member⟩ := sentRevocation_append spares sent
    cases member
  refine (revokeToken_obeys jwt unsent).bind (fun _ _ _ => trivial) fun listed _ kept => ?_
  refine ((revokeForLogout_spares env jwt.claims.sub refreshToken).obeys (quiet listed)).bind
    (fun _ _ _ => trivial) ?_
  rintro revoked _ ⟨events, rfl, spares⟩
  have still : ∀ reply, RevocationEnds (listed ++ events ++ [⟨.insertAuditLog
      { event_type := "auth.logout", user_id := jwt.claims.sub, resource := "/v1/auth/logout"
        outcome := .success }, reply⟩]) (.ok .noContent) := by
    refine fun reply => ⟨⟨_, reply, by simp⟩, fun jti sent => ?_⟩
    have before : SentRevocation listed jti :=
      sentRevocation_append spares (sentRevocation_append (by simp [SparesJtis]) sent)
    exact (kept rfl jti before).grow (by simp)
  refine ⟨trivial, fun stored => ?_⟩
  cases stored <;> exact still _

theorem HandlerCall.code_revocation_obeys (env : Env) (call : HandlerCall) :
    (call.code env).Obeys (RevocationPermits call.bearer) call.RevocationEnds [] := by
  cases call with
  | login client email password =>
    exact ((login_spares env client email password).obeys fun _ _ spares => spares.permitted _ _).weaken
      (fun _ _ permit => permit) fun _ _ _ => trivial
  | refresh client refreshToken idempotencyKey =>
    exact ((refresh_spares env client refreshToken idempotencyKey).obeys fun _ _ spares =>
      spares.permitted _ _).weaken (fun _ _ permit => permit) fun _ _ _ => trivial
  | logout bearer refreshToken => exact logout_revocation_obeys env bearer refreshToken

end GatewayProof
