import AppGateway.Async.Modular
import AppGateway.Sessions.Protocol
import AppGateway.Sessions.Table

namespace GatewayProof

open Async GatewayModel
open Async.System (Modular Reaches Disciplined advance_cases next_cases)

theorem exec_ok {env : Env} {choice : Choice} {before after : GatewayState} {effect : Effect}
    {value : effect.Reply} (executed : exec env effect choice before = some (.ok value, after)) :
    respond env choice before effect = some (.ok value, after) := by
  unfold exec at executed
  split at executed
  · exact executed
  · split at executed <;> cases executed
  · split at executed
    · cases executed
    · obtain ⟨answer, _, same⟩ := Option.map_eq_some_iff.mp executed
      cases same

theorem select_by_hash_reply {env : Env} {choice : Choice} {before after : GatewayState}
    {tokenHash : String} {found : Option RefreshTokenRow}
    (executed : exec env (.selectRefreshTokenByHash tokenHash) choice before = some (.ok found, after)) :
    found = before.refreshTokens.find? (·.tokenHash = tokenHash) ∧ after = before := by
  cases exec_ok executed
  exact ⟨rfl, rfl⟩

theorem select_by_hash_some {env : Env} {choice : Choice} {before after : GatewayState}
    {tokenHash : String} {row : RefreshTokenRow}
    (executed : exec env (.selectRefreshTokenByHash tokenHash) choice before = some (.ok (some row), after)) :
    row ∈ before.refreshTokens ∧ row.tokenHash = tokenHash ∧ after = before := by
  obtain ⟨found, same⟩ := select_by_hash_reply executed
  have first := found.symm
  exact ⟨List.mem_of_find?_eq_some first, by simpa using List.find?_some first, same⟩

theorem update_by_id_revokes {env : Env} {choice : Choice} {before after : GatewayState} {id : String}
    {revokedAt : Nat} {reason : String}
    (executed : exec env (.updateRevokedById id revokedAt reason) choice before = some (.ok (), after))
    (present : ∃ row ∈ before.refreshTokens, row.id = id) : Revoked after id := by
  cases exec_ok executed
  obtain ⟨row, member, rfl⟩ := present
  exact ⟨_, mem_setRevoked.mpr ⟨row, member, rfl⟩, by simp⟩

theorem insert_ok {env : Env} {choice : Choice} {before after : GatewayState} {values : NewRefreshToken}
    (executed : exec env (.insertRefreshToken values) choice before = some (.ok (), after)) :
    values.row choice.random before.clock ∈ after.refreshTokens := by
  have responded := exec_ok executed
  simp only [respond] at responded
  split at responded
  · cases responded
  · simp only [GatewayState.insert] at responded
    split at responded
    · split at responded
      · cases responded
      · cases responded
        exact List.mem_append_right _ (List.mem_singleton.mpr rfl)
    · cases responded

theorem select_user_some {env : Env} {choice : Choice} {before after : GatewayState} {id : String}
    {user : UserRow}
    (executed : exec env (.selectUserById id) choice before = some (.ok (some user), after)) :
    user ∈ before.users ∧ user.id = id := by
  have responded := exec_ok executed
  simp only [respond, Option.some.injEq, Prod.mk.injEq, Except.ok.injEq] at responded
  have found := responded.1
  exact ⟨List.mem_of_find?_eq_some found, by simpa using List.find?_some found⟩

def ReadUser (past : List SessionEvent) (id : String) (user : UserRow) : Prop :=
  ⟨.selectUserById id, .ok (some user)⟩ ∈ past

structure Knows (state : GatewayState) (past : List SessionEvent) : Prop where
  selected : ∀ tokenHash row, Selected past tokenHash row → row.tokenHash = tokenHash ∧ Persists state row
  inserted : ∀ values, Inserted past values → ∃ id issuedAt, Persists state (values.row id issuedAt)
  user : ∀ id user, ReadUser past id user → user.id = id

theorem Knows.grow {before after : GatewayState} {past : List SessionEvent}
    (knows : Knows before past) (growth : Grows before after) : Knows after past where
  selected := fun tokenHash row selected =>
    ⟨(knows.selected tokenHash row selected).1, (knows.selected tokenHash row selected).2.grow growth⟩
  inserted := by
    intro values inserted
    obtain ⟨id, issuedAt, persists⟩ := knows.inserted values inserted
    exact ⟨id, issuedAt, persists.grow growth⟩
  user := knows.user

theorem Knows.nil (state : GatewayState) : Knows state [] where
  selected := fun _ _ selected => by simp [Selected] at selected
  inserted := fun _ inserted => by simp [Inserted] at inserted
  user := fun _ _ read => by simp [ReadUser] at read

theorem Knows.snoc {env : Env} {choice : Choice} {before after : GatewayState} {effect : Effect}
    {reply : Except Thrown effect.Reply} {past : List SessionEvent} (knows : Knows before past)
    (executed : exec env effect choice before = some (reply, after)) :
    Knows after (past ++ [⟨effect, reply⟩]) := by
  have grown : Knows after past := knows.grow (exec_tableStep executed).grows
  constructor
  · intro tokenHash row selected
    rcases List.mem_append.mp selected with member | member
    · exact grown.selected tokenHash row member
    · cases List.mem_singleton.mp member
      obtain ⟨stored, hash, same⟩ := select_by_hash_some executed
      subst same
      exact ⟨hash, row, stored, .refl row⟩
  · intro values inserted
    rcases List.mem_append.mp inserted with member | member
    · exact grown.inserted values member
    · cases List.mem_singleton.mp member
      exact ⟨choice.random, before.clock, _, insert_ok executed, .refl _⟩
  · intro id user read
    rcases List.mem_append.mp read with member | member
    · exact grown.user id user member
    · cases List.mem_singleton.mp member
      exact (select_user_some executed).2

section Processes

variable {env : Env} {Call Out : Type} {code : Call → Gateway Out}
  {permits : Call → List SessionEvent → Effect → Prop}
  {ends : Call → List SessionEvent → Except Thrown Out → Prop}

def ProcessHolds (permits : Call → List SessionEvent → Effect → Prop)
    (ends : Call → List SessionEvent → Except Thrown Out → Prop) (state : GatewayState)
    (thread : GatewayThread Call Out) : Prop :=
  Disciplined permits ends thread ∧ Knows state thread.past

theorem processes_modular (obeys : ∀ call, (code call).Obeys (permits call) (ends call) []) :
    Modular (processes env code) (fun _ _ => True) TableValid Grows (ProcessHolds permits ends) where
  call := fun state call _ => ⟨Disciplined.of_code (obeys call), Knows.nil state⟩
  step := by
    intro choice state thread moved later _ valid holds advanced
    obtain ⟨effect, resume, reply, alive, program, executed, rfl⟩ := advance_cases advanced
    have step : TableStep state later effect := exec_tableStep executed
    exact ⟨valid.step step, step.grows, holds.1.advance advanced, holds.2.snoc executed⟩
  external := fun event state valid => ⟨valid.external event, external_grows event state⟩
  stable := fun _ _ _ growth holds => ⟨holds.1, holds.2.grow growth⟩
  crash := fun _ _ holds => holds

variable {config after : GatewayConfig Call Out} {label : GatewayLabel Call}

theorem processes_grow (moved : (processes env code).next config label = some after) :
    Grows config.state after.state := by
  rcases next_cases moved with ⟨call, _, rfl⟩ | ⟨place, choice, old, advanced, state, _, _, stepped, rfl⟩ |
    ⟨place, old, _, _, rfl⟩ | ⟨event, _, rfl⟩
  · exact .refl _
  · obtain ⟨effect, resume, reply, _, _, executed, rfl⟩ := advance_cases stepped
    have step : TableStep config.state state effect := exec_tableStep executed
    exact step.grows
  · exact .refl _
  · exact external_grows event _

theorem processes_next (obeys : ∀ call, (code call).Obeys (permits call) (ends call) [])
    (holds : Modular.Holds TableValid (ProcessHolds permits ends) config)
    (moved : (processes env code).next config label = some after) :
    Modular.Holds TableValid (ProcessHolds permits ends) after :=
  (processes_modular obeys).next holds (fun _ _ _ _ _ => trivial) moved

theorem freshGateway_valid (clock : Nat) (users : List UserRow) :
    Modular.Holds TableValid (ProcessHolds permits ends) (freshGateway clock users) := by
  refine ⟨⟨?_, ?_, ?_, ?_⟩, ?_⟩ <;> simp [freshGateway]

def Reachable (env : Env) (code : Call → Gateway Out)
    (allowed : GatewayConfig Call Out → GatewayLabel Call → Prop) (config : GatewayConfig Call Out) : Prop :=
  ∃ clock users, Reaches (processes env code) allowed (freshGateway clock users) config

theorem Reachable.holds {allowed : GatewayConfig Call Out → GatewayLabel Call → Prop}
    (reachable : Reachable env code allowed config)
    (obeys : ∀ call, (code call).Obeys (permits call) (ends call) []) :
    Modular.Holds TableValid (ProcessHolds permits ends) config := by
  obtain ⟨clock, users, reached⟩ := reachable
  exact (processes_modular obeys).run (fun _ _ _ _ _ _ _ _ => trivial) reached (freshGateway_valid clock users)

end Processes

/-- SHA-256 on the plaintexts of the schedules below; elsewhere an injective stand-in. -/
def sampleSha256 (plaintext : String) : String :=
  if plaintext = "t0" then "512f26ada3c3d634ac3c6b12b7b33cb50bb0963c3f6d9924241619c84ec78ff2"
  else if plaintext = "t1" then "628b49d96dcde97a430dd4f597705899e09a968f793491e4b704cae33a40dc02"
  else if plaintext = "t2" then "c44474038d459e40e4714afefa7bf8dae9f9834b22f5e8ec1dd434ecb62b512e"
  else "sha256:" ++ plaintext

theorem digest_ne {digest : String} (plaintext : String) (head : digest.toList.head? ≠ some 's') :
    digest ≠ "sha256:" ++ plaintext := by
  rintro rfl
  simp at head

theorem sampleSha256_injective : Function.Injective sampleSha256 := by
  intro first second same
  unfold sampleSha256 at same
  split_ifs at same <;> try (first | (subst_vars; rfl) | simp at same)
  · exact absurd same (digest_ne second (by decide))
  · exact absurd same (digest_ne second (by decide))
  · exact absurd same (digest_ne second (by decide))
  · exact absurd same.symm (digest_ne first (by decide))
  · exact absurd same.symm (digest_ne first (by decide))
  · exact absurd same.symm (digest_ne first (by decide))
  · exact same

def sampleEnv : Env where
  gatewayBaseUrl := "http://localhost:3000"
  jwtKid := "kid-1"
  verifyKids := ["kid-1"]
  accessTokenTtlSeconds := 900
  refreshTokenTtlSeconds := 604800
  defaultUserScope := "openid profile email api:read"
  sha256Hex := sampleSha256
  hashEmail := fun email => "hmac:" ++ email
  bcryptCompare := fun plaintext hash => hash = "bcrypt:" ++ plaintext
  decryptEmail := fun encoded _ => some encoded

def sampleUser (id email : String) : UserRow where
  id := id
  email := email
  emailHash := "hmac:" ++ email
  passwordHash := some "bcrypt:secret"
  roles := ["viewer"]
  tenantId := none
  isActive := true
  updatedAt := 0
  lastLoginAt := none

def drawing (random : String) : Choice := { random }

def steps {Call : Type} (index count : Nat) : List (Label Choice External Call) :=
  List.replicate count (.step index {})

end GatewayProof
