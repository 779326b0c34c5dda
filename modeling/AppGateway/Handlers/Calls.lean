import AppGateway.Handlers.Protocol
import AppGateway.Sessions.Lineage

namespace GatewayProof

open Async GatewayModel

/-- The requests of `auth.router.ts` that touch sessions, with what the handler reads of each. -/
inductive HandlerCall where
  | login (client : Client) (email password : String)
  | refresh (client : Client) (refreshToken : String) (idempotencyKey : Option String)
  | logout (bearer : Option PresentedToken) (refreshToken : Option String)
deriving DecidableEq, Repr

def HandlerCall.code (env : Env) : HandlerCall → Gateway Answer
  | .login client email password => GatewayModel.login env client email password
  | .refresh client refreshToken idempotencyKey => GatewayModel.refresh env client refreshToken idempotencyKey
  | .logout bearer refreshToken => GatewayModel.logout env bearer refreshToken

abbrev handlers (env : Env) := processes env (HandlerCall.code env)

abbrev HandlerThread := GatewayThread HandlerCall Answer
abbrev HandlerConfig := GatewayConfig HandlerCall Answer
abbrev HandlerLabel := GatewayLabel HandlerCall

def HandlerCall.Permits (env : Env) : HandlerCall → List SessionEvent → Effect → Prop
  | .login _ email _ => LoginPermits (env.hashEmail email)
  | .refresh _ refreshToken _ => RefreshPermits env (env.sha256Hex refreshToken)
  | .logout .. => LogoutPermits

def HandlerCall.Ends (env : Env) : HandlerCall → List SessionEvent → Except Thrown Answer → Prop
  | .login .. => LoginEnds env
  | .refresh _ refreshToken _ => RefreshEnds env (env.sha256Hex refreshToken)
  | .logout .. => LogoutEnds

theorem HandlerCall.code_obeys (env : Env) (call : HandlerCall) :
    (call.code env).Obeys (call.Permits env) (call.Ends env) [] := by
  cases call with
  | login client email password => exact login_obeys env client email password
  | refresh client refreshToken idempotencyKey => exact refresh_obeys env client refreshToken idempotencyKey
  | logout bearer refreshToken => exact logout_obeys env bearer refreshToken

def Logins (call : HandlerCall) : Prop := ∃ client email password, call = .login client email password

theorem handlers_lineal (env : Env) : InsertsLineal Logins (HandlerCall.Permits env) := by
  intro call past values permit
  cases call with
  | login client email password => exact .inl ⟨⟨client, email, password, rfl⟩, permit.2.1, permit.1⟩
  | refresh client refreshToken idempotencyKey =>
    obtain ⟨row, selected, family, user⟩ := permit
    refine .inr ⟨?_, _, row, selected, family, user⟩
    rintro ⟨_, _, _, same⟩
    cases same
  | logout bearer refreshToken => exact permit.elim

abbrev HandlersValid (env : Env) : HandlerConfig → Prop :=
  System.Modular.Holds TableValid (ProcessHolds (HandlerCall.Permits env) (HandlerCall.Ends env))

abbrev HandlersReachable (env : Env) := Reachable env (HandlerCall.code env)

theorem handlers_valid {env : Env} {allowed : HandlerConfig → HandlerLabel → Prop} {config : HandlerConfig}
    (reachable : HandlersReachable env allowed config) : HandlersValid env config :=
  reachable.holds (HandlerCall.code_obeys env)

theorem handlers_lineage {env : Env} {allowed : HandlerConfig → HandlerLabel → Prop}
    {config : HandlerConfig} (reachable : HandlersReachable env allowed config) : Lineage Logins config :=
  reachable.lineage (HandlerCall.code_obeys env) (handlers_lineal env)

end GatewayProof
