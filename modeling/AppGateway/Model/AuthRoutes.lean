import AppGateway.Model.AuthRouter
import AppGateway.Model.Validate

/-! The routes of `auth.router.ts` as Express runs them: validation, then the handler. -/

namespace GatewayModel

open Codec Gateway

/-- The columns of a user that only the profile shows. No function of the gateway writes them. -/
structure ProfileColumns where
  firstName : Option String
  lastName : Option String
  emailVerified : Bool
  createdAt : Nat
deriving DecidableEq, Repr

structure RouterEnv extends Env where
  formats : ZodFormats
  profileColumns : String → ProfileColumns

/-- `GET /me` answers with this; instants are in milliseconds. -/
structure UserProfile where
  id : String
  email : String
  first_name : Option String
  last_name : Option String
  roles : List String
  auth_method : String
  tenant_id : Option String
  email_verified : Bool
  created_at : Nat
  last_login_at : Option Nat
deriving DecidableEq, Repr

/-- A request as it comes to a route behind the body parser; `none` is a body that has not been parsed. -/
inductive AuthRequest where
  | login (client : Client) (body : Option Json)
  | refresh (client : Client) (body : Option Json)
  | logout (bearer : Option PresentedToken) (body : Option Json)
  | me (bearer : Option PresentedToken)
  | jwks

inductive RouteAnswer where
  | session (answer : Answer)
  | refused (error : ValidationError)
  | profile (body : UserProfile)
  | jwks (kids : List String)
deriving DecidableEq, Repr

variable (env : RouterEnv)

def bodyText (body : Option Json) (name : String) : Option String := (body.bind (·.member? name)).bind Json.text?

def postLogin (client : Client) (body : Option Json) : Gateway RouteAnswer :=
  match validate env.formats.toZod (loginSchema env.formats) body with
  | .error error => return .refused error
  | .ok body =>
    match bodyText body "email", bodyText body "password" with
    | some email, some password => do
      let answer ← login env.toEnv client email password
      return .session answer
    | _, _ => throw (.error "TypeError")

def postRefresh (client : Client) (body : Option Json) : Gateway RouteAnswer :=
  match validate env.formats.toZod (refreshSchema env.formats) body with
  | .error error => return .refused error
  | .ok body =>
    match bodyText body "refresh_token" with
    | some refreshToken => do
      let answer ← refresh env.toEnv client refreshToken (bodyText body "idempotency_key")
      return .session answer
    | none => throw (.error "TypeError")

def postLogout (bearer : Option PresentedToken) (body : Option Json) : Gateway RouteAnswer := do
  let verified ← requireAccessToken env.toEnv bearer
  match verified with
  | .error error => return .session (.failed error)
  | .ok auth =>
    match validate env.formats.toZod logoutSchema body with
    | .error error => return .refused error
    | .ok body =>
      let answer ← logoutHandler env.toEnv auth (bodyText body "refresh_token")
      return .session answer

def toUserProfile (user : AuthenticatedUser) (columns : ProfileColumns) (lastLoginAt : Option Nat)
    (authMethod : String) :
    UserProfile where
  id := user.id
  email := user.email
  first_name := columns.firstName
  last_name := columns.lastName
  roles := user.roles
  auth_method := authMethod
  tenant_id := user.tenantId
  email_verified := columns.emailVerified
  created_at := columns.createdAt
  last_login_at := lastLoginAt

/-- `findUserById` with the columns the profile shows. -/
def findProfileById (id authMethod : String) : Gateway (Option UserProfile) := do
  let row ← selectUserById id
  match row with
  | none => return none
  | some row =>
    let user ← toAuthenticatedUser row
    return some (toUserProfile user (env.profileColumns row.id) row.lastLoginAt authMethod)

def getMe (bearer : Option PresentedToken) : Gateway RouteAnswer := do
  let verified ← requireAccessToken env.toEnv bearer
  match verified with
  | .error error => return .session (.failed error)
  | .ok auth =>
    let profile ← findProfileById env auth.sub auth.auth_method.text
    match profile with
    | none => return .session (.failed (unauthorizedError "User no longer exists"))
    | some profile => return .profile profile

/-- The ids of the keys in the document. -/
def getJwks : Gateway RouteAnswer := do
  loadSigningKeys
  return .jwks env.verifyKids

def AuthRequest.code : AuthRequest → Gateway RouteAnswer
  | .login client body => postLogin env client body
  | .refresh client body => postRefresh env client body
  | .logout bearer body => postLogout env bearer body
  | .me bearer => getMe env bearer
  | .jwks => getJwks env

abbrev authRouter := processes env.toEnv (AuthRequest.code env)

end GatewayModel
