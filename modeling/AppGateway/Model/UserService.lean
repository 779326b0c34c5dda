import AppGateway.Model.Platform

namespace GatewayModel

open Gateway

variable (env : Env)

structure AuthenticatedUser where
  id : String
  email : String
  roles : List String
  tenantId : Option String
  isActive : Bool
deriving DecidableEq, Repr

def toAuthenticatedUser (row : UserRow) : Gateway AuthenticatedUser := do
  let email ← Gateway.decryptEmail row.email row.tenantId
  return { id := row.id, email, roles := row.roles, tenantId := row.tenantId, isActive := row.isActive }

def findUserByEmail (email : String) : Gateway (Option (AuthenticatedUser × Option String)) := do
  let row ← selectUserByEmailHash (env.hashEmail email)
  match row with
  | none => return none
  | some row =>
    let user ← toAuthenticatedUser row
    return some (user, row.passwordHash)

def findUserById (id : String) : Gateway (Option AuthenticatedUser) := do
  let row ← selectUserById id
  match row with
  | none => return none
  | some row =>
    let user ← toAuthenticatedUser row
    return some user

def verifyPassword (plaintext hash : String) : Bool := env.bcryptCompare plaintext hash

def markLastLogin (userId : String) : Gateway Unit := do
  let lastLoginAt ← dateNow
  let updatedAt ← dateNow
  updateLastLogin userId lastLoginAt updatedAt

end GatewayModel
