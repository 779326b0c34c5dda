import AppGateway.Model.ProxyService

namespace GatewayModel

/-- An entry of the configuration file, of the types the schema asks for. Numbers other than integers
    never pass. -/
structure RouteConfigInput where
  path : String
  upstream : String
  auth_required : Bool
  required_scope : Option String
  allowed_roles : Option (List String)
  rate_limit_override : Option Int
  strip_prefix : Bool
  timeout_ms : Option Int
  audit_allowed_requests : Option Bool
deriving DecidableEq, Repr

/-- The entry and field of a check that failed, with the schema's message where it gives one of its own. -/
structure Issue where
  path : Nat × String
  message : Option String
deriving DecidableEq, Repr

def check (passes : Bool) (path : Nat × String) (message : Option String) : List Issue :=
  if passes then [] else [{ path, message }]

variable (isUrl : String → Bool)

def routeIssues (index : Nat) (input : RouteConfigInput) : List Issue :=
  check (1 ≤ utf16Length input.path) (index, "path") (some "path is required") ++
    check (isUrl input.upstream) (index, "upstream") (some "upstream must be a valid URL") ++
    check (input.rate_limit_override.all (0 < ·)) (index, "rate_limit_override") none ++
    check (input.rate_limit_override.all (· ≤ 100000)) (index, "rate_limit_override") none ++
    check (input.timeout_ms.all (0 < ·)) (index, "timeout_ms") none

def RouteConfigInput.parsed (input : RouteConfigInput) : RouteConfig where
  path := input.path
  upstream := input.upstream
  auth_required := input.auth_required
  required_scope := input.required_scope
  allowed_roles := input.allowed_roles
  rate_limit_override := input.rate_limit_override.map Int.toNat
  strip_prefix := input.strip_prefix
  timeout_ms := (input.timeout_ms.getD 30000).toNat
  audit_allowed_requests := input.audit_allowed_requests.getD false

def routeConfigListSchema (inputs : List RouteConfigInput) : Except (List Issue) (List RouteConfig) :=
  match inputs.zipIdx.flatMap fun (input, index) => routeIssues isUrl index input with
  | [] => .ok (inputs.map RouteConfigInput.parsed)
  | issues => .error issues

end GatewayModel
