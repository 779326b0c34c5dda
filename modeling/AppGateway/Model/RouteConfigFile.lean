import AppGateway.Codec.Binary64
import AppGateway.Model.RouteSchema
import AppGateway.Model.Validate

/-! `config/routes.ts`, and `schemas/route.schemas.ts` on what a configuration file may hold. -/

namespace GatewayModel

open Codec

def intCheck : (Json.Number → Bool) × String := (fun number => number.whole?.isSome, "Expected integer, received float")

def positiveCheck : (Json.Number → Bool) × String :=
  (fun number => number.double.isPositive, "Number must be greater than 0")

def maxCheck : (Json.Number → Bool) × String :=
  (fun number => binary64.atMost 100000 number.double, "Number must be less than or equal to 100000")

def anyString : Schema := .string (.testing [])

variable (isUrl : String → Bool)

def routeConfigShape : List (String × Schema) :=
  [("path", .string (.testing [(notEmpty, "path is required")])),
   ("upstream", .string (.testing [(isUrl, "upstream must be a valid URL")])),
   ("auth_required", .boolean),
   ("required_scope", .nullable anyString),
   ("allowed_roles", .nullable (.array anyString)),
   ("rate_limit_override", .nullable (.number [intCheck, positiveCheck, maxCheck])),
   ("strip_prefix", .boolean),
   ("timeout_ms", .withDefault (.nat 30000) (.optional (.number [intCheck, positiveCheck]))),
   ("audit_allowed_requests", .withDefault (.bool false) (.optional .boolean))]

def routeConfigFileSchema : Schema := .array (.object (routeConfigShape isUrl))

def RouteConfig.ofJson (json : Json) : RouteConfig where
  path := ((json.member? "path").bind Json.text?).getD ""
  upstream := ((json.member? "upstream").bind Json.text?).getD ""
  auth_required := ((json.member? "auth_required").bind Json.truth?).getD false
  required_scope := (json.member? "required_scope").bind Json.text?
  allowed_roles := ((json.member? "allowed_roles").bind Json.items?).map fun items => items.filterMap Json.text?
  rate_limit_override := ((json.member? "rate_limit_override").bind Json.whole?).map Int.toNat
  strip_prefix := ((json.member? "strip_prefix").bind Json.truth?).getD false
  timeout_ms := (((json.member? "timeout_ms").bind Json.whole?).getD 0).toNat
  audit_allowed_requests := ((json.member? "audit_allowed_requests").bind Json.truth?).getD false

/-! Loading -/

def issueLine (issue : Schema.Issue) : String :=
  "  [" ++ ".".intercalate (issue.path.map Schema.Step.name) ++ "] " ++ issue.message

def validationFailure (issues : List Schema.Issue) : String :=
  "Route configuration failed validation:\n" ++ "\n".intercalate (issues.map issueLine)

inductive RouteLoad where
  | routes (routeConfig : List RouteConfig)
  | exit (code : Nat) (printed : String)
deriving DecidableEq, Repr

/-- The setting `UPSTREAM_SERVICES_CONFIG_PATH`, `new URL` of the runtime, and the message of `JSON.parse` for a text
    that is not JSON. A text with an escape for half of a character alone holds strings that are no `String`s: what
    becomes of it is left open. -/
structure RouteFileEnv where
  zod : Zod
  configPath : String
  isUrl : String → Bool
  syntaxError : List Char → String
  unpaired : List Char → RouteLoad

def loadFailed (setup : RouteFileEnv) (message : String) : RouteLoad :=
  .exit 1 ("\n❌  Failed to load route configuration from " ++ setup.configPath ++ ":\n" ++ message ++
    "\n\nFix the configuration and restart the service.\n")

/-- `raw` is what `readFileSync` returns or throws. -/
def loadRouteConfig (setup : RouteFileEnv) (raw : Except String (List Char)) : RouteLoad :=
  match raw with
  | .error message => loadFailed setup message
  | .ok text =>
    if Json.paired text then
      match Json.parse text with
      | none => loadFailed setup (setup.syntaxError text)
      | some parsed =>
        match setup.zod.safeParse (routeConfigFileSchema setup.isUrl) (some parsed) with
        | .error issues => loadFailed setup (validationFailure issues)
        | .ok data => .routes (((data.bind Json.items?).getD []).map RouteConfig.ofJson)
    else setup.unpaired text

/-- An entry as a file holds it, `JSON.stringify` of its object: members that are not set are left out. -/
def RouteConfigInput.toJson (input : RouteConfigInput) : Json :=
  .object
    ([("path", .string input.path),
      ("upstream", .string input.upstream),
      ("auth_required", .bool input.auth_required),
      ("required_scope", input.required_scope.elim .null .string),
      ("allowed_roles", input.allowed_roles.elim .null fun roles => .array (roles.map .string)),
      ("rate_limit_override", input.rate_limit_override.elim .null fun limit => .number (Json.intNumber limit)),
      ("strip_prefix", .bool input.strip_prefix)] ++
      (input.timeout_ms.map fun ms => ("timeout_ms", .number (Json.intNumber ms))).toList ++
      (input.audit_allowed_requests.map fun audit => ("audit_allowed_requests", .bool audit)).toList)

end GatewayModel
