/-
The operator's configuration. It comes from six variables of the environment,
all optional. They are looked at in one order, and the first value that cannot
be used is the error.
-/
import SharedGateway.Retry.Conflict
import SharedGateway.Text.Blank
import SharedGateway.Text.Decimal
import SharedGateway.Text.Quoted

namespace SharedGateway

-- ============================================================ variables

/-- The variables that configure the operator. -/
inductive Variable where
  | gatewayClassName
  | defaultClusterIssuer
  | defaultIpamZone
  | fieldManager
  | conflictRetryAttempts
  | healthPort
  deriving DecidableEq, Repr

namespace Variable

/-- The variable's name in the environment. -/
def name : Variable → String
  | .gatewayClassName => "GATEWAY_CLASS_NAME"
  | .defaultClusterIssuer => "DEFAULT_CLUSTER_ISSUER"
  | .defaultIpamZone => "DEFAULT_IPAM_ZONE"
  | .fieldManager => "FIELD_MANAGER"
  | .conflictRetryAttempts => "CONFLICT_RETRY_ATTEMPTS"
  | .healthPort => "HEALTH_PORT"

/-- All variables in the order in which they are looked at. -/
def inOrder : List Variable :=
  [.gatewayClassName, .defaultClusterIssuer, .defaultIpamZone, .fieldManager,
   .conflictRetryAttempts, .healthPort]

end Variable

/-- Why a value cannot be used. -/
inductive ConfigError where
  /-- A text variable is set to blanks only. -/
  | empty (var : Variable)
  /-- A number is malformed or out of range; `value` is the text as it was. -/
  | invalidValue (var : Variable) (value : String)
  deriving DecidableEq, Repr

/-- The error as a message. -/
def ConfigError.message : ConfigError → String
  | .empty var => var.name ++ " must not be empty"
  | .invalidValue var value => "Invalid value for " ++ var.name ++ ": " ++ Text.quoted value

-- ======================================================== configuration

/-- The pause between two attempts at updating a route, in milliseconds. -/
def conflictPause : Nat := 10

/-- The configuration that every part of the operator shares. -/
structure Config where
  /-- The class of the gateways that are created. -/
  gatewayClass : String := "eg"
  /-- The issuer of routes that declare none. -/
  defaultIssuer : String := "internpki"
  /-- The zone of routes that declare none. -/
  defaultZone : String := "hnet-private"
  /-- The name under which fields are applied. -/
  fieldManager : String := "gatewayapi-operator"
  /-- The bound on updating one route after conflicts. -/
  conflictRetry : ConflictRetry := .ofAttempts 5 conflictPause
  /-- The port of the health probes. -/
  healthPort : UInt16 := 8081
  deriving DecidableEq

namespace Config

/-- The configuration of an environment without variables. -/
def standard : Config := {}

/-- The values of the variables that are set. -/
abbrev Environment := Variable → Option String

/-- A text variable without the blanks around it, or its default. -/
def text (env : Environment) (var : Variable) (default : String) : Except ConfigError String :=
  match env var with
  | none => .ok default
  | some raw =>
    let text := Text.trimmed raw
    if text = "" then .error (.empty var) else .ok text

/-- A number between `least` and below `bound`, or its default. -/
def number (env : Environment) (var : Variable) (least bound default : Nat) :
    Except ConfigError Nat :=
  match env var with
  | none => .ok default
  | some raw =>
    match Text.numeralBelow? bound (Text.trim raw.toList) with
    | some n => if least ≤ n then .ok n else .error (.invalidValue var raw)
    | none => .error (.invalidValue var raw)

/-- The configuration that an environment asks for. -/
def load (env : Environment) : Except ConfigError Config := do
  let gatewayClass ← text env .gatewayClassName standard.gatewayClass
  let defaultIssuer ← text env .defaultClusterIssuer standard.defaultIssuer
  let defaultZone ← text env .defaultIpamZone standard.defaultZone
  let fieldManager ← text env .fieldManager standard.fieldManager
  let attempts ← number env .conflictRetryAttempts 1 UInt32.size standard.conflictRetry.attempts
  let port ← number env .healthPort 0 UInt16.size standard.healthPort.toNat
  return {
    gatewayClass, defaultIssuer, defaultZone, fieldManager
    conflictRetry := .ofAttempts attempts conflictPause
    healthPort := UInt16.ofNat port }

end Config

end SharedGateway
