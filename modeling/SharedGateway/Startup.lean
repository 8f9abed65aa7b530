/-
Starting the operator, as far as it comes without a cluster: the configuration
is loaded and reported, and then no client can be made.
-/
import SharedGateway.Config
import SharedGateway.Json.Basic

namespace SharedGateway

/-- A line of the log: a message and named values beside it. All lines of a
start are informational. -/
structure LogLine where
  message : String
  values : List (String × Json) := []
  deriving DecidableEq

namespace LogLine

/-- The line's values and message by name. -/
def fields (l : LogLine) : Json :=
  Json.object (("message", some (.str l.message)) :: l.values.map fun v => (v.1, some v.2))

/-- The line as it is logged. -/
def toJson (l : LogLine) : Json :=
  Json.object [("fields", some l.fields), ("level", some (.str "INFO"))]

end LogLine

/-- How a start ended. -/
structure Startup where
  exitCode : Nat
  logs : List LogLine
  /-- The lines of the error output. -/
  errors : List String
  deriving DecidableEq

namespace Startup

/-- The first line of every log. -/
def starting : LogLine := { message := "gatewayapi-operator starting" }

/-- The line that reports a configuration. -/
def loaded (config : Config) : LogLine where
  message := "Loaded configuration"
  values := [
    ("conflict_retry_attempts", .int config.conflictRetry.attempts),
    ("default_cluster_issuer", .str config.defaultIssuer),
    ("default_ipam_zone", .str config.defaultZone),
    ("field_manager", .str config.fieldManager),
    ("gateway_class", .str config.gatewayClass)]

/-- A start in an environment without a cluster. -/
def withoutCluster (env : Config.Environment) : Startup :=
  match Config.load env with
  | .error e => {
      exitCode := 1
      logs := [starting]
      errors := [
        "Error: Invalid operator configuration", "", "Caused by:", "    " ++ e.message] }
  | .ok config => {
      exitCode := 1
      logs := [starting, loaded config]
      errors := ["Error: Failed to create Kubernetes client"] }

end Startup

end SharedGateway
