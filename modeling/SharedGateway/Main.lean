/-
The command line: it takes no arguments, reads its configuration from the
environment and reports how the start ended.
-/
import SharedGateway.Json.Printer
import SharedGateway.Startup

namespace SharedGateway

/-- The values of the variables in the environment of the process. -/
def processEnvironment : IO Config.Environment := do
  let values ← Variable.inOrder.mapM fun var => do
    return (var, ← IO.getEnv var.name)
  return fun var => (values.lookup var).join

end SharedGateway

open SharedGateway in
/-- Starts the operator. -/
def main : IO UInt32 := do
  let startup := Startup.withoutCluster (← processEnvironment)
  for line in startup.logs do
    IO.println line.toJson.toText
  for line in startup.errors do
    IO.eprintln line
  return UInt32.ofNat startup.exitCode
