/-
Health probes. The process is alive as long as it answers; it is ready while
the controller runs and the API server answers, and the API server is asked
only when the controller runs.
-/

namespace SharedGateway

/-- What asking the API server whether it is ready comes to. -/
inductive ApiHealth where
  | ready
  | notReady
  | failing
  deriving DecidableEq, Repr

/-- The state that the probes report. -/
structure Probe where
  controllerRunning : Bool := false
  api : ApiHealth := .ready
  /-- How often the API server has been asked. -/
  apiCalls : Nat := 0
  deriving DecidableEq, Repr

/-- Whether the operator is ready, and if not, why. -/
inductive Readiness where
  | ready
  | controllerStopped
  | apiNotReady
  | apiUnreachable
  deriving DecidableEq, Repr

namespace Probe

/-- Finds out whether the operator is ready. -/
def readiness (p : Probe) : Readiness × Probe :=
  if !p.controllerRunning then (.controllerStopped, p)
  else
    let asked := { p with apiCalls := p.apiCalls + 1 }
    match p.api with
    | .ready => (.ready, asked)
    | .notReady => (.apiNotReady, asked)
    | .failing => (.apiUnreachable, asked)

/-- The status of a probe request. A query does not matter, and a head request
is answered like a reading one. -/
def respond (p : Probe) (method target : String) : Nat × Probe :=
  let path := String.ofList (target.toList.takeWhile (· ≠ '?'))
  let reads := method = "GET" || method = "HEAD"
  if path = "/healthz" then (if reads then 200 else 405, p)
  else if path = "/readyz" then
    if reads then
      let (readiness, p) := p.readiness
      (if readiness = .ready then 200 else 503, p)
    else (405, p)
  else (404, p)

end Probe

end SharedGateway
