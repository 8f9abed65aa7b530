/-
Running a script in a cluster. The run keeps every call with the cluster that
the call met and what came back, so a statement about any moment of an event,
or about every prefix of its calls, is a statement about this list.
-/
import SharedGateway.Cluster.Basic
import SharedGateway.Cluster.Script

namespace SharedGateway

-- ================================================================ calls

/-- How a cluster takes a call. -/
structure Exchange (c : Call) where
  /-- The cluster that the call met, after whatever others did before it. -/
  met : Cluster
  reply : c.Reply
  /-- The cluster after the call. -/
  after : Cluster

/-- One call in a cluster, with the disturbance that is planned for it. -/
def Cluster.answer (w : Cluster) (c : Call) : Exchange c :=
  match w.disturb c.site with
  | (some fault, met) => ⟨met, .error (faultError c fault), met⟩
  | (none, met) =>
    let (reply, after) := met.perform c
    ⟨met, reply, after⟩

-- ================================================================= runs

/-- One call of a run. -/
structure Moment where
  met : Cluster
  call : Call
  reply : call.Reply

/-- A finished run. -/
structure Run (α : Type) where
  result : α
  /-- The cluster at the end. -/
  cluster : Cluster
  /-- The calls in the order in which they were made. -/
  moments : List Moment

namespace Run

variable {α β : Type}

/-- The run with its result seen another way. -/
def map (f : α → β) (r : Run α) : Run β :=
  ⟨f r.result, r.cluster, r.moments⟩

/-- The run with the calls that were made before it. -/
def preceded (r : Run α) (earlier : List Moment) : Run α :=
  { r with moments := earlier ++ r.moments }

end Run

namespace Script

variable {ε ε' α β : Type}

/-- Runs a script to its end. -/
def run : Script ε α → Cluster → Run (Except ε α)
  | .done result, w => ⟨result, w, []⟩
  | .call c next, w =>
    let exchange := w.answer c
    let rest := (next exchange.reply).run exchange.after
    rest.preceded [⟨exchange.met, c, exchange.reply⟩]

/-- A sequence runs its first part and then, in the cluster that is left, its
second; an error of the first ends it. -/
theorem run_bind (s : Script ε α) (f : α → Script ε β) (w : Cluster) :
    (s >>= f).run w =
      match (s.run w).result with
      | .ok a => ((f a).run (s.run w).cluster).preceded (s.run w).moments
      | .error e => ⟨.error e, (s.run w).cluster, (s.run w).moments⟩ := by
  induction s generalizing w with
  | done result => cases result <;> rfl
  | call c next ih =>
    rw [call_bind]
    simp only [run, ih, Run.preceded]
    cases ((next (w.answer c).reply).run (w.answer c).after).result <;> simp

theorem run_mapError (f : ε → ε') (s : Script ε α) (w : Cluster) :
    (s.mapError f).run w = (s.run w).map (Except.mapError f) := by
  induction s generalizing w with
  | done result => rfl
  | call c next ih => simp only [mapError, run, ih]; rfl

theorem run_attempt (s : Script ε α) (w : Cluster) :
    (s.attempt : Script ε' (Except ε α)).run w = (s.run w).map .ok := by
  induction s generalizing w with
  | done result => rfl
  | call c next ih => simp only [attempt, run, ih]; rfl

end Script

end SharedGateway
