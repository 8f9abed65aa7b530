/-
Runs of scripts, part by part. What a sequence calls is what its first part calls
and then, in the cluster that this leaves, its second; a failed part is the last
(`mem_moments_bind`, `result_bind_eq_ok`). The same for the sequences that the
operations are made of, which start with one call or go on after an attempt.
-/
import SharedGateway.Cluster.Run

namespace SharedGateway.Script

variable {ε ε' α β : Type} {s : Script ε α} {f : α → Script ε β} {w : Cluster}

-- ============================================================ sequences

/-- A call of a sequence is one of its first part, or of its second, which starts
where the first has left off. -/
theorem mem_moments_bind {m : Moment} : m ∈ ((s >>= f).run w).moments
    ↔ m ∈ (s.run w).moments
      ∨ ∃ a, (s.run w).result = .ok a ∧ m ∈ ((f a).run (s.run w).cluster).moments := by
  rw [run_bind]
  cases (s.run w).result <;> simp [Run.preceded]

/-- A sequence that ends well ends as its second part does. -/
theorem result_bind_eq_ok {b : β} (ended : ((s >>= f).run w).result = .ok b) :
    ∃ a, (s.run w).result = .ok a ∧ ((f a).run (s.run w).cluster).result = .ok b := by
  rw [run_bind] at ended
  cases first : (s.run w).result with
  | ok a =>
    rw [first] at ended
    exact ⟨a, rfl, ended⟩
  | error e =>
    rw [first] at ended
    cases ended

theorem moments_mapError (g : ε → ε') (s : Script ε α) (w : Cluster) :
    ((s.mapError g).run w).moments = (s.run w).moments := by
  rw [run_mapError]
  rfl

/-- After an attempt the calls go on, whether it has failed or not. -/
theorem moments_attempt_bind (s : Script ε α) (f : Except ε α → Script ε' β) (w : Cluster) :
    ((s.attempt >>= f).run w).moments
      = (s.run w).moments ++ ((f (s.run w).result).run (s.run w).cluster).moments := by
  rw [run_bind, run_attempt]
  rfl

-- ================================================================ calls

/-- A run of one call has one moment. -/
theorem run_request (c : Call) (w : Cluster) : (request c).run w
    = ⟨(w.answer c).reply, (w.answer c).after, [⟨(w.answer c).met, c, (w.answer c).reply⟩]⟩ := rfl

/-- The calls of a sequence that starts with one call: it ends there if that call
fails. -/
theorem moments_request_bind (c : Call) (g : StoreError → ε) (f : c.Answer → Script ε β)
    (w : Cluster) :
    (((request c).mapError g >>= f).run w).moments
      = ⟨(w.answer c).met, c, (w.answer c).reply⟩
        :: match (w.answer c).reply with
          | .ok answer => ((f answer).run (w.answer c).after).moments
          | .error _ => [] := by
  show _ :: (((done (w.answer c).reply).mapError g >>= f).run (w.answer c).after).moments = _
  cases (w.answer c).reply <;> rfl

/-- A call that nothing is called after. -/
theorem moments_request_last (c : Call) (g : StoreError → ε) {f : c.Answer → Script ε β}
    (last : ∀ answer w, ((f answer).run w).moments = []) (w : Cluster) :
    (((request c).mapError g >>= f).run w).moments
      = [⟨(w.answer c).met, c, (w.answer c).reply⟩] := by
  rw [moments_request_bind]
  cases (w.answer c).reply with
  | ok answer => exact congrArg (_ :: ·) (last answer _)
  | error e => rfl

end SharedGateway.Script
