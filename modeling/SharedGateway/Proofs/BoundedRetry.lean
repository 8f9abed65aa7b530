/-
How often an attempt is repeated.

# Sessions

What the attempts are answered with is a script, one answer for each call and without
end, and a session keeps count of calls and pauses. The loop that the operator runs
is written for any monad; in the one of sessions it can be watched.

# Rounds

A round of the loop ends it, or uses up one answer that has lost its race and one
pause. The three ways a round can go are three equations (`run_retryFrom_settled`,
`run_retryFrom_lost`, `run_retryFrom_last`). So by induction on the rounds the loop
ends with the first answer that has lost no race, if it comes up within the bound
(`run_retryFrom_of_first`), and else with its last attempt
(`run_retryFrom_of_losses`). Among the first answers there is such a first one, or
all of them have lost (`exists_firstSettled`), so these are all cases. A bound of
zero is taken for one.

# Words

The loop that counts its attempts in words of 32 bits is the same loop in any monad
(`retryInWords_eq`), for its counter stays within the bound of the policy and so does
not wrap, not even if the bound is the greatest word. No other measure is needed to
see that it ends.
-/
import SharedGateway.Retry.Conflict

namespace SharedGateway

-- ============================================================== answers

section Answers

variable {α : Type}

/-- Somebody else wrote first: the answers that are worth another attempt. -/
def LosesRace (answer : Except StoreError α) : Prop :=
  ∃ kind key, answer = .error (.conflict kind key) ∨ answer = .error (.alreadyExists kind key)

theorem not_losesRace_ok (value : α) : ¬ LosesRace (.ok value) := by
  rintro ⟨kind, key, same | same⟩ <;> cases same

theorem losesRace_error {cause : StoreError} :
    LosesRace (.error cause : Except StoreError α) ↔ cause.isConflict = true := by
  cases cause <;> simp [LosesRace, StoreError.isConflict]

/-- What has lost its race is an error, one that is worth another attempt. -/
theorem LosesRace.exists_error {answer : Except StoreError α} (lost : LosesRace answer) :
    ∃ cause, answer = .error cause ∧ cause.isConflict = true := by
  cases answer with
  | ok value => exact absurd lost (not_losesRace_ok value)
  | error cause => exact ⟨cause, rfl, losesRace_error.1 lost⟩

/-- The answer at `j` is the first that has not lost its race. -/
structure FirstSettled (script : Nat → Except StoreError α) (j : Nat) : Prop where
  settled : ¬ LosesRace (script j)
  before : ∀ i < j, LosesRace (script i)

/-- Among the first `n` answers there is a first that has not lost its race, unless
all of them have. -/
theorem exists_firstSettled {script : Nat → Except StoreError α} {n i : Nat} (within : i < n)
    (settled : ¬ LosesRace (script i)) : ∃ j < n, FirstSettled script j := by
  induction i using Nat.strongRecOn with
  | ind i ih =>
    by_cases earlier : ∃ k < i, ¬ LosesRace (script k)
    · obtain ⟨k, before, other⟩ := earlier
      exact ih k before (Nat.lt_trans before within) other
    · refine ⟨i, within, settled, fun k before => ?_⟩
      exact Classical.byContradiction fun other => earlier ⟨k, before, other⟩

end Answers

-- ============================================================== session

/-- What repeated attempts have done so far. -/
structure Session where
  calls : Nat := 0
  /-- The pauses that were made, in milliseconds. -/
  pauses : List Nat := []

namespace Session

variable {α : Type}

/-- The session after one more call. -/
def called (s : Session) : Session :=
  { s with calls := s.calls + 1 }

/-- An attempt that the script answers. -/
def call (script : Nat → Except StoreError α) : StateM Session (Except StoreError α) :=
  fun s => (script s.calls, s.called)

/-- A pause between two attempts. -/
def pause (duration : Nat) : StateM Session Unit :=
  fun s => ((), { s with pauses := s.pauses ++ [duration] })

/-- That many pauses of one length; there are none of length zero. -/
def pausing (duration times : Nat) : List Nat :=
  if duration = 0 then [] else List.replicate times duration

/-- The session after that many more attempts that lost their races and were followed
by a pause. -/
def lost (s : Session) (duration times : Nat) : Session where
  calls := s.calls + times
  pauses := s.pauses ++ pausing duration times

theorem lost_zero (s : Session) (duration : Nat) : s.lost duration 0 = s := by
  cases s
  simp [lost, pausing]

/-- Lost attempts are counted one by one. -/
theorem lost_lost (s : Session) (duration times : Nat) :
    (s.lost duration 1).lost duration times = s.lost duration (times + 1) := by
  unfold lost pausing
  split
  · simp [Nat.add_assoc, Nat.add_comm 1]
  · simp [Nat.add_assoc, Nat.add_comm 1, List.replicate_succ]

theorem calls_lost_one (s : Session) (duration i : Nat) :
    (s.lost duration 1).calls + i = s.calls + (i + 1) := by
  show s.calls + 1 + i = _
  omega

end Session

-- =============================================================== rounds

section Rounds

variable {α : Type} {script : Nat → Except StoreError α} {s : Session}

/-- The pause of a policy, as the loop makes it. -/
def Session.wait (duration : Nat) : StateM Session Unit :=
  if duration = 0 then pure () else Session.pause duration

/-- A call and the pause after it are one lost attempt. -/
theorem Session.wait_called (s : Session) (duration : Nat) :
    Session.wait duration s.called = ((), s.lost duration 1) := by
  unfold wait lost pausing
  split
  · simp [called]
    rfl
  · rfl

/-- A round begins with a call, and goes on with what it was answered. -/
theorem run_call_bind {β : Type} (f : Except StoreError α → StateM Session β) (s : Session) :
    (Session.call script >>= f).run s = (f (script s.calls)).run s.called := rfl

/-- An answer that has not lost its race ends the loop, whatever is left. -/
theorem run_retryFrom_settled (duration attempt left : Nat)
    (settled : ¬ LosesRace (script s.calls)) :
    (retryFrom (Session.wait duration) (Session.call script) attempt left).run s
      = ((script s.calls).mapError .store, s.called) := by
  cases left with
  | zero | succ left =>
    rw [retryFrom, run_call_bind]
    cases answer : script s.calls with
    | ok value => rfl
    | error cause =>
      rw [answer, losesRace_error] at settled
      dsimp only
      rw [if_neg settled]
      rfl

/-- An answer that has lost its race costs one attempt and one pause. -/
theorem run_retryFrom_lost (duration attempt left : Nat) (lost : LosesRace (script s.calls)) :
    (retryFrom (Session.wait duration) (Session.call script) attempt (left + 1)).run s
      = (retryFrom (Session.wait duration) (Session.call script) (attempt + 1) left).run
        (s.lost duration 1) := by
  obtain ⟨cause, answer, conflict⟩ := lost.exists_error
  rw [retryFrom, run_call_bind, answer]
  dsimp only
  rw [if_pos conflict, StateT.run_bind]
  exact congrArg (fun waited => (retryFrom (Session.wait duration) (Session.call script)
    (attempt + 1) left).run waited.2) (s.wait_called duration)

/-- The last attempt is not repeated. -/
theorem run_retryFrom_last (duration attempt : Nat) (lost : LosesRace (script s.calls)) :
    ∃ cause, script s.calls = .error cause
      ∧ (retryFrom (Session.wait duration) (Session.call script) attempt 0).run s
        = (.error (.exhausted attempt cause), s.called) := by
  obtain ⟨cause, answer, conflict⟩ := lost.exists_error
  refine ⟨cause, answer, ?_⟩
  rw [retryFrom, run_call_bind, answer]
  dsimp only
  rw [if_pos conflict]
  rfl

-- ================================================================= runs

/-- The loop ends with the first answer that has not lost its race, if the attempts
last until then. -/
theorem run_retryFrom_of_first {j left : Nat} (duration attempt : Nat) (within : j ≤ left)
    (first : FirstSettled (fun i => script (s.calls + i)) j) :
    (retryFrom (Session.wait duration) (Session.call script) attempt left).run s
      = ((script (s.calls + j)).mapError .store, (s.lost duration j).called) := by
  induction j generalizing s attempt left with
  | zero =>
    rw [s.lost_zero]
    exact run_retryFrom_settled duration attempt left first.settled
  | succ j ih =>
    obtain ⟨left, rfl⟩ := Nat.exists_eq_add_of_le' (Nat.le_trans (Nat.le_add_left 1 j) within)
    have rest : FirstSettled (fun i => script ((s.lost duration 1).calls + i)) j := by
      simp only [s.calls_lost_one]
      exact ⟨first.settled, fun i before => first.before (i + 1) (by omega)⟩
    rw [run_retryFrom_lost duration attempt left (first.before 0 (Nat.succ_pos j)),
      ih (attempt + 1) (Nat.le_of_succ_le_succ within) rest, s.calls_lost_one,
      Session.lost_lost]

/-- If no attempt wins its race, the loop makes them all and ends with what the last
one was answered. -/
theorem run_retryFrom_of_losses {left : Nat} (duration attempt : Nat)
    (losses : ∀ i ≤ left, LosesRace (script (s.calls + i))) :
    ∃ cause, script (s.calls + left) = .error cause
      ∧ (retryFrom (Session.wait duration) (Session.call script) attempt left).run s
        = (.error (.exhausted (attempt + left) cause), (s.lost duration left).called) := by
  induction left generalizing s attempt with
  | zero =>
    rw [s.lost_zero]
    exact run_retryFrom_last duration attempt (losses 0 (Nat.le_refl 0))
  | succ left ih =>
    obtain ⟨cause, answer, ended⟩ := ih (s := s.lost duration 1) (attempt + 1) fun i within => by
      rw [s.calls_lost_one]
      exact losses (i + 1) (Nat.succ_le_succ within)
    refine ⟨cause, by rw [← s.calls_lost_one, answer], ?_⟩
    rw [run_retryFrom_lost duration attempt left (losses 0 (Nat.zero_le _)), ended,
      Session.lost_lost, Nat.add_assoc, Nat.add_comm 1]

end Rounds

-- ================================================================ words

section Words

variable {m : Type → Type} [Monad m] {α : Type}

/-- The number after one below a bound does not wrap. -/
theorem toNat_succ_of_lt {attempt limit : UInt32} (below : ¬ limit ≤ attempt) :
    (attempt + 1).toNat = attempt.toNat + 1 := by
  have less : attempt.toNat < limit.toNat := by
    rwa [UInt32.le_iff_toNat_le, Nat.not_le] at below
  have bound := limit.toNat_lt
  rw [UInt32.toNat_add]
  simp only [UInt32.toNat_one]
  omega

/-- In words as in numbers the bound is at least one. -/
theorem toNat_max_one (n : UInt32) : (max n 1).toNat = max n.toNat 1 := by
  show (if n ≤ 1 then 1 else n : UInt32).toNat = if n.toNat ≤ 1 then 1 else n.toNat
  have same : n ≤ 1 ↔ n.toNat ≤ 1 := UInt32.le_iff_toNat_le
  simp only [same]
  split <;> rfl

/-- The loop with its counter in a word of 32 bits, which each attempt is told. There
is no other end to it than its own; that the counter comes closer to the limit in
every round is what makes it a definition. -/
def retryInWords (limit : UInt32) (wait : m Unit) (act : UInt32 → m (Except StoreError α))
    (attempt : UInt32) : m (Except RetryError α) := do
  match ← act attempt with
  | .ok value => return .ok value
  | .error cause =>
    if cause.isConflict then
      if limit ≤ attempt then return .error (.exhausted attempt.toNat cause)
      else
        wait
        retryInWords limit wait act (attempt + 1)
    else return .error (.store cause)
termination_by limit.toNat - attempt.toNat
decreasing_by
  rename_i below
  have next := toNat_succ_of_lt below
  rw [UInt32.le_iff_toNat_le] at below
  omega

/-- The counter in words counts as numbers do, and no attempt is made with a number
beyond the limit. -/
theorem retryInWords_eq {limit : UInt32} {wait : m Unit} {act : m (Except StoreError α)}
    {numbered : UInt32 → m (Except StoreError α)} {attempt : UInt32} {left : Nat}
    (sum : attempt.toNat + left = limit.toNat)
    (same : ∀ number, attempt ≤ number → number ≤ limit → numbered number = act) :
    retryInWords limit wait numbered attempt = retryFrom wait act attempt.toNat left := by
  have within : attempt ≤ limit := UInt32.le_iff_toNat_le.2 (by omega)
  rw [retryInWords, same attempt (UInt32.le_refl _) within]
  -- the attempts that are left count down as the counter counts up to the limit
  induction left generalizing attempt with
  | zero =>
    have reached : limit ≤ attempt := UInt32.le_iff_toNat_le.2 (by omega)
    refine congrArg (act >>= ·) (funext fun answer => ?_)
    cases answer with
    | ok value => rfl
    | error cause =>
      dsimp only
      rw [if_pos reached]
      split <;> rfl
  | succ left ih =>
    have below : ¬ limit ≤ attempt := by
      rw [UInt32.le_iff_toNat_le]
      omega
    have next := toNat_succ_of_lt below
    have within' : attempt + 1 ≤ limit := UInt32.le_iff_toNat_le.2 (by omega)
    refine congrArg (act >>= ·) (funext fun answer => ?_)
    cases answer with
    | ok value => rfl
    | error cause =>
      dsimp only
      rw [if_neg below, retryInWords, same (attempt + 1) ?_ within', ih (by omega) ?_ within', next]
      · intro number after
        refine same number ?_
        rw [UInt32.le_iff_toNat_le] at after ⊢
        omega
      · exact UInt32.le_iff_toNat_le.2 (by omega)

end Words

/-- Whatever attempts are answered with, in turn and without end: with the first answer
that has not lost its race, if it is within the bound, the attempts are over, one pause
before each but the first; else the bound is what ends them, and the error says so and
what the last attempt was answered. The bound is never zero. The loop that counts in 32
bits is the same in any monad, and no number beyond the bound comes up in it, not even
if the bound is the greatest number of 32 bits. -/
theorem attempts_are_bounded {α : Type} (attempts : UInt32) (duration : Nat)
    (script : Nat → Except StoreError α) :
    let n := max attempts.toNat 1
    let policy := ConflictRetry.ofAttempts attempts.toNat duration
    let run := (retryOnConflict policy Session.pause (Session.call script)).run {}
    (∀ j < n, FirstSettled script j →
      run = ((script j).mapError .store, {
        calls := j + 1
        pauses := if duration = 0 then [] else List.replicate j duration }))
    ∧ ((¬ ∃ j < n, FirstSettled script j) → ∃ cause, script (n - 1) = .error cause
      ∧ run = (.error (.exhausted n cause), {
        calls := n
        pauses := if duration = 0 then [] else List.replicate (n - 1) duration }))
    ∧ ∀ (m : Type → Type) [Monad m] (pause : Nat → m Unit) (act : m (Except StoreError α))
        (numbered : UInt32 → m (Except StoreError α)),
      (∀ number, 1 ≤ number → number.toNat ≤ n → numbered number = act) →
      retryInWords (max attempts 1) (if duration = 0 then pure () else pause duration)
        numbered 1 = retryOnConflict policy pause act := by
  intro n policy run
  have positive : 0 < n := Nat.lt_of_lt_of_le Nat.one_pos (Nat.le_max_right _ _)
  have loop : run = (retryFrom (Session.wait duration) (Session.call script) 1 (n - 1)).run {} :=
    rfl
  have start (i : Nat) : ({} : Session).calls + i = i := Nat.zero_add i
  -- a fresh session counts from zero, and has made as many pauses as it lost races
  have counted (times : Nat) : (({} : Session).lost duration times).called
      = ⟨times + 1, if duration = 0 then [] else List.replicate times duration⟩ := by
    simp [Session.called, Session.lost, Session.pausing]
  refine ⟨fun j within first => ?_, fun unsettled => ?_, fun m _ pause act numbered same => ?_⟩
  · have first' : FirstSettled (fun i => script (({} : Session).calls + i)) j := by
      simpa only [start] using first
    rw [loop, run_retryFrom_of_first duration 1 (Nat.le_sub_one_of_lt within) first', counted,
      start]
  -- if one of the answers were settled, there would be a first of them
  · have losses : ∀ i ≤ n - 1, LosesRace (script (({} : Session).calls + i)) := by
      intro i within
      rw [start]
      exact Classical.byContradiction fun settled =>
        unsettled (exists_firstSettled (by omega) settled)
    obtain ⟨cause, answer, ended⟩ := run_retryFrom_of_losses duration 1 losses
    refine ⟨cause, by rw [← answer, start], ?_⟩
    rw [loop, ended, counted, show 1 + (n - 1) = n by omega, show n - 1 + 1 = n by omega]
  · have bound : (max attempts 1).toNat = n := toNat_max_one attempts
    -- the counter starts at one, and the attempts that are left reach the bound
    have sum : (1 : UInt32).toNat + (n - 1) = (max attempts 1).toNat := by
      rw [bound, UInt32.toNat_one]
      omega
    refine retryInWords_eq sum fun number after within => same number after ?_
    rwa [UInt32.le_iff_toNat_le, bound] at within

/-- Two attempts that lose their races, and one that fails for another reason: a
conflict that the API reports under its code alone. -/
def contest : Nat → Except StoreError Nat
  | 0 => .error (.conflict "HTTPRoute" "apps/web")
  | 1 => .error (.alreadyExists "HTTPRoute" "apps/web")
  | _ => .error (.api ⟨"Failure", 409, "Injected", "injected"⟩)

/-- The third answer is the first that has not lost its race. -/
theorem contest_settled : FirstSettled contest 2 where
  settled := by rintro ⟨kind, key, same | same⟩ <;> cases same
  before i before := by
    have early : i = 0 ∨ i = 1 := by omega
    rcases early with rfl | rfl
    · exact ⟨_, _, .inl rfl⟩
    · exact ⟨_, _, .inr rfl⟩

/-- With the greatest bound the third attempt ends the contest, with a bound of two the
second does. -/
theorem contest_is_bounded :
    let run (attempts : UInt32) := (retryOnConflict (.ofAttempts attempts.toNat 10)
      Session.pause (Session.call contest)).run {}
    run 4294967295
        = (.error (.store (.api ⟨"Failure", 409, "Injected", "injected"⟩)), ⟨3, [10, 10]⟩)
      ∧ run 2
        = (.error (.exhausted 2 (.alreadyExists "HTTPRoute" "apps/web")), ⟨2, [10]⟩)
      ∧ retryInWords 4294967295 (Session.pause 10) (fun _ => Session.call contest) 1
        = retryOnConflict (.ofAttempts 4294967295 10) Session.pause (Session.call contest) := by
  intro run
  obtain ⟨settles, -, counts⟩ := attempts_are_bounded 4294967295 10 contest
  obtain ⟨-, givesUp, -⟩ := attempts_are_bounded 2 10 contest
  obtain ⟨cause, answer, ended⟩ := givesUp fun ⟨j, within, first⟩ => by
    have bound : j < 2 := within
    exact first.settled (contest_settled.before j bound)
  refine ⟨settles 2 (by decide) contest_settled, ?_,
    counts (StateM Session) Session.pause (Session.call contest) _ fun _ _ _ => rfl⟩
  cases answer
  exact ended

end SharedGateway
