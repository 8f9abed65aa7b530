/-
A logic for scripts.

# How a script ends

`Ends answering s w Q` states that the script, started in the cluster, ends as `Q`
demands however its calls are answered, as long as each answer is one that
`answering` admits. It is defined by recursion on the script, so a sequence is argued
part by part (`Ends.bind`): the first part leaves what the second part needs. Each
operation gets one lemma about how it ends and its callers never look inside.

# Ways of answering

Four ways of answering cover the clusters that are of interest: the stores alone
decide (`performs`), a call may also fail without reaching its store (`mayFail`), and
then it does not report an object missing that is there (`honest`), every call
succeeds (`succeeds`). All four are faithful to the stores: a call that only reads
gets what is stored or fails (`ends_request_read`), so what a script reads is argued
about once for all of them (`Answering.Faithful`).

# From the logic to runs

A run follows the plans of its cluster, which say what comes before each call and
which call fails. A cluster in which nothing is planned, or nothing but failures,
answers in one of the four ways: a call meets no fault or the one that is planned
next (`FaultsOnly.answer_cases`), and what is left of the plans are faults again. So
its runs end as the logic has it, by induction on the script (`run_of_unplanned`,
`run_of_faultsOnly`, `run_of_honest`, `run_of_unfailed`). The logic speaks of the
stores without the plans (`unplanned`), for the plans get shorter with each call and
no operation looks at them.

Runs among writes of others are not covered: there a call may meet another cluster
than the one the script has left. What holds in these too is argued about moment by
moment.
-/
import SharedGateway.Cluster.Run
import SharedGateway.Proofs.Store

namespace SharedGateway

variable {ε ε' α β : Type}

-- ============================================================ answering

/-- Which replies a call may get in a cluster, and which clusters it may leave. -/
abbrev Answering := Cluster → (c : Call) → c.Reply → Cluster → Prop

namespace Cluster

/-- The call is answered by its store. -/
def performs : Answering := fun w c reply after =>
  w.perform c = (reply, after)

/-- The stores leave no choice: there is one answer, and one cluster after it. -/
theorem performs_iff {w : Cluster} {c : Call} {reply : c.Reply} {after : Cluster} :
    performs w c reply after ↔ reply = (w.perform c).1 ∧ after = (w.perform c).2 :=
  eq_comm.trans Prod.ext_iff

/-- The call is answered by its store, or fails without reaching it. -/
def mayFail : Answering := fun w c reply after =>
  performs w c reply after ∨ ((∃ e, reply = .error e) ∧ after = w)

/-- An answer that is no error is the answer of the store. -/
theorem performs_of_ok {w : Cluster} {c : Call} {answer : c.Answer} {after : Cluster}
    (answered : mayFail w c (.ok answer) after) :
    (w.perform c).1 = .ok answer ∧ after = (w.perform c).2 := by
  obtain performed | ⟨⟨e, failed⟩, -⟩ := answered
  · obtain ⟨reply, left⟩ := performs_iff.1 performed
    exact ⟨reply.symm, left⟩
  · cases failed

/-- The object that the call is about is not in its store. -/
def Misses (w : Cluster) : Call → Prop
  | .routes request => ∀ key, request.key? = some key → w.routes.get key = none
  | .gateways request => ∀ key, request.key? = some key → w.gateways.get key = none

/-- A reply that reports the object of the call missing is right. -/
def TellsTruth (after : Cluster) (c : Call) (reply : c.Reply) : Prop :=
  ∀ e, reply = .error e → e.isNotFound = true → after.Misses c

/-- The call is answered by its store, or fails without reaching it, and is not
told that an object is missing that is there. -/
def honest : Answering := fun w c reply after =>
  mayFail w c reply after ∧ after.TellsTruth c reply

/-- The stores themselves report nothing missing that is there. -/
theorem tellsTruth_perform (w : Cluster) (c : Call) :
    (w.perform c).2.TellsTruth c (w.perform c).1 := by
  intro e failed reported
  cases c with
  | routes request => exact fun key about => Store.missing_of_notFound failed reported about
  | gateways request => exact fun key about => Store.missing_of_notFound failed reported about

/-- The call is answered by its store and is no failure. -/
def succeeds : Answering := fun w c reply after =>
  performs w c reply after ∧ ∃ answer, reply = .ok answer

end Cluster

open Cluster (performs mayFail honest succeeds)

/-- Answers come from the stores, or are failures that leave every store alone. -/
class Answering.Faithful (answering : Answering) : Prop where
  mayFail {w : Cluster} {c : Call} {reply : c.Reply} {after : Cluster} :
    answering w c reply after → Cluster.mayFail w c reply after

instance : Answering.Faithful performs := ⟨.inl⟩

instance : Answering.Faithful mayFail := ⟨id⟩

instance : Answering.Faithful honest := ⟨And.left⟩

instance : Answering.Faithful succeeds := ⟨fun answered => .inl answered.1⟩

-- ============================================================= the logic

namespace Script

variable {answering answering' : Answering} {s : Script ε α} {f : α → Script ε β}
  {w : Cluster} {P : Except ε α → Cluster → Prop} {Q : Except ε β → Cluster → Prop}

/-- The script ends as demanded, however its calls are answered. -/
def Ends (answering : Answering) (s : Script ε α) (w : Cluster)
    (Q : Except ε α → Cluster → Prop) : Prop :=
  match s with
  | .done result => Q result w
  | .call c next => ∀ reply after, answering w c reply after →
      (next reply).Ends answering after Q

/-- What is demanded of the end may be weakened. -/
theorem Ends.mono {P' : Except ε α → Cluster → Prop} (h : s.Ends answering w P)
    (weaker : ∀ result after, P result after → P' result after) : s.Ends answering w P' := by
  induction s generalizing w with
  | done result => exact weaker result w h
  | call c next ih => exact fun reply after answered => ih reply (h reply after answered)

/-- With fewer ways of being answered a script has fewer ends. -/
theorem Ends.of_answering (h : s.Ends answering' w P)
    (fewer : ∀ w c reply after, answering w c reply after → answering' w c reply after) :
    s.Ends answering w P := by
  induction s generalizing w with
  | done result => exact h
  | call c next ih =>
    exact fun reply after answered => ih reply (h reply after (fewer _ _ _ _ answered))

/-- Two demands that hold of every end hold of it together. -/
theorem Ends.and {P' : Except ε α → Cluster → Prop} (h : s.Ends answering w P)
    (h' : s.Ends answering w P') :
    s.Ends answering w fun result after => P result after ∧ P' result after := by
  induction s generalizing w with
  | done result => exact ⟨h, h'⟩
  | call c next ih =>
    exact fun reply after answered => ih reply (h reply after answered) (h' reply after answered)

theorem ends_of_forall (always : ∀ result after, P result after) : s.Ends answering w P := by
  induction s generalizing w with
  | done result => exact always result w
  | call c next ih => exact fun reply after _ => ih reply

/-- What is to hold after a success, and what after a failure. -/
def Leaves (D I : Cluster → Prop) : Except ε α → Cluster → Prop
  | .ok _, after => D after
  | .error _, after => I after

/-- A sequence ends as its second part does where its first part has left off. -/
theorem ends_bind : (s >>= f).Ends answering w Q
    ↔ s.Ends answering w fun result after =>
      match result with
      | .ok a => (f a).Ends answering after Q
      | .error e => Q (.error e) after := by
  induction s generalizing w with
  | done result => cases result <;> rfl
  | call c next ih =>
    exact forall_congr' fun reply => forall_congr' fun after => imp_congr_right fun _ => ih reply

/-- A sequence ends as demanded if its first part leaves what its second part
needs, and its errors are demanded too. -/
theorem Ends.bind (first : s.Ends answering w P)
    (ok : ∀ a after, P (.ok a) after → (f a).Ends answering after Q)
    (error : ∀ e after, P (.error e) after → Q (.error e) after) :
    (s >>= f).Ends answering w Q := by
  refine ends_bind.2 (first.mono fun result after left => ?_)
  cases result with
  | ok a => exact ok a after left
  | error e => exact error e after left

/-- Renamed errors are demanded under their new names. -/
theorem ends_mapError {g : ε → ε'} {Q : Except ε' α → Cluster → Prop} :
    (s.mapError g).Ends answering w Q
      ↔ s.Ends answering w fun result after => Q (result.mapError g) after := by
  induction s generalizing w with
  | done result => rfl
  | call c next ih =>
    exact forall_congr' fun reply => forall_congr' fun after => imp_congr_right fun _ => ih reply

/-- An attempt ends well, with whatever it came to. -/
theorem ends_attempt {Q : Except ε' (Except ε α) → Cluster → Prop} :
    (s.attempt : Script ε' (Except ε α)).Ends answering w Q
      ↔ s.Ends answering w fun result after => Q (.ok result) after := by
  induction s generalizing w with
  | done result => rfl
  | call c next ih =>
    exact forall_congr' fun reply => forall_congr' fun after => imp_congr_right fun _ => ih reply

variable {c : Call} {R : c.Reply → Cluster → Prop}

/-- A call that only reads is answered from the store, or fails. -/
theorem ends_request_read [answering.Faithful] {answer : c.Answer}
    (reads : w.perform c = (.ok answer, w)) (ok : R (.ok answer) w)
    (error : ∀ e, answering w c (.error e) w → R (.error e) w) :
    (request c).Ends answering w R := by
  intro reply after answered
  obtain performed | ⟨⟨e, rfl⟩, rfl⟩ := Answering.Faithful.mayFail answered
  · cases reads.symm.trans performed
    exact ok
  · exact error e answered

/-- A call of a store has the one end that the store gives it. -/
theorem ends_request_performs :
    (request c).Ends performs w R ↔ R (w.perform c).1 (w.perform c).2 := by
  constructor
  · exact fun h => h _ _ rfl
  · rintro h reply after performed
    obtain ⟨rfl, rfl⟩ := Cluster.performs_iff.1 performed
    exact h

/-- A call that may fail ends as its store has it, or with any error and nothing
changed. -/
theorem ends_request_mayFail :
    (request c).Ends mayFail w R
      ↔ R (w.perform c).1 (w.perform c).2 ∧ ∀ e, R (.error e) w := by
  constructor
  · exact fun h => ⟨h _ _ (.inl rfl), fun e => h _ _ (.inr ⟨⟨e, rfl⟩, rfl⟩)⟩
  · rintro ⟨ok, failed⟩ reply after (performed | ⟨⟨e, rfl⟩, rfl⟩)
    · obtain ⟨rfl, rfl⟩ := Cluster.performs_iff.1 performed
      exact ok
    · exact failed e

/-- A call whose failures are honest ends as its store has it, or with an error that
reports nothing missing that is there. -/
theorem ends_request_honest :
    (request c).Ends honest w R
      ↔ R (w.perform c).1 (w.perform c).2
        ∧ ∀ e, (e.isNotFound = true → w.Misses c) → R (.error e) w := by
  constructor
  · intro h
    refine ⟨h _ _ ⟨.inl rfl, w.tellsTruth_perform c⟩, fun e told => ?_⟩
    refine h _ _ ⟨.inr ⟨⟨e, rfl⟩, rfl⟩, fun e' same reported => ?_⟩
    cases same
    exact told reported
  · rintro ⟨ok, failed⟩ reply after ⟨performed | ⟨⟨e, rfl⟩, rfl⟩, told⟩
    · obtain ⟨rfl, rfl⟩ := Cluster.performs_iff.1 performed
      exact ok
    · exact failed e (told e rfl)

/-- What holds whatever fails holds if failures are honest. -/
theorem ends_honest (ends : s.Ends mayFail w P) : s.Ends honest w P :=
  ends.of_answering fun _ _ _ _ answered => answered.1

theorem ends_performs_of_honest (ends : s.Ends honest w P) : s.Ends performs w P := by
  refine ends.of_answering fun w c reply after performed => ?_
  obtain ⟨rfl, rfl⟩ := Cluster.performs_iff.1 performed
  exact ⟨.inl rfl, w.tellsTruth_perform c⟩

/-- A call that succeeds has the answer of its store. -/
theorem ends_request_succeeds :
    (request c).Ends succeeds w R
      ↔ ∀ answer, (w.perform c).1 = .ok answer → R (.ok answer) (w.perform c).2 := by
  constructor
  · exact fun h answer ok => ok ▸ h _ _ ⟨rfl, answer, ok⟩
  · rintro h reply after ⟨performed, answer, rfl⟩
    obtain ⟨ok, rfl⟩ := Cluster.performs_iff.1 performed
    exact h answer ok.symm

end Script

-- ============================================================= clusters

namespace Cluster

/-- Nothing is planned for any call. -/
def Unplanned (w : Cluster) : Prop :=
  ∀ site, w.plans site = []

/-- Every planned disturbance is a failure of the call, and no write of others. -/
def FaultsOnly (w : Cluster) : Prop :=
  ∀ site, ∀ d ∈ w.plans site, d.before = []

/-- The cluster without its plans: what the stores hold. -/
def unplanned (w : Cluster) : Cluster :=
  { w with plans := fun _ => [] }

variable {w : Cluster}

theorem Unplanned.faultsOnly (h : w.Unplanned) : w.FaultsOnly := by
  intro site d planned
  rw [h site] at planned
  cases planned

theorem plans_perform (w : Cluster) (c : Call) : (w.perform c).2.plans = w.plans := by
  cases c <;> rfl

theorem perform_unplanned (w : Cluster) (c : Call) :
    w.unplanned.perform c = ((w.perform c).1, (w.perform c).2.unplanned) := by
  cases c <;> rfl

/-- What is planned after a disturbance was planned before it. -/
theorem mem_plans_of_rest {site other : Site} {next d : Disturbance} {rest : List Disturbance}
    (planned : w.plans site = next :: rest) (member : d ∈ (w.plan site rest).plans other) :
    d ∈ w.plans other := by
  simp only [plan] at member
  split at member
  · rename_i same
    subst same
    rw [planned]
    exact List.mem_cons_of_mem _ member
  · exact member

/-- A call in a cluster that only plans faults meets none, or the one that is
planned next. -/
theorem FaultsOnly.answer_cases (h : w.FaultsOnly) (c : Call) :
    (∃ met : Cluster, met.unplanned = w.unplanned
      ∧ (∀ site, ∀ d ∈ met.plans site, d ∈ w.plans site)
      ∧ w.answer c = ⟨met, (met.perform c).1, (met.perform c).2⟩)
    ∨ ∃ (met : Cluster) (fault : Fault), met.unplanned = w.unplanned
      ∧ (∀ site, ∀ d ∈ met.plans site, d ∈ w.plans site)
      ∧ (∃ d ∈ w.plans c.site, d.fault = some fault)
      ∧ w.answer c = ⟨met, .error (faultError c fault), met⟩ := by
  unfold Cluster.answer disturb
  cases planned : w.plans c.site with
  | nil => exact .inl ⟨w, rfl, fun _ _ member => member, rfl⟩
  | cons next rest =>
    obtain ⟨before, fault⟩ := next
    have first : ⟨before, fault⟩ ∈ w.plans c.site := by
      rw [planned]
      exact List.mem_cons_self
    have quiet : before = [] := h c.site ⟨before, fault⟩ first
    have left : ∀ site, ∀ d ∈ (w.plan c.site rest).plans site, d ∈ w.plans site :=
      fun site d member => mem_plans_of_rest planned member
    subst quiet
    cases fault with
    | none => exact .inl ⟨w.plan c.site rest, rfl, left, rfl⟩
    | some fault =>
      exact .inr ⟨w.plan c.site rest, fault, rfl, left, ⟨_, List.mem_cons_self, rfl⟩, rfl⟩

/-- What is planned after a call was planned before it. -/
theorem FaultsOnly.plans_answer (h : w.FaultsOnly) {c : Call} {site : Site} {d : Disturbance}
    (member : d ∈ (w.answer c).after.plans site) : d ∈ w.plans site := by
  obtain ⟨met, -, left, answer⟩ | ⟨met, fault, -, left, -, answer⟩ := h.answer_cases c
  · rw [answer] at member
    exact left site d (plans_perform met c ▸ member)
  · rw [answer] at member
    exact left site d member

/-- A call in a cluster that only plans faults is answered by its store or
fails, and the plans that are left are faults again. -/
theorem FaultsOnly.answer (h : w.FaultsOnly) (c : Call) :
    mayFail w.unplanned c (w.answer c).reply (w.answer c).after.unplanned
      ∧ (w.answer c).after.FaultsOnly := by
  refine ⟨?_, fun site d member => h site d (h.plans_answer member)⟩
  obtain ⟨met, same, -, answer⟩ | ⟨met, fault, same, -, -, answer⟩ := h.answer_cases c
  · rw [answer, ← same]
    exact .inl (perform_unplanned met c)
  · rw [answer, ← same]
    exact .inr ⟨⟨_, rfl⟩, rfl⟩

/-- Where nobody plans to report an object missing, none is reported missing
that is there. -/
theorem FaultsOnly.tellsTruth_answer (h : w.FaultsOnly)
    (plans : ∀ site, ∀ d ∈ w.plans site, d.fault ≠ some .notFound) (c : Call) :
    (w.answer c).after.TellsTruth c (w.answer c).reply := by
  obtain ⟨met, -, -, answer⟩ | ⟨met, fault, -, -, ⟨d, member, planned⟩, answer⟩ :=
    h.answer_cases c
  · rw [answer]
    exact met.tellsTruth_perform c
  · rw [answer]
    intro e failed reported
    cases failed
    cases fault with
    | notFound => exact absurd planned (plans c.site d member)
    | _ => cases reported

/-- Where nothing is planned, calls are answered by the stores. -/
theorem Unplanned.answer (h : w.Unplanned) (c : Call) :
    w.answer c = ⟨w, (w.perform c).1, (w.perform c).2⟩ := by
  unfold Cluster.answer disturb
  rw [h c.site]

theorem Unplanned.perform (h : w.Unplanned) (c : Call) : (w.perform c).2.Unplanned := by
  intro site
  rw [plans_perform]
  exact h site

end Cluster

-- ================================================================= runs

/-- The call of this moment was answered with an error. -/
def Moment.Failed (m : Moment) : Prop :=
  ∃ e, m.reply = .error e

namespace Script

variable {s : Script ε α} {w : Cluster} {Q : Except ε α → Cluster → Prop}

/-- Where nothing is planned, a run ends as the stores have it. -/
theorem run_of_unplanned (h : w.Unplanned) (ends : s.Ends performs w Q) :
    Q (s.run w).result (s.run w).cluster := by
  induction s generalizing w with
  | done result => exact ends
  | call c next ih =>
    simp only [run, h.answer c]
    exact ih _ (h.perform c) (ends _ _ rfl)

/-- There is one end only where nothing is planned, that of the run. -/
theorem ends_of_run (h : w.Unplanned) : s.Ends performs w fun result after =>
    result = (s.run w).result ∧ after = (s.run w).cluster := by
  induction s generalizing w with
  | done result => exact ⟨rfl, rfl⟩
  | call c next ih =>
    intro reply after performed
    obtain ⟨rfl, rfl⟩ := Cluster.performs_iff.1 performed
    simp only [run, h.answer c]
    exact ih _ (h.perform c)

/-- Of plans that are faults a run leaves plans that are faults. -/
theorem faultsOnly_run (h : w.FaultsOnly) : (s.run w).cluster.FaultsOnly := by
  induction s generalizing w with
  | done result => exact h
  | call c next ih => exact ih _ (h.answer c).2

/-- Where only faults are planned, a run ends as demanded if any call may fail. -/
theorem run_of_faultsOnly (h : w.FaultsOnly) (ends : s.Ends mayFail w.unplanned Q) :
    Q (s.run w).result (s.run w).cluster.unplanned := by
  induction s generalizing w with
  | done result => exact ends
  | call c next ih =>
    exact ih _ (h.answer c).2 (ends _ _ (h.answer c).1)

/-- No call of the run reports an object missing that is there. -/
def RunsHonestly : Script ε α → Cluster → Prop
  | .done _, _ => True
  | .call c next, w =>
    (w.answer c).after.TellsTruth c (w.answer c).reply
      ∧ (next (w.answer c).reply).RunsHonestly (w.answer c).after

/-- Where only faults are planned, and the run meets no false report of a missing
object, it ends as demanded of honest failures. -/
theorem run_of_honest (h : w.FaultsOnly) (truthful : s.RunsHonestly w)
    (ends : s.Ends honest w.unplanned Q) :
    Q (s.run w).result (s.run w).cluster.unplanned := by
  induction s generalizing w with
  | done result => exact ends
  | call c next ih =>
    have told : (w.answer c).after.unplanned.TellsTruth c (w.answer c).reply := by
      intro e failed reported
      cases c <;> exact truthful.1 e failed reported
    exact ih _ (h.answer c).2 truthful.2 (ends _ _ ⟨(h.answer c).1, told⟩)

/-- Where no plan is a missing object, nothing is reported missing that is
there. -/
theorem runsHonestly_of_plans (h : w.FaultsOnly)
    (plans : ∀ site, ∀ d ∈ w.plans site, d.fault ≠ some .notFound) : s.RunsHonestly w := by
  induction s generalizing w with
  | done result => trivial
  | call c next ih =>
    exact ⟨h.tellsTruth_answer plans c, ih _ (h.answer c).2 fun site d member =>
      plans site d (h.plans_answer member)⟩

/-- A run in which no call failed ends as it does when every call succeeds. -/
theorem run_of_unfailed (h : w.FaultsOnly) (unfailed : ∀ m ∈ (s.run w).moments, ¬ m.Failed)
    (ends : s.Ends succeeds w.unplanned Q) :
    Q (s.run w).result (s.run w).cluster.unplanned := by
  induction s generalizing w with
  | done result => exact ends
  | call c next ih =>
    have first := unfailed ⟨(w.answer c).met, c, (w.answer c).reply⟩ List.mem_cons_self
    obtain performed | ⟨failed, -⟩ := (h.answer c).1
    · have answered : ∃ answer, (w.answer c).reply = .ok answer := by
        cases reply : (w.answer c).reply with
        | ok answer => exact ⟨answer, rfl⟩
        | error e => exact absurd ⟨e, reply⟩ first
      exact ih _ (h.answer c).2 (fun m later => unfailed m (List.mem_cons_of_mem _ later))
        (ends _ _ ⟨performed, answered⟩)
    · exact absurd failed first

end Script

end SharedGateway
