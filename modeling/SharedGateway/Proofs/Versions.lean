/-
Why a write that is held to a version never overwrites what it has not seen.

# One version, one state of one object

An edit of a store leaves an object as it is, removes it, or stamps it with the version
that the counter stands at, and moves the counter on as it does so (`Evolves`). What
it answers with is either stored already or stamped in the same way
(`answered_edit`). So by induction over the edits of a whole history every version that
was ever seen, on a stored object or in an answer, is a number below the counter
(`Accounts`): the version that is stamped next was never used (`Accounts.fresh`), also
not by a write whose result was removed at once.

Whatever has become of an object since it was read, it is therefore still the same or
its version is a later one (`Since`, again by induction over the edits). Deleting the
object and making another under the same key does not help: the new one has a version
that is new to the whole store, not to the key alone.

# The guarded write

The version of an object as it was read thus tells whether what is stored now is that
object (`Tells`). A write that states it goes through exactly where the object is
still stored as it was, and any other ending leaves the store alone (`WritesOver`).
With the endings of a merge patch and of a deletion (`merge_elim`, `delete_elim`) this
gives what a passing write leaves under its key and that it touches nothing else
(`no_update_is_lost`). The guard needs no help from its caller: the result is about any
edits in between, by anybody, under any key.
-/
import SharedGateway.Cluster.Basic
import SharedGateway.Proofs.Codec.Patches
import SharedGateway.Proofs.Store

namespace SharedGateway

/-- A number is told from its text. -/
theorem toString_nat_injective {m n : Nat} (same : toString m = toString n) : m = n := by
  have digits : Nat.toDigits 10 m = Nat.toDigits 10 n := by
    have texts : String.ofList (Nat.toDigits 10 m) = String.ofList (Nat.toDigits 10 n) := by
      rw [← Nat.repr_eq_ofList_toDigits, ← Nat.repr_eq_ofList_toDigits]
      exact same
    exact String.ofList_injective texts
  rw [← Nat.ofDigitChars_ten_toDigits (n := m), digits, Nat.ofDigitChars_ten_toDigits]

namespace Store

variable {σ : Type}

-- ================================================================ edits

/-- What an edit may do: it leaves an object as it is, removes it, or stamps it
with the version that the counter stands at. A version is stamped only as it is
used up. -/
structure Evolves (s s' : Store σ) : Prop where
  counter : s'.nextVersion = s.nextVersion ∨ s'.nextVersion = s.nextVersion + 1
  object : ∀ key, s'.get key = s.get key ∨ s'.get key = none
    ∨ ∃ o, s'.get key = some (s.stamped o) ∧ s'.nextVersion = s.nextVersion + 1

theorem Evolves.refl (s : Store σ) : s.Evolves s :=
  ⟨.inl rfl, fun _ => .inl rfl⟩

/-- Marks for coming writes may change freely. -/
theorem evolves_of_same {s s' : Store σ} (objects : s'.objects = s.objects)
    (counter : s'.nextVersion = s.nextVersion) : s.Evolves s' where
  counter := .inl counter
  object key := .inl (by rw [get, objects, get])

theorem evolves_of_erased {s s' : Store σ} {key : ObjectRef}
    (erased : s'.objects = s.objects.erase key)
    (counter : s'.nextVersion = s.nextVersion ∨ s'.nextVersion = s.nextVersion + 1) :
    s.Evolves s' where
  counter := counter
  object other := by
    rw [get_of_erased erased]
    split
    · exact .inr (.inl rfl)
    · exact .inl rfl

theorem evolves_keep (s : Store σ) (key : ObjectRef) (o : Object σ) :
    s.Evolves (s.keep key o) where
  counter := .inr rfl
  object other := by
    rw [get_keep]
    split
    · exact .inr (.inr ⟨o, rfl, rfl⟩)
    · exact .inl rfl

theorem evolves_replace (s : Store σ) (key : ObjectRef) (o : Object σ) :
    s.Evolves (s.replace key o) := by
  unfold replace
  split
  · exact evolves_of_erased rfl (.inr rfl)
  · exact s.evolves_keep key o

variable [Spec σ]

theorem evolves_create (s : Store σ) (o : Object σ) : s.Evolves (s.create o).2 :=
  create_elim s o (evolves_of_same rfl rfl) fun _ _ => s.evolves_keep o.ref o

theorem evolves_merge (s : Store σ) (key : ObjectRef) (patch : Json) :
    s.Evolves (s.merge key patch).2 :=
  merge_elim s key patch (fun _ => evolves_of_same rfl rfl)
    (fun _ => evolves_of_erased rfl (.inl rfl)) (fun _ => .refl s) (fun _ _ _ => .refl s)
    (fun _ _ _ _ => .refl s) fun _ o' _ _ _ => s.evolves_replace key o'

theorem evolves_apply (s : Store σ) (key : ObjectRef) (value : Json) :
    s.Evolves (s.apply key value).2 :=
  apply_elim s key value (.refl s) (fun _ o' _ _ => s.evolves_replace key o')
    fun o' _ _ => s.evolves_keep key o'

theorem evolves_delete (s : Store σ) (key : ObjectRef) (version : Option String) :
    s.Evolves (s.delete key version).2 :=
  delete_elim s key version (fun _ => .refl s) (fun _ _ _ => .refl s)
    (fun _ _ _ _ => evolves_of_erased rfl (.inl rfl)) (fun _ _ _ _ _ => .refl s)
    fun _ _ _ _ _ => s.evolves_keep key _

/-- Whatever is asked of a store, its objects change in these ways only. -/
theorem evolves_edit (s : Store σ) (edit : StoreEdit σ) : s.Evolves (s.edit edit) := by
  cases edit with
  | request r =>
    cases r with
    | get key => exact .refl s
    | list => exact .refl s
    | create o => exact s.evolves_create o
    | merge key patch => exact s.evolves_merge key patch
    | apply key value manager => exact s.evolves_apply key value
    | delete key version => exact s.evolves_delete key version
  | put o => exact s.evolves_keep o.ref o
  | queueConflicts n => exact evolves_of_same rfl rfl
  | failNextCreate => exact evolves_of_same rfl rfl
  | vanishBeforeMerge => exact evolves_of_same rfl rfl

-- ============================================================== answers

/-- The objects that an answer holds. -/
def answerObjects : (r : Request σ) → r.Answer → List (Object σ)
  | .get _, found => found.toList
  | .list, all => all
  | .create _, made => [made]
  | .merge _ _, made => [made]
  | .apply _ _ _, made => [made]
  | .delete _ _, _ => []

/-- The objects that an edit is answered with. -/
def answered (s : Store σ) : StoreEdit σ → List (Object σ)
  | .request r =>
    match (s.perform r).1 with
    | .ok answer => answerObjects r answer
    | .error _ => []
  | .put o => [(s.put o).1]
  | .queueConflicts _ => []
  | .failNextCreate => []
  | .vanishBeforeMerge => []

omit [Spec σ] in
theorem nextVersion_replace (s : Store σ) (key : ObjectRef) (o : Object σ) :
    (s.replace key o).nextVersion = s.nextVersion + 1 := by
  unfold replace
  split <;> rfl

/-- What an edit is answered with was stored, or is stamped as a version is used up. -/
theorem answered_edit {s : Store σ} {edit : StoreEdit σ} {o : Object σ} :
    o ∈ s.answered edit → (∃ key, s.get key = some o)
      ∨ ((∃ made, o = s.stamped made) ∧ (s.edit edit).nextVersion = s.nextVersion + 1) := by
  cases edit with
  | request r =>
    cases r with
    | get key => exact fun member => .inl ⟨key, Option.mem_toList.1 member⟩
    | list => exact fun member => .inl (mem_list.1 member)
    | create made =>
      simp only [answered, edit, perform]
      refine create_elim s made (by simp) fun _ _ member => ?_
      exact .inr ⟨⟨made, List.mem_singleton.1 member⟩, rfl⟩
    | merge key patch =>
      simp only [answered, edit, perform]
      refine merge_elim s key patch (fun _ => by simp) (fun _ => by simp) (fun _ => by simp)
        (fun _ _ _ => by simp) (fun _ _ _ _ => by simp) fun _ made _ _ _ member => ?_
      exact .inr ⟨⟨made, List.mem_singleton.1 member⟩, s.nextVersion_replace key made⟩
    | apply key value manager =>
      simp only [answered, edit, perform]
      refine apply_elim s key value (by simp) (fun _ made _ _ member => ?_)
        fun made _ _ member => ?_
      · exact .inr ⟨⟨made, List.mem_singleton.1 member⟩, s.nextVersion_replace key made⟩
      · exact .inr ⟨⟨made, List.mem_singleton.1 member⟩, rfl⟩
    | delete key version =>
      simp only [answered, answerObjects]
      split <;> exact fun member => absurd member List.not_mem_nil
  | put made => exact fun member => .inr ⟨⟨made, List.mem_singleton.1 member⟩, rfl⟩
  | queueConflicts n => exact fun member => absurd member List.not_mem_nil
  | failNextCreate => exact fun member => absurd member List.not_mem_nil
  | vanishBeforeMerge => exact fun member => absurd member List.not_mem_nil

-- ============================================================ histories

/-- The store after edits. -/
def edited (s : Store σ) (edits : List (StoreEdit σ)) : Store σ :=
  edits.foldl edit s

/-- The versions that are seen in the course of an edit: in its answer, and on the
objects that are stored after it. -/
def versionsSeen (s : Store σ) (edit : StoreEdit σ) : List String :=
  (s.answered edit ++ (s.edit edit).list).filterMap Object.resourceVersion

/-- The versions that were used in the course of edits. -/
def versionsUsed (s : Store σ) : List (StoreEdit σ) → List String
  | [] => []
  | edit :: rest => s.versionsSeen edit ++ versionsUsed (s.edit edit) rest

/-- The versions are used up, and every object has one of them. -/
structure Accounts (s : Store σ) (used : List String) : Prop where
  counted : ∀ version ∈ used, ∃ n < s.nextVersion, version = toString n
  stored : ∀ key o, s.get key = some o → ∃ version ∈ used, o.resourceVersion = some version

variable {s : Store σ} {used : List String}

omit [Spec σ] in
theorem accounts_empty : Accounts ({} : Store σ) [] where
  counted version member := by cases member
  stored key o found := by
    have missing : ({} : Store σ).get key = none := rfl
    cases missing.symm.trans found

omit [Spec σ] in
/-- The version that is stamped next was never used. -/
theorem Accounts.fresh (h : s.Accounts used) : s.versionText ∉ used := by
  intro already
  obtain ⟨n, before, same⟩ := h.counted _ already
  exact absurd (toString_nat_injective same) (Nat.ne_of_gt before)

/-- Every object that is seen in the course of an edit was stored, or is stamped as a
version is used up. -/
theorem seen_edit {edit : StoreEdit σ} {o : Object σ}
    (seen : o ∈ s.answered edit ++ (s.edit edit).list) : (∃ key, s.get key = some o)
      ∨ ((∃ made, o = s.stamped made) ∧ (s.edit edit).nextVersion = s.nextVersion + 1) := by
  rcases List.mem_append.1 seen with answer | after
  · exact answered_edit answer
  · obtain ⟨key, found⟩ := mem_list.1 after
    rcases (s.evolves_edit edit).object key with kept | gone | ⟨made, isMade, next⟩
    · exact .inl ⟨key, kept.symm.trans found⟩
    · cases gone.symm.trans found
    · exact .inr ⟨⟨made, Option.some.inj (found.symm.trans isMade)⟩, next⟩

/-- The versions that are seen in the course of an edit are accounted for with the
earlier ones. -/
theorem Accounts.edit (h : s.Accounts used) (edit : StoreEdit σ) :
    (s.edit edit).Accounts (used ++ s.versionsSeen edit) := by
  -- the counter never goes back, so what was below it stays below
  have onward : s.nextVersion ≤ (s.edit edit).nextVersion := by
    rcases (s.evolves_edit edit).counter with same | next <;> omega
  have passed : ∀ version ∈ used, ∃ n < (s.edit edit).nextVersion, version = toString n := by
    intro version member
    obtain ⟨n, before, same⟩ := h.counted version member
    exact ⟨n, Nat.lt_of_lt_of_le before onward, same⟩
  constructor
  · intro version member
    rcases List.mem_append.1 member with earlier | now
    · exact passed version earlier
    · obtain ⟨o, seen, known⟩ := List.mem_filterMap.1 now
      rcases seen_edit seen with ⟨key, found⟩ | ⟨⟨made, rfl⟩, next⟩
      · obtain ⟨version', member', known'⟩ := h.stored key o found
        cases known'.symm.trans known
        exact passed version member'
      · cases known
        exact ⟨s.nextVersion, by omega, rfl⟩
  · intro key o found
    have seen : o ∈ s.answered edit ++ (s.edit edit).list :=
      List.mem_append_right _ (mem_list.2 ⟨key, found⟩)
    have hasOne : ∃ version, o.resourceVersion = some version := by
      rcases seen_edit seen with ⟨key', found'⟩ | ⟨⟨made, rfl⟩, -⟩
      · obtain ⟨version, -, known⟩ := h.stored key' o found'
        exact ⟨version, known⟩
      · exact ⟨s.versionText, rfl⟩
    obtain ⟨version, known⟩ := hasOne
    exact ⟨version, List.mem_append_right _ (List.mem_filterMap.2 ⟨o, seen, known⟩), known⟩

theorem Accounts.edited (h : s.Accounts used) (edits : List (StoreEdit σ)) :
    (s.edited edits).Accounts (used ++ s.versionsUsed edits) := by
  induction edits generalizing s used with
  | nil =>
    rw [versionsUsed, List.append_nil]
    exact h
  | cons edit rest ih =>
    rw [versionsUsed, ← List.append_assoc]
    exact ih (h.edit edit)

/-- The counter has passed `n`, and what is stored under the key is the object, or
has been stamped from then on. -/
structure Since (s : Store σ) (key : ObjectRef) (o : Object σ) (n : Nat) : Prop where
  counter : n ≤ s.nextVersion
  object : ∀ o', s.get key = some o' →
    o' = o ∨ ∃ m, n ≤ m ∧ o'.resourceVersion = some (toString m)

variable {key : ObjectRef} {o : Object σ} {n : Nat}

/-- What an edit stamps has a version from then on. -/
theorem Since.edit (h : s.Since key o n) (edit : StoreEdit σ) : (s.edit edit).Since key o n := by
  have evolves := s.evolves_edit edit
  constructor
  · have := h.counter
    rcases evolves.counter with same | next <;> omega
  · intro o' found
    rcases evolves.object key with kept | gone | ⟨made, isMade, -⟩
    · exact h.object o' (kept.symm.trans found)
    · cases gone.symm.trans found
    · cases isMade.symm.trans found
      exact .inr ⟨s.nextVersion, h.counter, rfl⟩

theorem Since.edited (h : s.Since key o n) (edits : List (StoreEdit σ)) :
    (s.edited edits).Since key o n := by
  induction edits generalizing s with
  | nil => exact h
  | cons edit rest ih => exact ih (h.edit edit)

-- ============================================================== guards

/-- Whatever is stored under the key has the version of the object exactly if it
is the object. -/
def Tells (s : Store σ) (key : ObjectRef) (o : Object σ) : Prop :=
  ∀ o', s.get key = some o' → (hasVersion o' o.resourceVersion = true ↔ o' = o)

/-- An object was read after the earlier edits, the later ones were made since, and
no mark is left that interferes with a patch. -/
structure Read (earlier later : List (StoreEdit σ)) (key : ObjectRef) (o : Object σ) : Prop where
  found : (({} : Store σ).edited earlier).get key = some o
  noConflicts : (({} : Store σ).edited (earlier ++ later)).queuedConflicts = 0
  noVanishing : (({} : Store σ).edited (earlier ++ later)).vanishBeforeMerge = false

variable {earlier later : List (StoreEdit σ)}

/-- By induction over the later edits, an object that is not the one that was read has a
version that was stamped since. -/
theorem Read.tells (h : Read earlier later key o) :
    (({} : Store σ).edited (earlier ++ later)).Tells key o := by
  obtain ⟨version, member, known⟩ := (accounts_empty.edited earlier).stored key o h.found
  obtain ⟨m, before, text⟩ := (accounts_empty.edited earlier).counted version member
  have atRead : (({} : Store σ).edited earlier).Since key o
      (({} : Store σ).edited earlier).nextVersion :=
    ⟨Nat.le_refl _, fun o' found' => .inl (Option.some.inj (found'.symm.trans h.found))⟩
  have split : ({} : Store σ).edited (earlier ++ later)
      = (({} : Store σ).edited earlier).edited later := List.foldl_append
  intro o' found'
  rw [split] at found'
  rcases (atRead.edited later).object o' found' with same | ⟨m', notBefore, known'⟩
  · rw [same]
    exact iff_of_true (hasVersion_own o) rfl
  · -- versions that are told apart tell the objects apart
    have differ : o'.resourceVersion ≠ o.resourceVersion := by
      rw [known', known, text]
      intro same
      have := toString_nat_injective (Option.some.inj same)
      omega
    refine iff_of_false (fun has => differ ?_) fun same => differ (congrArg _ same)
    rw [known] at has ⊢
    exact of_decide_eq_true has

/-- Under the key stands what is said, and all else is as it was. -/
structure Leaves (s after : Store σ) (key : ObjectRef) (now : Option (Object σ)) : Prop where
  there : after.get key = now
  others : ∀ other, key ≠ other → after.get other = s.get other

omit [Spec σ] in
/-- A lookup that differs from the old one in the key alone. -/
theorem leaves_of_get {after : Store σ} {now : Option (Object σ)}
    (looks : ∀ other, after.get other = if key = other then now else s.get other) :
    s.Leaves after key now where
  there := (looks key).trans (if_pos rfl)
  others other differ := (looks other).trans (if_neg differ)

/-- What becomes of a write that was made from an object as it was read. It passes
exactly where the object is still stored as it was, and then does what is said of its
answer and of the store after it. Otherwise it reports a conflict or that nothing is
there, and the store stays as it was. -/
structure WritesOver {α : Type} (s : Store σ) (key : ObjectRef) (o : Object σ)
    (write : Except StoreError α × Store σ) (does : α → Store σ → Prop) : Prop where
  passes_iff : (∃ answer, write.1 = .ok answer) ↔ s.get key = some o
  passed : ∀ answer, write.1 = .ok answer → does answer write.2
  refused : s.get key ≠ some o →
    (write.1 = .error (about σ .conflict key) ∨ write.1 = .error (about σ .notFound key))
      ∧ write.2 = s

section WritesOver

variable {α : Type} {does : α → Store σ → Prop}

theorem writesOver_passed (there : s.get key = some o) {answer : α} {after : Store σ}
    (done : does answer after) : s.WritesOver key o (.ok answer, after) does where
  passes_iff := iff_of_true ⟨answer, rfl⟩ there
  passed := by
    rintro _ ⟨⟩
    exact done
  refused moved := absurd there moved

theorem writesOver_refused (moved : s.get key ≠ some o) {e : StoreError}
    (reports : e = about σ .conflict key ∨ e = about σ .notFound key) :
    s.WritesOver key o (.error e, s) does where
  passes_iff := iff_of_false nofun moved
  passed := nofun
  refused _ := ⟨reports.imp (congrArg _) (congrArg _), rfl⟩

end WritesOver

omit [Spec σ] in
/-- An object of another version is another object. -/
theorem moved_of_stale {o' : Object σ} (found : s.get key = some o')
    (stale : hasVersion o' o.resourceVersion = false) : s.get key ≠ some o := by
  intro there
  cases found.symm.trans there
  cases (hasVersion_own o).symm.trans stale

omit [Spec σ] in
theorem moved_of_missing (missing : s.get key = none) : s.get key ≠ some o := by
  rw [missing]
  exact nofun

/-- What a deletion leaves of an object: nothing if no finalizer holds it, and else the
object, marked as deleting under a new version unless it is marked already. -/
def remains (o : Object σ) (version : String) : Option (Object σ) :=
  if o.finalizers = [] then none
  else if o.isDeleting then some o
  else some (o.remarked (some deletionTime) (some version))

/-- A deletion in the version of the object leaves what its finalizers hold. -/
theorem Tells.writesOver_delete (h : s.Tells key o) :
    s.WritesOver key o (s.delete key o.resourceVersion) fun _ after =>
      s.Leaves after key (remains o s.versionText) := by
  refine delete_elim s key o.resourceVersion (fun missing => ?missing)
    (fun o' found stale => ?stale) (fun o' found current free => ?erased)
    (fun o' found current held deleting => ?kept) fun o' found current held unmarked => ?marked
  case missing => exact writesOver_refused (moved_of_missing missing) (.inr rfl)
  case stale => exact writesOver_refused (moved_of_stale found stale) (.inl rfl)
  all_goals
    cases (h o' found).1 current
    refine writesOver_passed found ?_
  case erased =>
    rw [remains, if_pos free]
    exact leaves_of_get (get_of_erased rfl)
  case kept =>
    rw [remains, if_neg held, if_pos deleting]
    exact ⟨found, fun _ _ => rfl⟩
  case marked =>
    rw [remains, if_neg held, if_neg (Bool.eq_false_iff.1 unmarked)]
    exact leaves_of_get fun other => s.get_keep key other _

/-- A patch that is made for the version of the object, and makes another of it, stores
that one under a new version; one that is deleting and that nothing holds is removed. -/
theorem Tells.writesOver_merge (h : s.Tells key o) (noConflicts : s.queuedConflicts = 0)
    (noVanishing : s.vanishBeforeMerge = false) {patch : Json} {amended : Object σ}
    (version : versionOfPatch? patch = o.resourceVersion)
    (isRead : Object.ofJson? (o.toJson.mergePatch patch) = some amended) :
    s.WritesOver key o (s.merge key patch) fun made after =>
      made = s.stamped amended
        ∧ s.Leaves after key (if made.metadata.isReleased then none else some made) := by
  refine merge_elim s key patch (absurd noConflicts)
    (fun vanishing => absurd (noVanishing.symm.trans vanishing) (by decide))
    (fun missing => ?missing) (fun o' found stale => ?stale)
    (fun o' found current unreadable => ?unreadable) fun o' made found current reads => ?replaced
  case missing => exact writesOver_refused (moved_of_missing missing) (.inr rfl)
  case stale => exact writesOver_refused (moved_of_stale found (version ▸ stale)) (.inl rfl)
  case unreadable =>
    cases (h o' found).1 (version ▸ current)
    cases isRead.symm.trans unreadable
  case replaced =>
    cases (h o' found).1 (version ▸ current)
    cases isRead.symm.trans reads
    exact writesOver_passed found ⟨rfl, leaves_of_get fun other => s.get_replace key other amended⟩

end Store

/-- Whatever others do to a store between a read and the write that is made from it,
the write goes through exactly where the object is still stored as it was read. A
patch then makes of the object what it says and nothing else, under a version that
was never used, and stores it unless that releases it; a deletion removes the object,
or marks it under such a version. Neither touches another object. -/
theorem no_update_is_lost (key : ObjectRef) :
    (∀ (earlier later : List (StoreEdit RouteSpec)) (route : Route) (finalizers : List String),
        Store.Read earlier later key route →
        let s := ({} : Store RouteSpec).edited (earlier ++ later)
        s.versionText ∉ ({} : Store RouteSpec).versionsUsed (earlier ++ later)
          ∧ s.WritesOver key route (s.merge key (Reconcile.finalizersPatch route finalizers))
            fun made after => made = route.refinalized finalizers (some s.versionText)
              ∧ s.Leaves after key (if made.metadata.isReleased then none else some made))
      ∧ (∀ (earlier later : List (StoreEdit GatewaySpec)) (gateway : Gateway)
          (listeners : List Listener),
        Store.Read earlier later key gateway →
        let s := ({} : Store GatewaySpec).edited (earlier ++ later)
        s.versionText ∉ ({} : Store GatewaySpec).versionsUsed (earlier ++ later)
          ∧ s.WritesOver key gateway (s.merge key (Sync.listenersPatch gateway listeners))
            fun made after => made = (gateway.withListeners listeners).withVersion s.versionText
              ∧ s.Leaves after key (if made.metadata.isReleased then none else some made))
      ∧ ∀ (σ : Type) [Spec σ] (earlier later : List (StoreEdit σ)) (o : Object σ),
        Store.Read earlier later key o →
        let s := ({} : Store σ).edited (earlier ++ later)
        s.versionText ∉ ({} : Store σ).versionsUsed (earlier ++ later)
          ∧ s.WritesOver key o (s.delete key o.resourceVersion)
            fun _ after => s.Leaves after key (Store.remains o s.versionText) := by
  -- each of the three writes states the version that was read
  refine ⟨?_, ?_, ?_⟩
  · intro earlier later route finalizers read s
    exact ⟨(Store.accounts_empty.edited (earlier ++ later)).fresh,
      read.tells.writesOver_merge read.noConflicts read.noVanishing
        (versionOfPatch?_finalizersPatch route finalizers)
        (ofJson?_finalizersPatch route finalizers)⟩
  · intro earlier later gateway listeners read s
    exact ⟨(Store.accounts_empty.edited (earlier ++ later)).fresh,
      read.tells.writesOver_merge read.noConflicts read.noVanishing
        (versionOfPatch?_listenersPatch gateway listeners)
        (ofJson?_listenersPatch gateway listeners)⟩
  · intro σ _ earlier later o read s
    exact ⟨(Store.accounts_empty.edited (earlier ++ later)).fresh, read.tells.writesOver_delete⟩

/-- A route that somebody else holds. -/
def audited : Route where
  metadata := { name := some "web", ns := some "apps", finalizers := some ["example.com/audit"] }
  spec := {}

/-- The route is read and then marked as deleting: a patch that was made before
finds a conflict. Made after nothing else was done, it goes through and is stored, and
so does a deletion. -/
theorem marked_route_is_not_patched :
    let key : ObjectRef := ⟨"apps", "web"⟩
    let read := audited.withVersion "1"
    let patch := Reconcile.finalizersPatch read ["example.com/audit", finalizer]
    let patched := audited.refinalized ["example.com/audit", finalizer] (some "2")
    let stored := ({} : Store RouteSpec).edited [.put audited]
    let marked := ({} : Store RouteSpec).edited [.put audited, .request (.delete key none)]
    (marked.get key).isSome = true ∧ (marked.merge key patch).2 = marked
      ∧ (stored.merge key patch).1 = .ok patched
      ∧ (stored.merge key patch).2.get key = some patched
      ∧ (stored.delete key (some "1")).2.get key
        = some (read.remarked (some Store.deletionTime) (some "2")) := by
  intro key read patch patched stored marked
  have stale := ((no_update_is_lost key).1 [.put audited] [.request (.delete key none)]
    read ["example.com/audit", finalizer] ⟨by decide, rfl, rfl⟩).2
  have fits := ((no_update_is_lost key).1 [.put audited] []
    read ["example.com/audit", finalizer] ⟨by decide, rfl, rfl⟩).2
  have deletes := ((no_update_is_lost key).2.2 RouteSpec [.put audited] []
    read ⟨by decide, rfl, rfl⟩).2
  obtain ⟨made, passes⟩ := fits.passes_iff.2 (by decide)
  obtain ⟨isPatched, leaves⟩ := fits.passed made passes
  cases isPatched
  obtain ⟨_, accepted⟩ := deletes.passes_iff.2 (by decide)
  exact ⟨by decide, (stale.refused (by decide)).2, passes, leaves.there,
    (deletes.passed _ accepted).there⟩

end SharedGateway
