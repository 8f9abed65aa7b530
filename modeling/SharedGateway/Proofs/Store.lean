/-
What each request can do to a store.

Every write acts on the one object under its key, and looks at a few things in
turn: the marks that other writers have left, whether something is stored there, its
version, whether what comes out can be read, whether a finalizer holds it. Each of
the four writes is opened once, for all that is to be shown of it: its elimination
rule (`merge_elim`, `apply_elim`, `delete_elim`, `create_elim`) has one case for each
ending, with the reply, the store afterwards and what was found on the way. Whatever
holds of the exchange in every case holds of the write, so no later proof looks at
how the write is computed.

Two kinds of summary are read off these rules. What is stored afterwards, key by key,
is what a caller needs who goes on to read (`merge_cases`, `delete_cases`,
`create_cases`); the store as a whole is what the accounts of versions and of the
other marks need (`merge_left`, `delete_left`).

In a calm store, which holds no mark of an interfering writer, a failed write changes
nothing and a write that the rules allow succeeds (`Calm.merge_eq`, `Calm.create_eq`),
and it stays calm (`Calm.perform`). In any store, a write that reports its object
missing leaves it missing (`missing_of_notFound`): the report may be late, but it is
not wrong.
-/
import SharedGateway.Proofs.Table
import SharedGateway.Store.Basic

namespace SharedGateway

-- ============================================================== objects

namespace Object

variable {σ : Type}

/-- The object with another deletion mark and version: what a deletion leaves
of an object that finalizers hold. -/
def remarked (o : Object σ) (mark : Option Timestamp) (version : Option String) : Object σ :=
  { o with metadata :=
    { o.metadata with deletionTimestamp := mark, resourceVersion := version } }

end Object

namespace Store

variable {σ : Type}

-- ================================================================ calm

/-- No other writer interferes with the next writes. -/
structure Calm (s : Store σ) : Prop where
  noConflicts : s.queuedConflicts = 0
  noCreation : s.failNextCreate = false
  noVanishing : s.vanishBeforeMerge = false

theorem Calm.keep {s : Store σ} (h : s.Calm) (key : ObjectRef) (o : Object σ) :
    (s.keep key o).Calm :=
  ⟨h.noConflicts, h.noCreation, h.noVanishing⟩

/-- Replacing an object sets no mark. -/
theorem Calm.replace {s : Store σ} (h : s.Calm) (key : ObjectRef) (o : Object σ) :
    (s.replace key o).Calm := by
  unfold Store.replace
  split
  · exact ⟨h.noConflicts, h.noCreation, h.noVanishing⟩
  · exact h.keep key o

-- ============================================================= looking up

/-- A deleting object that nothing holds is removed, any other is kept with a
new version. -/
theorem get_replace (s : Store σ) (key other : ObjectRef) (o : Object σ) :
    (s.replace key o).get other
      = if key = other then if o.metadata.isReleased then none else some (s.stamped o)
        else s.get other := by
  unfold replace
  split
  · rw [get_release]
  · rw [get_keep]

/-- What is listed is what is stored under some key. -/
theorem mem_list {s : Store σ} {o : Object σ} : o ∈ s.list ↔ ∃ key, s.get key = some o :=
  Table.mem_values

/-- An erased object is missing, and no other object changes. -/
theorem get_of_erased {s t : Store σ} {key : ObjectRef}
    (erased : t.objects = s.objects.erase key) (other : ObjectRef) :
    t.get other = if key = other then none else s.get other := by
  rw [get, erased]
  exact Table.find?_erase s.objects key other

variable [Spec σ]

-- ============================================================ endings

/-- Every ending of a merge patch: conflicts were queued, another writer removed the
object first, nothing is there, the version is another, what comes out is no object,
or the object is replaced. -/
@[elab_as_elim]
theorem merge_elim {motive : Except StoreError (Object σ) × Store σ → Prop} (s : Store σ)
    (key : ObjectRef) (patch : Json)
    (queued : s.queuedConflicts ≠ 0 → motive
      (.error (about σ .conflict key), { s with queuedConflicts := s.queuedConflicts - 1 }))
    (vanished : s.vanishBeforeMerge = true → motive (.error (about σ .notFound key),
      { s with objects := s.objects.erase key, vanishBeforeMerge := false }))
    (missing : s.get key = none → motive (.error (about σ .notFound key), s))
    (stale : ∀ o, s.get key = some o → hasVersion o (versionOfPatch? patch) = false →
      motive (.error (about σ .conflict key), s))
    (unreadable : ∀ o, s.get key = some o → hasVersion o (versionOfPatch? patch) = true →
      (Object.ofJson? (o.toJson.mergePatch patch) : Option (Object σ)) = none →
      motive (.error .serialization, s))
    (replaced : ∀ o o', s.get key = some o → hasVersion o (versionOfPatch? patch) = true →
      Object.ofJson? (o.toJson.mergePatch patch) = some o' →
      motive (.ok (s.stamped o'), s.replace key o')) :
    motive (s.merge key patch) := by
  unfold merge
  split
  · exact queued ‹_›
  · split
    · -- the object is erased first, so the patch finds nothing
      dsimp only
      rw [show Store.get _ key = none by rw [get_of_erased rfl, if_pos rfl]]
      exact vanished ‹_›
    · dsimp only
      cases found : s.get key with
      | none => exact missing found
      | some o =>
        dsimp only
        split
        · rename_i current
          unfold replaceJson
          cases read : (Object.ofJson? (o.toJson.mergePatch patch) : Option (Object σ)) with
          | none => exact unreadable o found current read
          | some o' => exact replaced o o' found current read
        · exact stale o found (Bool.eq_false_iff.2 ‹_›)

/-- Every ending of an application: what comes out is no object, the object is
replaced, or it is made from the value alone. -/
@[elab_as_elim]
theorem apply_elim {motive : Except StoreError (Object σ) × Store σ → Prop} (s : Store σ)
    (key : ObjectRef) (value : Json)
    (unreadable : motive (.error .serialization, s))
    (replaced : ∀ o o', s.get key = some o →
      Object.ofJson? (o.toJson.applied value) = some o' →
      motive (.ok (s.stamped o'), s.replace key o'))
    (made : ∀ o', s.get key = none → Object.ofJson? value = some o' →
      motive (.ok (s.stamped o'), s.keep key o')) :
    motive (s.apply key value) := by
  unfold apply
  cases found : s.get key with
  | some o =>
    dsimp only
    unfold replaceJson
    cases read : (Object.ofJson? (o.toJson.applied value) : Option (Object σ)) with
    | none => exact unreadable
    | some o' => exact replaced o o' found read
  | none =>
    cases read : (Object.ofJson? value : Option (Object σ)) with
    | none => exact unreadable
    | some o' => exact made o' found read

/-- Every ending of a deletion: nothing is there, the version is another, the object
goes at once, is marked already, or is marked now. -/
@[elab_as_elim]
theorem delete_elim {motive : Except StoreError Unit × Store σ → Prop} (s : Store σ)
    (key : ObjectRef) (version : Option String)
    (missing : s.get key = none → motive (.error (about σ .notFound key), s))
    (stale : ∀ o, s.get key = some o → hasVersion o version = false →
      motive (.error (about σ .conflict key), s))
    (erased : ∀ o, s.get key = some o → hasVersion o version = true → o.finalizers = [] →
      motive (.ok (), { s with objects := s.objects.erase key }))
    (kept : ∀ o, s.get key = some o → hasVersion o version = true → o.finalizers ≠ [] →
      o.isDeleting = true → motive (.ok (), s))
    (marked : ∀ o, s.get key = some o → hasVersion o version = true → o.finalizers ≠ [] →
      o.isDeleting = false →
      motive (.ok (), s.keep key (o.remarked (some deletionTime) o.resourceVersion))) :
    motive (s.delete key version) := by
  unfold delete
  cases found : s.get key with
  | none => exact missing found
  | some o =>
    dsimp only
    cases current : hasVersion o version with
    | false => exact stale o found current
    | true =>
      simp only [Bool.not_true, Bool.false_eq_true, if_false]
      split
      · exact erased o found current (List.isEmpty_iff.1 ‹_›)
      · have held : o.finalizers ≠ [] := fun free => ‹¬_› (List.isEmpty_iff.2 free)
        split
        · exact kept o found current held ‹_›
        · exact marked o found current held (Bool.eq_false_iff.2 ‹_›)

/-- Every ending of a creation: it is refused, as planned or because an object is
there, or it adds the object. -/
@[elab_as_elim]
theorem create_elim {motive : Except StoreError (Object σ) × Store σ → Prop} (s : Store σ)
    (o : Object σ)
    (refused : motive (.error (about σ .alreadyExists o.ref), { s with failNextCreate := false }))
    (added : s.get o.ref = none → s.failNextCreate = false → 
      motive (.ok (s.stamped o), s.keep o.ref o)) :
    motive (s.create o) := by
  unfold create
  dsimp only
  split
  · exact refused
  · rename_i accepted
    obtain ⟨unplanned, free⟩ := not_or.1 (mt Bool.or_eq_true_iff.2 accepted)
    have unplanned := Bool.eq_false_iff.2 unplanned
    have free : s.get o.ref = none := by simpa [get, Table.contains] using free
    have cleared : { s with failNextCreate := false } = s :=
      congrArg (fun mark => { s with failNextCreate := mark }) unplanned.symm
    rw [cleared]
    exact added free unplanned

-- ============================================================== writing

/-- A merge patch fails, and leaves the objects alone or reports its own gone,
which does not happen in a calm store; or it replaces the object by what is
read from its patched form. -/
theorem merge_cases (s : Store σ) (key : ObjectRef) (patch : Json) :
    ((∃ e, (s.merge key patch).1 = .error e
        ∧ ∀ other, (s.merge key patch).2.get other = s.get other
          ∨ (other = key ∧ e.isNotFound = true ∧ (s.merge key patch).2.get other = none))
      ∧ (s.Calm → (s.merge key patch).2 = s))
    ∨ ∃ o o', s.get key = some o ∧ Object.ofJson? (o.toJson.mergePatch patch) = some o'
      ∧ (s.merge key patch).1 = .ok (s.stamped o')
      ∧ ∀ other, (s.merge key patch).2.get other = (s.replace key o').get other := by
  refine merge_elim s key patch (fun queued => ?queued) (fun vanishing => ?vanished)
    (fun _ => .inl ⟨⟨_, rfl, fun _ => .inl rfl⟩, fun _ => rfl⟩)
    (fun _ _ _ => .inl ⟨⟨_, rfl, fun _ => .inl rfl⟩, fun _ => rfl⟩)
    (fun _ _ _ _ => .inl ⟨⟨_, rfl, fun _ => .inl rfl⟩, fun _ => rfl⟩)
    fun o o' found _ read => .inr ⟨o, o', found, read, rfl, fun _ => rfl⟩
  case queued =>
    exact .inl ⟨⟨_, rfl, fun _ => .inl rfl⟩, fun calm => absurd calm.noConflicts queued⟩
  case vanished =>
    refine .inl ⟨⟨_, rfl, fun other => ?_⟩,
      fun calm => absurd (calm.noVanishing.symm.trans vanishing) (by decide)⟩
    by_cases same : key = other
    · exact .inr ⟨same.symm, rfl, by rw [get_of_erased rfl, if_pos same]⟩
    · exact .inl (by rw [get_of_erased rfl, if_neg same])

/-- What a merge patch leaves: the objects as they were, or all but the one under the
key if another writer removed it first, or the store with its patched form. -/
theorem merge_left (s : Store σ) (key : ObjectRef) (patch : Json) :
    ((s.merge key patch).2.objects = s.objects
      ∧ (s.merge key patch).2.vanishBeforeMerge = s.vanishBeforeMerge)
    ∨ (s.vanishBeforeMerge = true ∧ (s.merge key patch).2.vanishBeforeMerge = false
      ∧ (s.merge key patch).2.objects = s.objects.erase key)
    ∨ ∃ o o', s.get key = some o ∧ Object.ofJson? (o.toJson.mergePatch patch) = some o'
      ∧ (s.merge key patch).2 = s.replace key o' :=
  merge_elim s key patch (fun _ => .inl ⟨rfl, rfl⟩)
    (fun vanishing => .inr (.inl ⟨vanishing, rfl, rfl⟩))
    (fun _ => .inl ⟨rfl, rfl⟩) (fun _ _ _ => .inl ⟨rfl, rfl⟩) (fun _ _ _ _ => .inl ⟨rfl, rfl⟩)
    fun o o' found _ read => .inr (.inr ⟨o, o', found, read, rfl⟩)

/-- A deletion fails and changes nothing; or the object is gone if nothing held
it, and marked as deleting if a finalizer did. No other object changes. -/
theorem delete_cases (s : Store σ) (key : ObjectRef) (version : Option String) :
    ((∃ e, (s.delete key version).1 = .error e) ∧ (s.delete key version).2 = s)
    ∨ ∃ o, s.get key = some o ∧ (s.delete key version).1 = .ok ()
      ∧ (∀ other, other ≠ key → (s.delete key version).2.get other = s.get other)
      ∧ ((o.finalizers = [] ∧ (s.delete key version).2.get key = none)
        ∨ (o.finalizers ≠ [] ∧ ∃ time newVersion,
          (s.delete key version).2.get key = some (o.remarked (some time) newVersion))) := by
  refine delete_elim s key version (fun _ => .inl ⟨⟨_, rfl⟩, rfl⟩)
    (fun _ _ _ => .inl ⟨⟨_, rfl⟩, rfl⟩) (fun o found _ free => .inr ⟨o, found, rfl, ?erased⟩)
    (fun o found _ held deleting => .inr ⟨o, found, rfl, ?kept⟩)
    fun o found _ held _ => .inr ⟨o, found, rfl, ?marked⟩
  case erased =>
    refine ⟨fun other differ => ?_, .inl ⟨free, ?_⟩⟩
    · rw [get_of_erased rfl, if_neg (Ne.symm differ)]
    · rw [get_of_erased rfl, if_pos rfl]
  case kept =>
    obtain ⟨time, marked⟩ := Option.isSome_iff_exists.1 deleting
    refine ⟨fun _ _ => rfl, .inr ⟨held, time, o.resourceVersion, ?_⟩⟩
    rw [found, ← marked]
    rfl
  case marked =>
    refine ⟨fun other differ => ?_, .inr ⟨held, deletionTime, s.versionText, ?_⟩⟩
    · rw [get_keep, if_neg (Ne.symm differ)]
    · rw [get_keep, if_pos rfl]
      rfl

/-- What a deletion leaves: the store as it was, or one without the object, or with
the object marked. -/
theorem delete_left (s : Store σ) (key : ObjectRef) (version : Option String) :
    (s.delete key version).2 = s
    ∨ ∃ o, s.get key = some o
      ∧ ((o.finalizers = []
          ∧ (s.delete key version).2 = { s with objects := s.objects.erase key })
        ∨ (o.finalizers ≠ [] ∧ o.metadata.deletionTimestamp = none
          ∧ (s.delete key version).2
            = s.keep key (o.remarked (some deletionTime) o.resourceVersion))) :=
  delete_elim s key version (fun _ => .inl rfl) (fun _ _ _ => .inl rfl)
    (fun o found _ free => .inr ⟨o, found, .inl ⟨free, rfl⟩⟩) (fun _ _ _ _ _ => .inl rfl)
    fun o found _ held unmarked => .inr ⟨o, found,
      .inr ⟨held, Option.isNone_iff_eq_none.1 (Option.isSome_eq_false_iff.1 unmarked), rfl⟩⟩

/-- A creation fails and leaves all objects, or adds one that was not there. -/
theorem create_cases (s : Store σ) (o : Object σ) :
    ((∃ e, (s.create o).1 = .error e) ∧ ∀ other, (s.create o).2.get other = s.get other)
    ∨ (s.get o.ref = none ∧ (s.create o).1 = .ok (s.stamped o)
      ∧ ∀ other, (s.create o).2.get other
        = if o.ref = other then some (s.stamped o) else s.get other) :=
  create_elim s o (.inl ⟨⟨_, rfl⟩, fun _ => rfl⟩)
    fun free _ => .inr ⟨free, rfl, fun other => s.get_keep o.ref other o⟩

section Missing

variable {s : Store σ} {key : ObjectRef} {e : StoreError}

/-- A creation never reports its object missing. -/
theorem isNotFound_of_create {o : Object σ} :
    (s.create o).1 = .error e → e.isNotFound = false := by
  refine create_elim s o ?_ fun _ _ failed => ?_
  · rintro ⟨⟩
    rfl
  · cases failed

/-- An application never reports its object missing: it would have made it. -/
theorem isNotFound_of_apply {value : Json} :
    (s.apply key value).1 = .error e → e.isNotFound = false := by
  refine apply_elim s key value ?_ (fun _ _ _ _ failed => ?_) fun _ _ _ failed => ?_
  · rintro ⟨⟩
    rfl
  · cases failed
  · cases failed

/-- A merge that reports its object missing leaves it missing. -/
theorem missing_of_merge {patch : Json} : (s.merge key patch).1 = .error e →
    e.isNotFound = true → (s.merge key patch).2.get key = none := by
  refine merge_elim s key patch ?_ (fun _ _ _ => ?_) (fun missing _ _ => missing) ?_ ?_ ?_
  · rintro _ ⟨⟩ ⟨⟩
  · rw [get_of_erased rfl, if_pos rfl]
  · rintro _ _ _ ⟨⟩ ⟨⟩
  · rintro _ _ _ _ ⟨⟩ ⟨⟩
  · rintro _ _ _ _ _ ⟨⟩

/-- A deletion that reports its object missing leaves it missing. -/
theorem missing_of_delete {version : Option String} : (s.delete key version).1 = .error e →
    e.isNotFound = true → (s.delete key version).2.get key = none := by
  refine delete_elim s key version (fun missing _ _ => missing) ?_ ?_ ?_ ?_
  · rintro _ _ _ ⟨⟩ ⟨⟩
  · rintro _ _ _ _ ⟨⟩
  · rintro _ _ _ _ _ ⟨⟩
  · rintro _ _ _ _ _ ⟨⟩

/-- A request that reports its object missing leaves it missing. -/
theorem missing_of_notFound {r : Request σ} (failed : (s.perform r).1 = .error e)
    (reported : e.isNotFound = true) (about : r.key? = some key) :
    (s.perform r).2.get key = none := by
  cases r with
  | get other => cases failed
  | list => cases failed
  | create o => cases reported.symm.trans (isNotFound_of_create failed)
  | merge other patch =>
    cases about
    exact missing_of_merge failed reported
  | apply other value manager => cases reported.symm.trans (isNotFound_of_apply failed)
  | delete other version =>
    cases about
    exact missing_of_delete failed reported

end Missing

omit [Spec σ] in
/-- An object has the version that was read from it. -/
theorem hasVersion_own (o : Object σ) : hasVersion o o.resourceVersion = true := by
  unfold hasVersion
  split
  · rfl
  · rename_i version known
    exact decide_eq_true known

/-- Deleting an object as it was read succeeds, and removes it if nothing holds
it. -/
theorem delete_eq {s : Store σ} {key : ObjectRef} {o : Object σ} (found : s.get key = some o)
    (free : o.finalizers = []) :
    s.delete key o.resourceVersion = (.ok (), { s with objects := s.objects.erase key }) := by
  simp [delete, found, hasVersion_own o, free]

-- ======================================================== calm stores

namespace Calm

variable {s : Store σ}

/-- A calm store stays calm, whatever is requested. -/
theorem perform (h : s.Calm) (r : Request σ) : (s.perform r).2.Calm := by
  have erased (key : ObjectRef) : { s with objects := s.objects.erase key }.Calm :=
    ⟨h.noConflicts, h.noCreation, h.noVanishing⟩
  cases r with
  | get key => exact h
  | list => exact h
  | create o =>
    show (s.create o).2.Calm
    exact create_elim s o ⟨h.noConflicts, rfl, h.noVanishing⟩ fun _ _ => h.keep _ _
  | merge key patch =>
    show (s.merge key patch).2.Calm
    exact merge_elim s key patch (absurd h.noConflicts)
      (fun vanishing => absurd (h.noVanishing.symm.trans vanishing) (by decide))
      (fun _ => h) (fun _ _ _ => h) (fun _ _ _ _ => h) fun _ _ _ _ _ => h.replace _ _
  | apply key value manager =>
    show (s.apply key value).2.Calm
    exact apply_elim s key value h (fun _ _ _ _ => h.replace _ _) fun _ _ _ => h.keep _ _
  | delete key version =>
    show (s.delete key version).2.Calm
    exact delete_elim s key version (fun _ => h) (fun _ _ _ => h) (fun _ _ _ _ => erased key)
      (fun _ _ _ _ _ => h) fun _ _ _ _ _ => h.keep _ _

/-- A patch that is made for the stored version, and leaves an object that can
be read, succeeds. -/
theorem merge_eq (h : s.Calm) {key : ObjectRef} {patch : Json} {o o' : Object σ}
    (found : s.get key = some o) (version : versionOfPatch? patch = o.resourceVersion)
    (read : Object.ofJson? (o.toJson.mergePatch patch) = some o') :
    s.merge key patch = (.ok (s.stamped o'), s.replace key o') := by
  have current : hasVersion o (versionOfPatch? patch) = true := version ▸ hasVersion_own o
  simp only [merge, h.noConflicts, h.noVanishing, ne_eq, not_true_eq_false, if_false,
    Bool.false_eq_true, found, current, if_true, replaceJson, read]

/-- In a calm store, an object that is not there is created. -/
theorem create_eq (h : s.Calm) {o : Object σ} (free : s.get o.ref = none) :
    s.create o = (.ok (s.stamped o), s.keep o.ref o) := by
  have notThere : s.objects.contains o.ref = false := by
    simpa [Table.contains, get] using free
  have cleared : { s with failNextCreate := false } = s :=
    congrArg (fun mark => { s with failNextCreate := mark }) h.noCreation.symm
  simp only [create, h.noCreation, notThere, Bool.or_self, Bool.false_eq_true, if_false]
  rw [cleared]

end Calm

end Store

end SharedGateway
