/-
Loading the configuration.

# One variable at a time

What a variable may be set to is told for each variable alone (`Variable.Accepts`): a
text variable to anything that is not blank, a number to a numeral within its range,
with blanks around it or a plus sign in front. So is the complaint about any other
value. This says nothing of how the value is taken apart; the two are tied together
in `Trimming`.

# One variable after another

A load asks for its variables in a fixed order and ends in the first complaint. Each
step is a judgement of one variable, and `Judges` is what is carried from step to
step: the computation fails exactly with the first objection among its variables, and
where there is none, it ends in exactly the results that fit. The steps for texts and
numbers are judgements (`judges_text`, `judges_number`), two judgements in a row are
one (`Judges.bind`), and so the whole load is one (`judges_load`). Success and
failure are then read off the same lemma (`load_eq_ok_iff`, `exists_load_eq_ok_iff`).

# Written back

A configuration that was loaded is sound: its texts are trimmed and not empty, its
numbers within their ranges (`Config.Describes.sound`). A sound configuration may be
written into an environment, each variable set to its own field, and is what that
environment describes (`Config.Sound.load_written`). So a second load changes
nothing: what the first one trimmed and normalised stays.
-/
import SharedGateway.Config
import SharedGateway.Proofs.Trimming

namespace SharedGateway

open Text (Numeral Tidy Trims isBlank)
open Config (Environment)

-- ===================================================== a single variable

/-- The text writes `n`, blanks around it apart. -/
def Spells (raw : String) (n : Nat) : Prop :=
  ∃ text, Trims raw.toList text ∧ Numeral text n

namespace Variable

/-- The least and the greatest value of a number, which has 32 or 16 bits; nothing for
a text. -/
def range? : Variable → Option (Nat × Nat)
  | .conflictRetryAttempts => some (1, 4294967295)
  | .healthPort => some (0, 65535)
  | _ => none

/-- What the variable may be set to: a text to anything but blanks, a number to a
numeral of its range. -/
def Accepts (var : Variable) (raw : String) : Prop :=
  match var.range? with
  | none => ∃ c ∈ raw.toList, isBlank c = false
  | some (least, most) => ∃ n, Spells raw n ∧ least ≤ n ∧ n ≤ most

/-- The error about a value that is not accepted. -/
def complaint (var : Variable) (raw : String) : ConfigError :=
  match var.range? with
  | none => .empty var
  | some _ => .invalidValue var raw

end Variable

variable {α β : Type} {env : Environment} {var : Variable} {raw default field : String}
  {least most n : Nat} {e : ConfigError} {c : Config}

/-- The numerals of a number are what the reader takes for it. -/
theorem spells_iff : Spells raw n ↔ Text.numeral? (Text.trim raw.toList) = some n := by
  simp [Spells, Text.trims_iff, Text.numeral?_eq_some_iff]

/-- A text writes one number at most. -/
theorem Spells.unique {m : Nat} (spells : Spells raw n) (other : Spells raw m) : n = m := by
  rw [spells_iff] at spells other
  exact Option.some.inj (spells.symm.trans other)

theorem spells_toString (n : Nat) : Spells (toString n) n :=
  ⟨_, Text.trims_toString n, .toString n⟩

theorem Variable.accepts_text (text : var.range? = none) :
    var.Accepts raw ↔ Text.trim raw.toList ≠ [] := by
  simp [Accepts, text, Text.trim_eq_nil_iff]

theorem Variable.accepts_number (number : var.range? = some (least, most)) :
    var.Accepts raw ↔
      ∃ n ∈ Text.numeral? (Text.trim raw.toList), least ≤ n ∧ n ≤ most := by
  simp [Accepts, number, spells_iff]

instance (var : Variable) (raw : String) : Decidable (var.Accepts raw) :=
  match kind : var.range? with
  | none => decidable_of_iff _ (Variable.accepts_text kind).symm
  | some (_, _) => decidable_of_iff _ (Variable.accepts_number kind).symm

/-- The complaint about the variable, if it is set to a value it may not have. -/
def Config.objection? (env : Environment) (var : Variable) : Option ConfigError :=
  (env var).bind fun raw => if var.Accepts raw then none else some (var.complaint raw)

open Config (objection? text number load)

/-- There is no objection to a variable that is unset or set to what it accepts. -/
theorem objection?_eq_none_iff :
    objection? env var = none ↔ ∀ raw, env var = some raw → var.Accepts raw := by
  simp [objection?]

/-- The objection to a variable is the complaint about what it is set to. -/
theorem objection?_eq_some_iff : objection? env var = some e ↔
    ∃ raw, env var = some raw ∧ ¬ var.Accepts raw ∧ e = var.complaint raw := by
  simp only [objection?, Option.bind_eq_some_iff, Option.ite_none_left_eq_some,
    Option.some.injEq, eq_comm (a := e)]

-- ======================================================= step after step

/-- `x` judges the variables in turn. It fails with the first objection, and
where there is none it ends in the result that fits. -/
structure Judges (env : Environment) (vars : List Variable) (x : Except ConfigError α)
    (Fits : α → Prop) : Prop where
  error_iff : ∀ e, x = .error e ↔ vars.findSome? (objection? env) = some e
  ok_iff : ∀ a, x = .ok a ↔ vars.findSome? (objection? env) = none ∧ Fits a

variable {x : Except ConfigError α} {f : α → Except ConfigError β} {vars later : List Variable}
  {Fits : α → Prop} {Ends : α → β → Prop}

/-- Which results fit matters only where there is no objection. -/
theorem Judges.of_iff {Fits' : α → Prop} (judges : Judges env vars x Fits)
    (same : vars.findSome? (objection? env) = none → ∀ a, Fits a ↔ Fits' a) :
    Judges env vars x Fits' where
  error_iff := judges.error_iff
  ok_iff a := (judges.ok_iff a).trans (and_congr_right fun clear => same clear a)

theorem judges_pure (env : Environment) (a : α) :
    Judges env [] (pure a) fun b => b = a where
  error_iff e := by simp [pure, Except.pure]
  ok_iff b := by simp [pure, Except.pure, eq_comm]

/-- The second step judges its variables after those of the first. -/
theorem Judges.bind (first : Judges env vars x Fits)
    (next : ∀ a, Judges env later (f a) (Ends a)) :
    Judges env (vars ++ later) (x >>= f) fun b => ∃ a, Fits a ∧ Ends a b := by
  cases x with
  | error e =>
    have objected := (first.error_iff e).mp rfl
    refine ⟨fun e' => ?_, fun b => ?_⟩ <;>
      simp [List.findSome?_append, objected, Bind.bind, Except.bind]
  | ok a =>
    obtain ⟨clear, fits⟩ := (first.ok_iff a).mp rfl
    -- what the first step ends in is told by what fits
    have only : ∀ a', Fits a' → a' = a := fun a' fits' =>
      (Except.ok.inj ((first.ok_iff a').mpr ⟨clear, fits'⟩)).symm
    refine ⟨fun e => ?_, fun b => ?_⟩ <;> rw [List.findSome?_append, clear, Option.none_or]
    · exact (next a).error_iff e
    · refine ((next a).ok_iff b).trans (and_congr_right fun _ => ⟨fun ends => ⟨a, fits, ends⟩, ?_⟩)
      rintro ⟨a', fits', ends⟩
      exact only a' fits' ▸ ends

-- ========================================================= a single step

theorem judges_unset (unset : env var = none) (a : α) :
    Judges env [var] (.ok a) fun b => b = a where
  error_iff e := by simp [objection?, unset]
  ok_iff b := by simp [objection?, unset, eq_comm]

/-- A value that is not accepted fails with the complaint about it, whatever would fit.
-/
theorem judges_refused (set : env var = some raw) (refused : ¬ var.Accepts raw)
    (Fits : α → Prop) : Judges env [var] (.error (var.complaint raw)) Fits where
  error_iff e := by simp [objection?, set, refused]
  ok_iff b := by simp [objection?, set, refused]

/-- A value that is accepted ends in the one result that fits it. -/
theorem judges_accepted {a : α} (set : env var = some raw) (accepted : var.Accepts raw)
    (fits : ∀ b, Fits b ↔ a = b) : Judges env [var] (.ok a) Fits where
  error_iff e := by simp [objection?, set, accepted]
  ok_iff b := by simp [objection?, set, accepted, fits]

/-- The field that a text variable asks for. -/
def Says (setting : Option String) (default field : String) : Prop :=
  match setting with
  | none => field = default
  | some raw => Trims raw.toList field.toList

/-- The field that a number asks for. -/
def Counts (setting : Option String) (default n : Nat) : Prop :=
  match setting with
  | none => n = default
  | some raw => Spells raw n

/-- A text variable is judged, and asks for what is left of its value once it is
trimmed. -/
theorem judges_text (kind : var.range? = none) (env : Environment) (default : String) :
    Judges env [var] (text env var default) (Says (env var) default) := by
  unfold text
  cases set : env var with
  | none => exact judges_unset set default
  | some raw =>
    have empty : Text.trimmed raw = "" ↔ ¬ var.Accepts raw := by
      simp [Variable.accepts_text kind, Text.trimmed]
    have complains : .empty var = var.complaint raw := by simp [Variable.complaint, kind]
    dsimp only
    split_ifs with blank
    · rw [complains]
      exact judges_refused set (empty.mp blank) _
    · refine judges_accepted set (not_not.mp (mt empty.mpr blank)) fun field => ?_
      rw [Says, Text.trims_iff, Text.trimmed, ← String.toList_inj, String.toList_ofList]

/-- A number is judged, and asks for the number that its value spells. -/
theorem judges_number (kind : var.range? = some (least, most)) (env : Environment)
    (default : Nat) :
    Judges env [var] (number env var least (most + 1) default) (Counts (env var) default) := by
  unfold number
  cases set : env var with
  | none => exact judges_unset set default
  | some raw =>
    have refuses (refused : ¬ var.Accepts raw) :
        Judges env [var] (.error (.invalidValue var raw)) (Counts (some raw) default) := by
      have complains : .invalidValue var raw = var.complaint raw := by
        simp [Variable.complaint, kind]
      exact complains ▸ judges_refused set refused _
    dsimp only
    rw [Text.numeralBelow?]
    cases value : Text.numeral? (Text.trim raw.toList) with
    | none => exact refuses (by simp [Variable.accepts_number kind, value])
    | some n =>
      have judged : var.Accepts raw ↔ least ≤ n ∧ n ≤ most := by
        simp [Variable.accepts_number kind, value]
      rw [judged] at refuses
      rw [Option.filter_some]
      split_ifs with fits
      · have atMost : n ≤ most := Nat.le_of_lt_succ (of_decide_eq_true fits)
        dsimp only
        split_ifs with atLeast
        · refine judges_accepted set (judged.mpr ⟨atLeast, atMost⟩) fun m => ?_
          rw [Counts, spells_iff, value, Option.some.injEq]
        · exact refuses fun within => atLeast within.1
      · exact refuses fun within => fits (decide_eq_true (Nat.lt_succ_of_le within.2))

-- ============================================================= the load

/-- The configuration that the environment describes. -/
structure Config.Describes (env : Environment) (c : Config) : Prop where
  gatewayClass : Says (env .gatewayClassName) "eg" c.gatewayClass
  defaultIssuer : Says (env .defaultClusterIssuer) "internpki" c.defaultIssuer
  defaultZone : Says (env .defaultIpamZone) "hnet-private" c.defaultZone
  fieldManager : Says (env .fieldManager) "gatewayapi-operator" c.fieldManager
  attempts : Counts (env .conflictRetryAttempts) 5 c.conflictRetry.attempts
  pause : c.conflictRetry.pause = 10
  healthPort : Counts (env .healthPort) 8081 c.healthPort.toNat

/-- No objection comes up in a load if every variable accepts what it is set to. -/
theorem findSome?_objection?_eq_none_iff :
    Variable.inOrder.findSome? (objection? env) = none ↔
      ∀ var raw, env var = some raw → var.Accepts raw := by
  simp only [List.findSome?_eq_none_iff, objection?_eq_none_iff]
  exact ⟨fun accepted var => accepted var (by cases var <;> decide),
    fun accepted var _ => accepted var⟩

/-- An accepted number lies in its range, and so does a default of that range. -/
theorem Counts.within {default : Nat} (kind : var.range? = some (least, most))
    (accepted : ∀ raw, env var = some raw → var.Accepts raw)
    (usual : least ≤ default ∧ default ≤ most) (counts : Counts (env var) default n) :
    least ≤ n ∧ n ≤ most := by
  cases set : env var with
  | none =>
    rw [set, Counts] at counts
    exact counts ▸ usual
  | some raw =>
    rw [set, Counts] at counts
    have judged := accepted raw set
    rw [Variable.Accepts, kind] at judged
    obtain ⟨m, spells, within⟩ := judged
    exact counts.unique spells ▸ within

/-- A number of attempts is at least one already, so it is not raised again. -/
theorem ofAttempts_attempts (retry : ConflictRetry) :
    ConflictRetry.ofAttempts retry.attempts retry.pause = retry := by
  simp [ConflictRetry.ofAttempts, Nat.max_eq_left retry.positive]

/-- The load judges all variables in their order, and ends in the configuration that the
environment describes. -/
theorem judges_load (env : Environment) :
    Judges env Variable.inOrder (load env) (·.Describes env) := by
  have steps : Judges env Variable.inOrder (load env) _ :=
    (judges_text rfl env _).bind fun gatewayClass =>
    (judges_text rfl env _).bind fun defaultIssuer =>
    (judges_text rfl env _).bind fun defaultZone =>
    (judges_text rfl env _).bind fun fieldManager =>
    (judges_number rfl env _).bind fun attempts =>
    (judges_number rfl env _).bind fun port => judges_pure env _
  refine steps.of_iff fun clear c => ?_
  rw [findSome?_objection?_eq_none_iff] at clear
  constructor
  · rintro ⟨_, saysClass, _, saysIssuer, _, saysZone, _, saysManager, attempts, counts,
      port, countsPort, rfl⟩
    -- within their ranges the numbers are neither raised nor cut
    have positive : 1 ≤ attempts := (counts.within rfl (clear _) (by decide)).1
    have narrow : port ≤ 65535 := (countsPort.within rfl (clear _) (by decide)).2
    refine ⟨saysClass, saysIssuer, saysZone, saysManager, ?_, rfl, ?_⟩
    · change Counts _ 5 (max attempts 1)
      rw [Nat.max_eq_left positive]
      exact counts
    · rwa [UInt16.toNat_ofNat_of_lt' (Nat.lt_succ_of_le narrow)]
  · intro describes
    have retry := ofAttempts_attempts c.conflictRetry
    rw [describes.pause] at retry
    refine ⟨_, describes.gatewayClass, _, describes.defaultIssuer, _, describes.defaultZone,
      _, describes.fieldManager, _, describes.attempts, _, describes.healthPort, ?_⟩
    rw [conflictPause, retry, UInt16.ofNat_toNat]

-- ======================================================== written back

/-- The values that write a configuration down. -/
def Config.written (c : Config) : Variable → String
  | .gatewayClassName => c.gatewayClass
  | .defaultClusterIssuer => c.defaultIssuer
  | .defaultIpamZone => c.defaultZone
  | .fieldManager => c.fieldManager
  | .conflictRetryAttempts => toString c.conflictRetry.attempts
  | .healthPort => toString c.healthPort.toNat

/-- The text fields. -/
def Config.texts (c : Config) : List String :=
  [c.gatewayClass, c.defaultIssuer, c.defaultZone, c.fieldManager]

/-- What holds of every configuration that was loaded. -/
structure Config.Sound (c : Config) : Prop where
  texts : ∀ text ∈ c.texts, text ≠ "" ∧ Tidy text.toList
  attempts : c.conflictRetry.attempts ≤ 4294967295
  pause : c.conflictRetry.pause = 10

theorem written_mem_texts (kind : var.range? = none) (c : Config) : c.written var ∈ c.texts := by
  cases var <;> simp_all [Variable.range?, Config.written, Config.texts]

/-- A text that was accepted is not empty once it is trimmed, and has no blank at
its ends. -/
theorem Says.sound {default : String} (kind : var.range? = none)
    (accepted : ∀ raw, env var = some raw → var.Accepts raw)
    (usual : default ≠ "" ∧ default.toList.all (!isBlank ·) = true)
    (stated : Says (env var) default field) : field ≠ "" ∧ Tidy field.toList := by
  cases set : env var with
  | none =>
    rw [set, Says] at stated
    obtain ⟨some, visible⟩ := usual
    exact stated ▸ ⟨some, Text.tidy_of_visible (by simpa using visible)⟩
  | some raw =>
    rw [set, Says] at stated
    have some := (Variable.accepts_text kind).mp (accepted raw set)
    rw [stated.trim_eq] at some
    exact ⟨fun empty => some (by rw [empty]; rfl), stated.tidy⟩

/-- A configuration that is described by accepted values is sound. -/
theorem Config.Describes.sound (accepted : ∀ var raw, env var = some raw → var.Accepts raw)
    (describes : c.Describes env) : c.Sound where
  texts := by
    simp only [texts, List.mem_cons, List.not_mem_nil, or_false]
    rintro text (rfl | rfl | rfl | rfl)
    · exact describes.gatewayClass.sound rfl (accepted _) (by decide)
    · exact describes.defaultIssuer.sound rfl (accepted _) (by decide)
    · exact describes.defaultZone.sound rfl (accepted _) (by decide)
    · exact describes.fieldManager.sound rfl (accepted _) (by decide)
  attempts := (describes.attempts.within rfl (accepted _) (by decide)).2
  pause := describes.pause

/-- What a sound configuration is written as is accepted. -/
theorem Config.Sound.accepts_written (sound : c.Sound) (var : Variable) :
    var.Accepts (c.written var) := by
  have text (kind : var.range? = none) : var.Accepts (c.written var) := by
    obtain ⟨some, tidy⟩ := sound.texts _ (written_mem_texts kind c)
    rw [Variable.accepts_text kind, tidy.trims.trim_eq]
    simpa using some
  cases var with
  | conflictRetryAttempts => exact ⟨_, spells_toString _, c.conflictRetry.positive, sound.attempts⟩
  | healthPort =>
    exact ⟨_, spells_toString _, Nat.zero_le _, Nat.le_of_lt_succ c.healthPort.toNat_lt⟩
  | _ => exact text rfl

/-- A sound configuration is what its own written values describe. -/
theorem Config.Sound.describes_of_written (sound : c.Sound)
    (written : ∀ var, env var = some (c.written var)) : c.Describes env := by
  have stated (var : Variable) (kind : var.range? = none) (default : String) :
      Says (env var) default (c.written var) := by
    rw [written var]
    exact (sound.texts _ (written_mem_texts kind c)).2.trims
  have counts {var : Variable} {n : Nat} (shape : c.written var = toString n) (default : Nat) :
      Counts (env var) default n := by
    rw [written var, shape]
    exact spells_toString n
  exact {
    gatewayClass := stated .gatewayClassName rfl _
    defaultIssuer := stated .defaultClusterIssuer rfl _
    defaultZone := stated .defaultIpamZone rfl _
    fieldManager := stated .fieldManager rfl _
    attempts := counts rfl _
    pause := sound.pause
    healthPort := counts rfl _ }

/-- A load succeeds with a configuration if and only if all values are accepted and the
configuration is the one they describe. -/
theorem load_eq_ok_iff : load env = .ok c ↔
    (∀ var raw, env var = some raw → var.Accepts raw) ∧ c.Describes env := by
  rw [(judges_load env).ok_iff, findSome?_objection?_eq_none_iff]

/-- A sound configuration is loaded again from its written form. -/
theorem Config.Sound.load_written (sound : c.Sound)
    (written : ∀ var, env var = some (c.written var)) : load env = .ok c := by
  refine load_eq_ok_iff.mpr ⟨fun var raw set => ?_, sound.describes_of_written written⟩
  obtain rfl : c.written var = raw := Option.some.inj ((written var).symm.trans set)
  exact sound.accepts_written var

/-- A load succeeds if and only if all values are accepted. -/
theorem exists_load_eq_ok_iff :
    (∃ c, load env = .ok c) ↔ ∀ var raw, env var = some raw → var.Accepts raw := by
  rw [← findSome?_objection?_eq_none_iff, Option.eq_none_iff_forall_ne_some]
  simp only [ne_eq, ← (judges_load env).error_iff]
  cases load env <;> simp

/-- Loading is exact, whatever the environment. It succeeds if and only if each
variable that is set is accepted. A configuration that is loaded has every field
as its variable says, texts without blanks at their ends and none empty, and it
is loaded again where the variables hold its own fields. Any error is the
complaint about the first variable that is not accepted. -/
theorem loading_is_exact (lookup : String → Option String) :
    let env : Environment := fun var => lookup var.name
    Variable.inOrder.map Variable.name = ["GATEWAY_CLASS_NAME", "DEFAULT_CLUSTER_ISSUER",
      "DEFAULT_IPAM_ZONE", "FIELD_MANAGER", "CONFLICT_RETRY_ATTEMPTS", "HEALTH_PORT"]
    ∧ ((∃ c, load env = .ok c) ↔ ∀ var raw, env var = some raw → var.Accepts raw)
    ∧ (∀ c, load env = .ok c → c.Describes env
        ∧ (∀ text ∈ c.texts, text ≠ "" ∧ Tidy text.toList)
        ∧ ∀ again : String → Option String, (∀ var, again var.name = some (c.written var)) →
          load (fun var => again var.name) = .ok c)
    ∧ ∀ e, load env = .error e ↔ ∃ earlier var later raw,
        Variable.inOrder = earlier ++ var :: later
        ∧ (∀ before ∈ earlier, ∀ raw, env before = some raw → before.Accepts raw)
        ∧ env var = some raw ∧ ¬ var.Accepts raw ∧ e = var.complaint raw := by
  intro env
  refine ⟨rfl, exists_load_eq_ok_iff, fun c loaded => ?_, fun e => ?_⟩
  · obtain ⟨accepted, describes⟩ := load_eq_ok_iff.mp loaded
    have sound := describes.sound accepted
    exact ⟨describes, sound.texts, fun again written => sound.load_written written⟩
  · rw [(judges_load env).error_iff, List.findSome?_eq_some_iff]
    simp only [objection?_eq_some_iff, objection?_eq_none_iff]
    constructor
    · rintro ⟨earlier, var, later, split, ⟨raw, complains⟩, clear⟩
      exact ⟨earlier, var, later, raw, split, clear, complains⟩
    · rintro ⟨earlier, var, later, raw, split, clear, complains⟩
      exact ⟨earlier, var, later, split, ⟨raw, complains⟩, clear⟩

/-- Settings between blanks, one with a sign and zeros in front. -/
def spacedSettings : String → Option String :=
  fun name => [("DEFAULT_IPAM_ZONE", " hnet-public\t"), ("CONFLICT_RETRY_ATTEMPTS", "+007"),
    ("HEALTH_PORT", "65535\n")].lookup name

/-- What `spacedSettings` ask for. -/
def spacedConfig : Config where
  defaultZone := "hnet-public"
  conflictRetry := .ofAttempts 7 10
  healthPort := 65535

/-- Settings of which the second and the third are not accepted. -/
def wrongSettings : String → Option String :=
  fun name => [("FIELD_MANAGER", "operator"), ("CONFLICT_RETRY_ATTEMPTS", " 4294967296"),
    ("HEALTH_PORT", "http")].lookup name

/-- Blanks around a value, a sign and zeros in front of a number are accepted, and
the plain values load the same. Of two that are not accepted the error names the
first. -/
theorem settings_are_loaded :
    load (fun var => spacedSettings var.name) = .ok spacedConfig
    ∧ (∀ again : String → Option String,
        (∀ var, again var.name = some (spacedConfig.written var)) →
          load (fun var => again var.name) = .ok spacedConfig)
    ∧ load (fun var => wrongSettings var.name)
      = .error (.invalidValue .conflictRetryAttempts " 4294967296") := by
  have loaded : load (fun var => spacedSettings var.name) = .ok spacedConfig := by decide
  refine ⟨loaded, ((loading_is_exact spacedSettings).2.2.1 _ loaded).2.2, ?_⟩
  refine ((loading_is_exact wrongSettings).2.2.2 _).mpr
    ⟨[.gatewayClassName, .defaultClusterIssuer, .defaultIpamZone, .fieldManager],
      .conflictRetryAttempts, [.healthPort], " 4294967296", rfl, ?_, by decide, by decide, rfl⟩
  decide

end SharedGateway
