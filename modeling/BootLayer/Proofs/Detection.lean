import Mathlib.Data.List.Infix
import BootLayer.Proofs.Effects

/-!
The environment that is detected, reported and bound.

* `occursIn_iff`: the marker is found exactly where it stands in the identity.
* `identity_iff`: the identity that counts, by its four sources in their order.
* `reportNames_iff`: the report of `detect` names the environment that is detected, and no other.
* `detect_agrees_with_bootstrap`: the report, the handle and the primitive commands go by the same
  environment, whatever the shell of the host does.
-/

namespace BootLayer

/-! ### Detection -/

/-- The marker is found exactly where it stands in the text. -/
lemma Environment.occursIn_iff (marker text : List Char) :
    occursIn marker text = true ↔ marker <:+: text := by
  induction text with
  | nil => simp [occursIn]
  | cons c rest ih =>
      rw [occursIn, Bool.or_eq_true, ih, List.isPrefixOf_iff_prefix, List.infix_cons_iff]

/-- The identity holds the marker, which is not empty. -/
def HoldsMarker (identity marker : String) : Prop :=
  marker ≠ "" ∧ ∃ before after, identity = before ++ marker ++ after

lemma Environment.detect_eq_selfHosted_iff {identity marker : String} :
    detect identity marker = .selfHosted ↔ HoldsMarker identity marker := by
  have hinfix : marker.toList <:+: identity.toList ↔
      ∃ before after, identity = before ++ marker ++ after := by
    constructor
    · rintro ⟨before, after, h⟩
      refine ⟨String.ofList before, String.ofList after, String.toList_inj.1 ?_⟩
      simp [← h]
    · rintro ⟨before, after, rfl⟩
      exact ⟨before.toList, after.toList, by simp⟩
  rw [HoldsMarker, ← hinfix, ← occursIn_iff, detect]
  split <;> simp_all

/-- The identity that counts: the explicit one, else that of the variable unless it is empty, else
the configured one, else that of the host. -/
inductive Identity (config : Config) : Option String → Option String → String → Prop where
  | explicit (identity : String) (set : Option String) :
      Identity config (some identity) set identity
  | set {identity : String} (h : identity ≠ "") : Identity config none (some identity) identity
  | configured {identity : String} {set : Option String} (hset : set = none ∨ set = some "")
      (h : config.identity = some identity) : Identity config none set identity
  | host {set : Option String} (hset : set = none ∨ set = some "") (h : config.identity = none) :
      Identity config none set hostIdentity

lemma resolveIdentity_set (config : Config) {identity : String} (h : identity ≠ "") :
    config.resolveIdentity none (some identity) = identity := by
  simp [Config.resolveIdentity, Option.filter, h]

lemma resolveIdentity_unset (config : Config) {set : Option String}
    (h : set = none ∨ set = some "") :
    config.resolveIdentity none set = config.identity.getD hostIdentity := by
  rcases h with rfl | rfl <;> simp [Config.resolveIdentity, Option.filter]

/-- The identity that counts is the one that is resolved. -/
lemma identity_iff {config : Config} {explicit set : Option String} {identity : String} :
    Identity config explicit set identity ↔ config.resolveIdentity explicit set = identity := by
  constructor
  · intro h
    cases h with
    | explicit identity set => rfl
    | set h => exact resolveIdentity_set config h
    | configured hset h => rw [resolveIdentity_unset config hset, h, Option.getD_some]
    | host hset h => rw [resolveIdentity_unset config hset, h, Option.getD_none]
  · rintro rfl
    cases explicit with
    | some identity => exact .explicit identity set
    | none =>
        by_cases hset : set = none ∨ set = some ""
        · rw [resolveIdentity_unset config hset]
          cases hconfig : config.identity with
          | some identity => exact .configured hset hconfig
          | none => exact .host hset hconfig
        · obtain ⟨hnone, hempty⟩ := not_or.1 hset
          obtain ⟨identity, rfl⟩ := Option.ne_none_iff_exists'.1 hnone
          have hidentity : identity ≠ "" := fun h => hempty (congrArg some h)
          rw [resolveIdentity_set config hidentity]
          exact .set hidentity

lemma environmentIn_eq_selfHosted_iff {world : World} {config : Config} {explicit : Option String}
    {identity : String}
    (h : Identity config explicit (world.setting? Handle.identityVariable) identity) :
    Handle.environmentIn world config explicit = .selfHosted ↔
      HoldsMarker identity config.marker := by
  rw [Handle.environmentIn, Handle.identityIn, identity_iff.1 h,
    Environment.detect_eq_selfHosted_iff]

/-! ### The handle -/

/-- How a handle is bound with or without a supplied object, in the self-hosted environment or in
the other one, which is the host with a shell. -/
structure BindsBy {ι : Type} (shell : Shell.Runner) (selfHosted : Prop)
    (bind : Option (Primitives (World × ι)) → Except Error (Handle ι)) : Prop where
  /-- Binding fails exactly in the self-hosted environment without an object. -/
  fails_iff : ∀ supplied,
    (∃ words, bind supplied = .error (.runtime words)) ↔ selfHosted ∧ supplied = none
  /-- In the self-hosted environment every operation is passed on to the object. -/
  forwards : selfHosted → ∀ object, ∃ handle, bind (some object) = .ok handle ∧
    handle.environment = .selfHosted ∧
    ∀ ops s, handle.respond.run ops s = object.respond.run ops s
  /-- In the other one the handle is the same whatever is supplied.  It does what the host does, and
  leaves the state of an object alone. -/
  ignores : ¬selfHosted → ∃ handle, (∀ supplied, bind supplied = .ok handle) ∧
    handle.environment = .host ∧
    ∀ ops world i, handle.respond.run ops (world, i) =
      (((Host.primitivesBy shell).respond.run ops world).1,
        (((Host.primitivesBy shell).respond.run ops world).2, i))

lemma bindsBy_bootstrap (shell : Shell.Runner) (ι : Type) (world : World) (config : Config)
    (explicit : Option String) :
    BindsBy shell (Handle.environmentIn world config explicit = .selfHosted)
      fun supplied => Handle.bootstrap (ι := ι) world config explicit supplied shell := by
  cases henv : Handle.environmentIn world config explicit with
  | host =>
      have hbind : ∀ supplied : Option (Primitives (World × ι)),
          Handle.bootstrap world config explicit supplied shell = .ok (.hostBy shell) := by
        intro supplied
        simp only [Handle.bootstrap, henv, Handle.select]
      refine ⟨fun supplied => ?_, fun h => absurd h (by decide),
        fun _ => ⟨.hostBy shell, hbind, rfl, Handle.run_hostBy shell⟩⟩
      simp [hbind]
  | selfHosted =>
      have hnone : Handle.bootstrap (ι := ι) world config explicit none shell =
          .error Handle.noObject := by
        simp only [Handle.bootstrap, henv, Handle.select]
      have hsome : ∀ object : Primitives (World × ι),
          Handle.bootstrap world config explicit (some object) shell =
            .ok (.selfHosted object) := by
        intro object
        simp only [Handle.bootstrap, henv, Handle.select]
      refine ⟨fun supplied => ?_, fun _ object => ⟨.selfHosted object, hsome object, rfl, ?_⟩,
        fun h => absurd rfl h⟩
      · cases supplied with
        | none => simp [hnone, Handle.noObject]
        | some object => simp [hsome]
      · exact Handle.run_selfHosted object

namespace CommandLine

/-! ### The report -/

/-- The line of a report that names an environment, with the line break before it. -/
def environmentLine (style : Style) (environment : Environment) : String :=
  "\n" ++ style.gray "environment:" ++ " " ++ style.bold environment.name

/-- The last line of the report names the environment. -/
def ReportNames (style : Style) (report : String) (environment : Environment) : Prop :=
  ∃ lines, report = lines ++ environmentLine style environment

/-- No report names both environments. -/
lemma not_reportNames_host {style : Style} {report : String}
    (h : ReportNames style report .selfHosted) : ¬ReportNames style report .host := by
  rintro ⟨lines', hhost⟩
  obtain ⟨lines, hself⟩ := h
  have hsuffix : (environmentLine style .host).toList <:+ report.toList :=
    ⟨lines'.toList, by rw [hhost, String.toList_append]⟩
  have hsuffix' : (environmentLine style .selfHosted).toList <:+ report.toList :=
    ⟨lines.toList, by rw [hself, String.toList_append]⟩
  obtain ⟨_ | _⟩ := style
  · exact absurd (List.suffix_of_suffix_length_le hsuffix hsuffix' (by decide +kernel))
      (by decide +kernel)
  · exact absurd (List.suffix_of_suffix_length_le hsuffix hsuffix' (by decide +kernel))
      (by decide +kernel)

/-- **The report names the environment that is detected, and no other.** -/
lemma reportNames_iff (world : World) (config : Config) (explicit : Option String)
    (environment : Environment) :
    ReportNames (Style.ofWorld world) (detectReport world config explicit) environment ↔
      Handle.environmentIn world config explicit = environment := by
  have hnames : ReportNames (Style.ofWorld world) (detectReport world config explicit)
      (Handle.environmentIn world config explicit) := by
    refine ⟨(Style.ofWorld world).gray "identity:" ++ " " ++
      Handle.identityIn world config explicit ++ "\n" ++ (Style.ofWorld world).gray "marker:" ++
      " " ++ config.marker, ?_⟩
    simp only [detectReport, environmentLine, String.append_assoc]
  refine ⟨fun h => ?_, fun h => h ▸ hnames⟩
  cases hfound : Handle.environmentIn world config explicit with
  | host =>
      rw [hfound] at hnames
      cases environment with
      | host => rfl
      | selfHosted => exact absurd hnames (not_reportNames_host h)
  | selfHosted =>
      rw [hfound] at hnames
      cases environment with
      | host => exact absurd h (not_reportNames_host hnames)
      | selfHosted => rfl

/-! ### Commands -/

section

variable {path source identity : Option String} {config : Config} {world : World}

/-- On the host there is a primitive command that succeeds. -/
lemma executeBy_argv_of_host (h : loadConfig world path = .ok (source, config))
    (henv : Handle.environmentIn world config identity = .host) (shell : Shell.Runner)
    (verbose : Bool) :
    ∃ outcome, (executeBy shell ⟨path, identity, verbose, .primitive .argv⟩ world).1 =
      .ok outcome := by
  rw [executeBy_of_host h henv, run_hostBy rfl]
  exact ⟨_, rfl⟩

/-- The command fails for want of an object, whatever the shell does, and before anything runs. -/
structure LacksObject (invocation : Invocation) (world : World) : Prop where
  fails : ∀ shell, (executeBy shell invocation world).1 = .error (.primitive Handle.noObject)
  trace : LeavesNoTrace invocation world

lemma lacksObject_of_selfHosted (h : loadConfig world path = .ok (source, config))
    (henv : Handle.environmentIn world config identity = .selfHosted) (verbose : Bool)
    (command : PrimitiveCommand) :
    LacksObject ⟨path, identity, verbose, .primitive command⟩ world := by
  have hexec := executeBy_of_selfHosted h henv verbose command
  refine ⟨fun shell => ?_, ?_, fun shell => ?_⟩
  · rw [hexec]
  · rw [execute, hexec]
  · rw [execute, hexec, hexec]

end

/-- `detect` reports the self-hosted environment exactly where all primitive commands lack an
object. -/
lemma reports_selfHosted_iff (shell : Shell.Runner) (path identity : Option String)
    (verbose : Bool) (world : World) :
    (∃ report, (executeBy shell ⟨path, identity, verbose, .detect⟩ world).1 =
        .ok (.text report) ∧
      ReportNames (Style.ofWorld world) report .selfHosted) ↔
    ∀ command, LacksObject ⟨path, identity, verbose, .primitive command⟩ world := by
  cases hload : loadConfig world path with
  | error fault =>
      refine iff_of_false ?_ fun h => ?_
      · rintro ⟨report, hreport, -⟩
        rw [executeBy_of_unreadable hload] at hreport
        cases hreport
      · have hfails := (h .argv).fails shell
        rw [executeBy_of_unreadable hload] at hfails
        cases hfails
  | ok found =>
      obtain ⟨source, config⟩ := found
      rw [executeBy_detect hload]
      cases henv : Handle.environmentIn world config identity with
      | host =>
          refine iff_of_false ?_ fun h => ?_
          · rintro ⟨report, hreport, hnames⟩
            cases hreport
            rw [reportNames_iff, henv] at hnames
            cases hnames
          · obtain ⟨outcome, hok⟩ := executeBy_argv_of_host hload henv shell verbose
            rw [(h .argv).fails] at hok
            cases hok
      | selfHosted =>
          refine iff_of_true ⟨_, rfl, ?_⟩ (lacksObject_of_selfHosted hload henv verbose)
          rw [reportNames_iff, henv]

/-- **Detection, report and binding agree.**  Whatever the configuration, the explicit identity and
the variables of the world, there is one identity that counts.  The report names the self-hosted
environment exactly if this identity holds the marker, and otherwise the host; the handle is bound
by the same condition; and a command line for `detect` reports the self-hosted environment exactly
if every primitive command with the same options fails for want of an object, before anything
runs.  All of this holds with any shell. -/
theorem detect_agrees_with_bootstrap (world : World) (explicit : Option String) :
    (∀ config : Config, ∃ identity,
      Identity config explicit (world.setting? Handle.identityVariable) identity ∧
      (ReportNames (Style.ofWorld world) (detectReport world config explicit) .selfHosted ↔
        HoldsMarker identity config.marker) ∧
      (ReportNames (Style.ofWorld world) (detectReport world config explicit) .host ↔
        ¬HoldsMarker identity config.marker) ∧
      ∀ (shell : Shell.Runner) (ι : Type), BindsBy shell (HoldsMarker identity config.marker)
        fun supplied => Handle.bootstrap (ι := ι) world config explicit supplied shell) ∧
    ∀ (shell : Shell.Runner) (path : Option String) (verbose : Bool),
      (∃ report, (executeBy shell ⟨path, explicit, verbose, .detect⟩ world).1 =
          .ok (.text report) ∧
        ReportNames (Style.ofWorld world) report .selfHosted) ↔
      ∀ command, LacksObject ⟨path, explicit, verbose, .primitive command⟩ world := by
  refine ⟨fun config => ?_,
    fun shell path verbose => reports_selfHosted_iff shell path explicit verbose world⟩
  let set := world.setting? Handle.identityVariable
  have hidentity : Identity config explicit set (config.resolveIdentity explicit set) :=
    identity_iff.2 rfl
  have hself := environmentIn_eq_selfHosted_iff hidentity
  refine ⟨_, hidentity, ?_, ?_, fun shell ι => ?_⟩
  · rw [reportNames_iff, hself]
  · rw [reportNames_iff, ← hself]
    cases Handle.environmentIn world config explicit <;> simp
  · rw [← hself]
    exact bindsBy_bootstrap shell ι world config explicit

end CommandLine

end BootLayer
