import FabricConfig.Project.Job
import FabricConfig.Proofs.Outcome
/-!
# What a run is asked to do

A run takes each setting from what is given for it, and from the project where nothing is given.
Only then are the settings checked, one after the other: a path of the device database and one of
the design are there, a device is known, a package is a word of letters and digits, and a speed
grade is a number. So a setting of the project that is replaced has no part in the result, not even
as an error.

* `Settings.check_eq_ok_iff`: what settings that are loaded have been checked for.
* `Settings.overriddenBy`: the settings of a run.
* `Job.resolve_eq_ok_iff_isJob`, `Job.resolve_eq_error_iff_stops`: the job that they make, or the
  first check that they fail.
* `Job.resolve_iff_isComplete_and_isJob_and_stops`: all of this, and which settings have a part in
  it.
-/

namespace FabricConfig

namespace Settings

/-! ### Values -/

/-- A digit of ASCII. -/
def IsDigit (c : Char) : Prop := '0' ≤ c ∧ c ≤ '9'

/-- A letter or a digit of ASCII. -/
def IsLetterOrDigit (c : Char) : Prop := 'A' ≤ c ∧ c ≤ 'Z' ∨ 'a' ≤ c ∧ c ≤ 'z' ∨ IsDigit c

/-- A speed grade: one or more digits. -/
def IsSpeed (text : String) : Prop := text ≠ "" ∧ ∀ c ∈ text.toList, IsDigit c

/-- The code of a package: one or more letters and digits. -/
def IsPackage (text : String) : Prop := text ≠ "" ∧ ∀ c ∈ text.toList, IsLetterOrDigit c

theorem between_iff {low high c : Char} :
    (decide (low ≤ c) && decide (c ≤ high)) = true ↔ low ≤ c ∧ c ≤ high := by
  rw [Bool.and_eq_true, decide_eq_true_eq, decide_eq_true_eq]

theorem isDigit_iff {c : Char} : c.isDigit = true ↔ IsDigit c := between_iff

theorem isAlphanum_iff {c : Char} : c.isAlphanum = true ↔ IsLetterOrDigit c := by
  have parts : c.isAlphanum = (c.isUpper || c.isLower || c.isDigit) := rfl
  rw [parts, Bool.or_eq_true, Bool.or_eq_true, or_assoc, isDigit_iff]
  exact or_congr decide_eq_true_iff (or_congr_left between_iff)

theorem isSpeed_iff {text : String} :
    text ≠ "" ∧ text.toList.all Char.isDigit = true ↔ IsSpeed text := by
  simp only [IsSpeed, List.all_eq_true, isDigit_iff]

theorem isPackage_iff {text : String} :
    text ≠ "" ∧ text.toList.all Char.isAlphanum = true ↔ IsPackage text := by
  simp only [IsPackage, List.all_eq_true, isAlphanum_iff]

/-! ### Checks -/

/-- A check of a value that may be absent. It refuses the values that are not of some kind. -/
structure Requires (check : Option String → Except SettingsError Unit) (Good : String → Prop)
    (refusal : String → SettingsError) : Prop where
  absent : check none = .ok ()
  accepted : ∀ text, Good text → check (some text) = .ok ()
  refused : ∀ text, ¬Good text → check (some text) = .error (refusal text)

namespace Requires

variable {check : Option String → Except SettingsError Unit} {Good : String → Prop}
  {refusal : String → SettingsError} {given : Option String} {error : SettingsError}

theorem eq_ok_iff (requires : Requires check Good refusal) :
    check given = .ok () ↔ ∀ text, given = some text → Good text := by
  cases given with
  | none => simp [requires.absent]
  | some text =>
    by_cases good : Good text
    · simp [requires.accepted text good, good]
    · simp [requires.refused text good, good]

theorem eq_error_iff (requires : Requires check Good refusal) :
    check given = .error error ↔ ∃ text, given = some text ∧ ¬Good text ∧ error = refusal text := by
  cases given with
  | none => simp [requires.absent]
  | some text =>
    by_cases good : Good text
    · simp [requires.accepted text good, good]
    · simp [requires.refused text good, good, eq_comm]

end Requires

theorem requires_checkSpeed : Requires checkSpeed IsSpeed .invalidSpeed where
  absent := rfl
  accepted _ good := if_pos (isSpeed_iff.mpr good)
  refused _ bad := if_neg (mt isSpeed_iff.mp bad)

theorem requires_checkPackage : Requires checkPackage IsPackage .invalidPackage where
  absent := rfl
  accepted _ good := if_pos (isPackage_iff.mpr good)
  refused _ bad := if_neg (mt isPackage_iff.mp bad)

variable {given : Option String} {error : SettingsError}

theorem checkVariant_eq_ok_iff {variant : Option Variant} :
    checkVariant given = .ok variant ↔ given.mapM Variant.parse = .ok variant :=
  mapError_eq_ok_iff

theorem exists_mapM_parse_iff :
    (∃ variant, given.mapM Variant.parse = .ok variant) ↔
      ∀ name, given = some name → ∃ known, Variant.parse name = .ok known := by
  cases given with
  | none => exact iff_of_true ⟨none, rfl⟩ nofun
  | some name => exact exists_map_eq_ok_iff.trans (by simp)

theorem checkVariant_eq_error_iff :
    checkVariant given = .error error ↔ ∃ name, given = some name ∧
      Variant.parse name = .error ⟨name⟩ ∧ error = .unknownDevice name := by
  refine mapError_eq_error_iff.trans ?_
  cases given with
  | none => exact iff_of_false nofun nofun
  | some name =>
    constructor
    · rintro ⟨unknown, failed, rfl⟩
      have refused := map_eq_error_iff.mp failed
      obtain rfl := Variant.eq_of_parse_eq_error refused
      exact ⟨name, rfl, refused, rfl⟩
    · rintro ⟨_, same, refused, rfl⟩
      cases same
      exact ⟨⟨name⟩, map_eq_error_iff.mpr refused, rfl⟩

/-! ### Settings of a project -/

variable {settings : Settings}

/-- Settings whose values are all well-formed, so far as there are any. -/
structure IsWellFormed (settings : Settings) : Prop where
  variant : ∀ name, settings.variant = some name → ∃ known, Variant.parse name = .ok known
  package : ∀ package, settings.package = some package → IsPackage package
  speed : ∀ speed, settings.speed = some speed → IsSpeed speed

/-- **Settings are checked for just this when they are loaded.** -/
theorem check_eq_ok_iff : settings.check = .ok () ↔ settings.IsWellFormed := by
  simp only [check, bind_eq_ok_iff, checkVariant_eq_ok_iff, requires_checkSpeed.eq_ok_iff,
    requires_checkPackage.eq_ok_iff]
  constructor
  · rintro ⟨variant, parsed, ⟨⟩, speed, package⟩
    exact ⟨exists_mapM_parse_iff.mp ⟨variant, parsed⟩, package, speed⟩
  · rintro ⟨known, package, speed⟩
    obtain ⟨variant, parsed⟩ := exists_mapM_parse_iff.mpr known
    exact ⟨variant, parsed, (), speed, package⟩

theorem isWellFormed_of_load {text : String} (loaded : load text = .ok settings) :
    settings.IsWellFormed := by
  unfold load at loaded
  split at loaded
  · cases loaded
  · obtain ⟨⟨⟩, checked, rfl⟩ := map_eq_ok_iff.mp loaded
    exact check_eq_ok_iff.mp checked

/-! ### Settings of a run -/

/-- The settings of a run: those given for it, and those of the project where none is given. -/
def overriddenBy (settings : Settings) (overrides : Overrides) : Settings where
  variant := overrides.device.or settings.variant
  package := overrides.package.or settings.package
  speed := overrides.speed.or settings.speed
  database := overrides.database.or settings.database
  design := overrides.design.or settings.design
  output := overrides.output.or settings.output
  metadata := settings.metadata

/-- Settings with which a run can begin. -/
structure IsComplete (settings : Settings) : Prop extends settings.IsWellFormed where
  database : ∃ path, settings.database = some path
  design : ∃ path, settings.design = some path

/-- What a job takes over from settings. -/
structure IsJob (settings : Settings) (job : Job) : Prop where
  database : settings.database = some job.database
  design : settings.design = some job.design
  variant : settings.variant.mapM Variant.parse = .ok job.variant
  package : job.package = settings.package
  speed : job.speed = settings.speed
  output : job.output = settings.output.getD ""
  metadata : job.metadata = settings.metadata

/-- The first check that settings fail, those before it being passed. -/
inductive Stops (settings : Settings) : SettingsError → Prop
  | database (missing : settings.database = none) : Stops settings (.missing "inputs.chipdb")
  | design {database : String} (found : settings.database = some database)
      (missing : settings.design = none) : Stops settings (.missing "inputs.design")
  | variant {database design name : String} (found : settings.database = some database)
      (placed : settings.design = some design) (named : settings.variant = some name)
      (unknown : Variant.parse name = .error ⟨name⟩) : Stops settings (.unknownDevice name)
  | package {database design package : String} (found : settings.database = some database)
      (placed : settings.design = some design)
      (known : ∀ name, settings.variant = some name → ∃ variant, Variant.parse name = .ok variant)
      (given : settings.package = some package) (malformed : ¬IsPackage package) :
      Stops settings (.invalidPackage package)
  | speed {database design speed : String} (found : settings.database = some database)
      (placed : settings.design = some design)
      (known : ∀ name, settings.variant = some name → ∃ variant, Variant.parse name = .ok variant)
      (coded : ∀ package, settings.package = some package → IsPackage package)
      (given : settings.speed = some speed) (malformed : ¬IsSpeed speed) :
      Stops settings (.invalidSpeed speed)

end Settings

theorem requireSetting_eq_ok_iff {field value : String} {given : Option String} :
    requireSetting field given = .ok value ↔ given = some value := by
  cases given <;> simp [requireSetting]

theorem requireSetting_eq_error_iff {field : String} {given : Option String}
    {error : SettingsError} :
    requireSetting field given = .error error ↔ given = none ∧ error = .missing field := by
  cases given <;> simp [requireSetting, eq_comm]

namespace Job

open Settings

variable {settings : Settings} {overrides : Overrides}

/-- **A job is resolved from the settings of the run**, and from nothing else. -/
theorem resolve_eq_resolve_overriddenBy :
    resolve settings overrides = resolve (settings.overriddenBy overrides) {} := by
  simp [resolve, overriddenBy]

theorem resolve_eq_ok_iff_isJob {job : Job} :
    resolve settings overrides = .ok job ↔
      (settings.overriddenBy overrides).IsWellFormed ∧
        (settings.overriddenBy overrides).IsJob job := by
  rw [resolve_eq_resolve_overriddenBy]
  generalize settings.overriddenBy overrides = merged
  simp only [resolve, bind_eq_ok_iff, requireSetting_eq_ok_iff, checkVariant_eq_ok_iff,
    requires_checkPackage.eq_ok_iff, requires_checkSpeed.eq_ok_iff]
  constructor
  · rintro ⟨database, found, design, placed, variant, parsed, ⟨⟩, package, ⟨⟩, speed, ⟨⟩⟩
    have known := exists_mapM_parse_iff.mp ⟨variant, parsed⟩
    exact ⟨⟨known, package, speed⟩, found, placed, parsed, rfl, rfl, rfl, rfl⟩
  · rintro ⟨⟨_, package, speed⟩, ⟨found, placed, parsed, packed, rated, written, noted⟩⟩
    refine ⟨_, found, _, placed, _, parsed, (), package, (), speed, ?_⟩
    refine congrArg Except.ok ?_
    cases job
    rw [Job.mk.injEq]
    exact ⟨rfl, packed.symm, rated.symm, rfl, rfl, written.symm, noted.symm⟩

theorem resolve_eq_error_iff_stops {error : SettingsError} :
    resolve settings overrides = .error error ↔ (settings.overriddenBy overrides).Stops error := by
  rw [resolve_eq_resolve_overriddenBy]
  generalize settings.overriddenBy overrides = merged
  simp only [resolve, bind_eq_error_iff, requireSetting_eq_ok_iff, requireSetting_eq_error_iff,
    checkVariant_eq_ok_iff, checkVariant_eq_error_iff, requires_checkPackage.eq_ok_iff,
    requires_checkPackage.eq_error_iff, requires_checkSpeed.eq_ok_iff,
    requires_checkSpeed.eq_error_iff]
  constructor
  · rintro (⟨missing, rfl⟩ | ⟨_, found, ⟨missing, rfl⟩ | ⟨_, placed, ⟨_, named, unknown, rfl⟩ |
      ⟨_, parsed, ⟨_, given, malformed, rfl⟩ | ⟨⟨⟩, coded, ⟨_, given, malformed, rfl⟩ |
      ⟨_, _, ended⟩⟩⟩⟩⟩)
    · exact .database missing
    · exact .design found missing
    · exact .variant found placed named unknown
    · exact .package found placed (exists_mapM_parse_iff.mp ⟨_, parsed⟩) given malformed
    · exact .speed found placed (exists_mapM_parse_iff.mp ⟨_, parsed⟩) coded given malformed
    · cases ended
  · intro stops
    cases stops with
    | database missing => exact .inl ⟨missing, rfl⟩
    | design found missing => exact .inr ⟨_, found, .inl ⟨missing, rfl⟩⟩
    | variant found placed named unknown =>
      exact .inr ⟨_, found, .inr ⟨_, placed, .inl ⟨_, named, unknown, rfl⟩⟩⟩
    | package found placed known given malformed =>
      obtain ⟨variant, parsed⟩ := exists_mapM_parse_iff.mpr known
      exact .inr ⟨_, found, .inr ⟨_, placed, .inr ⟨variant, parsed,
        .inl ⟨_, given, malformed, rfl⟩⟩⟩⟩
    | speed found placed known coded given malformed =>
      obtain ⟨variant, parsed⟩ := exists_mapM_parse_iff.mpr known
      exact .inr ⟨_, found, .inr ⟨_, placed, .inr ⟨variant, parsed,
        .inr ⟨(), coded, .inl ⟨_, given, malformed, rfl⟩⟩⟩⟩⟩

theorem exists_resolve_eq_ok_iff :
    (∃ job, resolve settings overrides = .ok job) ↔
      (settings.overriddenBy overrides).IsComplete := by
  simp only [resolve_eq_ok_iff_isJob]
  generalize settings.overriddenBy overrides = merged
  constructor
  · rintro ⟨job, formed, isJob⟩
    exact ⟨formed, ⟨_, isJob.database⟩, ⟨_, isJob.design⟩⟩
  · rintro ⟨formed, ⟨database, found⟩, ⟨design, placed⟩⟩
    obtain ⟨variant, parsed⟩ := exists_mapM_parse_iff.mpr formed.variant
    exact ⟨⟨variant, merged.package, merged.speed, database, design, merged.output.getD "",
      merged.metadata⟩, formed, found, placed, parsed, rfl, rfl, rfl, rfl⟩

/-! ### Where a problem comes from -/

/-- Settings that are alike but for those that are given for the run. -/
structure AlikeBut (overrides : Overrides) (settings other : Settings) : Prop where
  variant : overrides.device = none → other.variant = settings.variant
  package : overrides.package = none → other.package = settings.package
  speed : overrides.speed = none → other.speed = settings.speed
  database : overrides.database = none → other.database = settings.database
  design : overrides.design = none → other.design = settings.design
  output : overrides.output = none → other.output = settings.output
  metadata : other.metadata = settings.metadata

theorem or_congr_of_none {given first second : Option String}
    (same : given = none → second = first) : given.or second = given.or first := by
  cases given with
  | none => exact same rfl
  | some value => rfl

theorem AlikeBut.overriddenBy_eq {other : Settings} (alike : AlikeBut overrides settings other) :
    other.overriddenBy overrides = settings.overriddenBy overrides := by
  simp only [overriddenBy, or_congr_of_none alike.variant, or_congr_of_none alike.package,
    or_congr_of_none alike.speed, or_congr_of_none alike.database, or_congr_of_none alike.design,
    or_congr_of_none alike.output, alike.metadata]

/-- A problem that is not one of the settings of the project by themselves: a path is given nowhere,
or what is given for the run is wrong. -/
inductive IsOfRun (settings : Settings) (overrides : Overrides) : SettingsError → Prop
  | database (ungiven : overrides.database = none) (missing : settings.database = none) :
      IsOfRun settings overrides (.missing "inputs.chipdb")
  | design (ungiven : overrides.design = none) (missing : settings.design = none) :
      IsOfRun settings overrides (.missing "inputs.design")
  | variant {name : String} (given : overrides.device = some name)
      (unknown : Variant.parse name = .error ⟨name⟩) :
      IsOfRun settings overrides (.unknownDevice name)
  | package {package : String} (given : overrides.package = some package)
      (malformed : ¬IsPackage package) : IsOfRun settings overrides (.invalidPackage package)
  | speed {speed : String} (given : overrides.speed = some speed) (malformed : ¬IsSpeed speed) :
      IsOfRun settings overrides (.invalidSpeed speed)

theorem isOfRun_of_stops (formed : settings.IsWellFormed) {error : SettingsError}
    (stops : (settings.overriddenBy overrides).Stops error) : IsOfRun settings overrides error := by
  cases stops with
  | database missing =>
    obtain ⟨ungiven, unset⟩ := Option.or_eq_none_iff.mp missing
    exact .database ungiven unset
  | design _ missing =>
    obtain ⟨ungiven, unset⟩ := Option.or_eq_none_iff.mp missing
    exact .design ungiven unset
  | variant _ _ named unknown =>
    obtain given | ⟨-, set⟩ := Option.or_eq_some_iff.mp named
    · exact .variant given unknown
    · obtain ⟨_, known⟩ := formed.variant _ set
      rw [unknown] at known
      cases known
  | package _ _ _ coded malformed =>
    obtain given | ⟨-, set⟩ := Option.or_eq_some_iff.mp coded
    · exact .package given malformed
    · exact absurd (formed.package _ set) malformed
  | speed _ _ _ _ rated malformed =>
    obtain given | ⟨-, set⟩ := Option.or_eq_some_iff.mp rated
    · exact .speed given malformed
    · exact absurd (formed.speed _ set) malformed

/-- **A job is resolved from settings that are taken one by one** from what is given for the run, or
else from the project: it is resolved when both paths are there and every value is well-formed, it
takes over just these values, and otherwise the error is that of the first check. What is replaced
has no part in it. If the settings of the project have been loaded, the error is not theirs. -/
theorem resolve_iff_isComplete_and_isJob_and_stops (settings : Settings) (overrides : Overrides) :
    ((∃ job, resolve settings overrides = .ok job) ↔
      (settings.overriddenBy overrides).IsComplete) ∧
    (∀ job, resolve settings overrides = .ok job ↔
      (settings.overriddenBy overrides).IsWellFormed ∧
        (settings.overriddenBy overrides).IsJob job) ∧
    (∀ error, resolve settings overrides = .error error ↔
      (settings.overriddenBy overrides).Stops error) ∧
    (∀ other, AlikeBut overrides settings other →
      resolve other overrides = resolve settings overrides) ∧
    ∀ text, load text = .ok settings → ∀ error, resolve settings overrides = .error error →
      IsOfRun settings overrides error := by
  refine ⟨exists_resolve_eq_ok_iff, fun _ => resolve_eq_ok_iff_isJob,
    fun _ => resolve_eq_error_iff_stops, ?_, ?_⟩
  · intro other alike
    rw [resolve_eq_resolve_overriddenBy, alike.overriddenBy_eq, ← resolve_eq_resolve_overriddenBy]
  · intro text loaded error failed
    exact isOfRun_of_stops (isWellFormed_of_load loaded) (resolve_eq_error_iff_stops.mp failed)

/-- Settings of a project that names a device, a speed grade and both paths. -/
def counter : Settings where
  variant := some "1200HC"
  speed := some "4"
  database := some "db.json"
  design := some "top.json"
  metadata := ["rev A"]

/-- These settings as a text. -/
def counterText : String :=
  "device.variant = '1200HC'\ndevice.speed = '4'\n[inputs]\nchipdb = 'db.json'\n" ++
    "design = 'top.json'\n[bitstream]\nmetadata = ['rev A']\n"

theorem resolve_counter :
    load counterText = .ok counter ∧
      resolve counter { speed := some "-1" } = .error (.invalidSpeed "-1") ∧
      IsOfRun counter { speed := some "-1" } (.invalidSpeed "-1") ∧
      resolve { counter with speed := some "fast" } { speed := some "-1" } =
        resolve counter { speed := some "-1" } := by
  have loaded : load counterText = .ok counter := eq_ok_of_toOption (by decide +kernel)
  have failed : resolve counter { speed := some "-1" } = .error (.invalidSpeed "-1") := by rfl
  obtain ⟨-, -, -, alike, ofRun⟩ :=
    resolve_iff_isComplete_and_isJob_and_stops counter { speed := some "-1" }
  exact ⟨loaded, failed, ofRun _ loaded _ failed,
    alike _ ⟨fun _ => rfl, fun _ => rfl, nofun, fun _ => rfl, fun _ => rfl, fun _ => rfl, rfl⟩⟩

end Job

end FabricConfig
