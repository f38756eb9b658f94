import FabricConfig.Proofs.CommandLine.Findings
import FabricConfig.Proofs.Generation.Safety
/-!
# Stages of a run

A run takes its job from the settings, then the database and the design from their files, and then
generates the configuration and writes it. Each stage gives what the next one needs, or it ends the
run with one error.

* `Answers`: what the files of a run have to say.
* `Answers.Ready`, `Answers.FirstFailure`: the stages of a run, all that read or up to a failure.
* `decides_resolve`, `decides_loadDatabase`, `decides_loadDesign`: the stages that read.
-/

namespace FabricConfig

/-- The device of a job: the one described, in the package and of the speed grade asked for. -/
def Job.device (job : Job) (db : Database) : Database :=
  { db with
    package := job.package.getD db.package
    speed := job.speed.getD db.speed }

/-- Whether a device is of the variant that a job asks for, if it asks for one. -/
def Job.Fits (job : Job) (db : Database) : Prop :=
  ∀ variant, job.variant = some variant → variant = db.variant

/-- The document of a job: the one generated, with the lines of the job after its own. -/
def Job.document (job : Job) (generated : Document) : Document :=
  { generated with metadata := generated.metadata ++ job.metadata }

namespace CommandLine

/-! ### Stages -/

/-- What the files of a run have to say. -/
structure Answers where
  settings : Except SettingsError Settings
  /-- What reading the file at a path gives. -/
  text : String → Except FileError String
  /-- What writing a text to the file at a path gives. -/
  written : String → String → Except FileError Unit

namespace Answers

/-- The job that settings and overrides make. -/
def HasJob (answers : Answers) (overrides : Overrides) (job : Job) : Prop :=
  ∃ settings, answers.settings = .ok settings ∧ Job.resolve settings overrides = .ok job

/-- The device that the database of a job describes. -/
def HasDatabase (answers : Answers) (job : Job) (db : Database) : Prop :=
  ∃ text, answers.text job.database = .ok text ∧ Database.load text = .ok db

/-- The design of a job, on the device of the job. -/
def HasDesign (answers : Answers) (job : Job) (db : Database) (design : Design) : Prop :=
  ∃ text, answers.text job.design = .ok text ∧ Design.load (job.device db) text = .ok design

/-- The inputs of a run, all of them there. -/
structure Ready (answers : Answers) (overrides : Overrides) (job : Job) (db : Database)
    (design : Design) : Prop where
  given : answers.HasJob overrides job
  loaded : answers.HasDatabase job db
  fits : job.Fits db
  designed : answers.HasDesign job db design

/-- The first stage that fails, by the code of its error. -/
inductive FirstFailure (answers : Answers) (overrides : Overrides) : Code → Prop
  | settings (none : ∀ job, ¬ answers.HasJob overrides job) :
      FirstFailure answers overrides ⟨.config, 101⟩
  | database {job : Job} (given : answers.HasJob overrides job)
      (none : ∀ db, ¬ answers.HasDatabase job db) : FirstFailure answers overrides ⟨.device, 201⟩
  | variant {job : Job} {db : Database} (given : answers.HasJob overrides job)
      (loaded : answers.HasDatabase job db) (other : ¬ job.Fits db) :
      FirstFailure answers overrides ⟨.device, 202⟩
  | design {job : Job} {db : Database} (given : answers.HasJob overrides job)
      (loaded : answers.HasDatabase job db) (fits : job.Fits db)
      (none : ∀ design, ¬ answers.HasDesign job db design) :
      FirstFailure answers overrides ⟨.design, 301⟩
  | support {job : Job} {db : Database} {design : Design}
      (ready : answers.Ready overrides job db design)
      (unsupported : db.variant.isSupported = false) :
      FirstFailure answers overrides ⟨.bitstream, 502⟩
  | generation {job : Job} {db : Database} {design : Design}
      {error : GenerationError} (ready : answers.Ready overrides job db design)
      (supported : db.variant.isSupported = true)
      (failed : (generate (job.device db) design).2 = .error (.error error)) :
      FirstFailure answers overrides ⟨.bitstream, 505⟩
  | writing {job : Job} {db : Database} {design : Design} {generated : Document}
      {reason : FileError} (ready : answers.Ready overrides job db design)
      (made : (generate (job.device db) design).2 = .ok generated) (named : job.output ≠ "")
      (failed : answers.written job.output (job.document generated).toText = .error reason) :
      FirstFailure answers overrides ⟨.bitstream, 505⟩

/-- A stage gives what it is to give, or it ends the run with the error of the first failure. -/
def Decides {α : Type} (answers : Answers) (overrides : Overrides) (Holds : α → Prop) :
    Except Diagnostic α → Prop
  | .ok value => Holds value
  | .error diagnostic =>
    diagnostic.severity = .error ∧ answers.FirstFailure overrides diagnostic.code

variable {answers : Answers} {overrides : Overrides} {job : Job} {db : Database}

theorem decides_loadDatabase (given : answers.HasJob overrides job) :
    answers.Decides overrides (fun device => ∃ db, answers.HasDatabase job db ∧ job.Fits db ∧
      job.device db = device) (loadDatabase job (answers.text job.database)) := by
  unfold loadDatabase
  cases read : answers.text job.database with
  | error reason =>
    refine ⟨rfl, .database given ?_⟩
    rintro db ⟨text, found, _⟩
    cases read.symm.trans found
  | ok text =>
    dsimp only
    cases loaded : Database.load text with
    | error error =>
      refine ⟨rfl, .database given ?_⟩
      rintro db ⟨text', found, loaded'⟩
      cases read.symm.trans found
      cases loaded.symm.trans loaded'
    | ok db =>
      have described : answers.HasDatabase job db := ⟨text, read, loaded⟩
      dsimp only
      cases other : job.variant.filter (· ≠ db.variant) with
      | some expected =>
        obtain ⟨asked, differs⟩ := Option.filter_eq_some_iff.mp other
        exact ⟨rfl, .variant given described fun fits => of_decide_eq_true differs (fits _ asked)⟩
      | none =>
        refine ⟨db, described, fun variant asked => ?_, rfl⟩
        simpa using Option.filter_eq_none_iff.mp other variant asked

theorem decides_loadDesign (given : answers.HasJob overrides job)
    (loaded : answers.HasDatabase job db) (fits : job.Fits db) :
    answers.Decides overrides (answers.HasDesign job db)
      (loadDesign job (job.device db) (answers.text job.design)) := by
  unfold loadDesign
  cases read : answers.text job.design with
  | error reason =>
    refine ⟨rfl, .design given loaded fits ?_⟩
    rintro design ⟨text, found, _⟩
    cases read.symm.trans found
  | ok text =>
    dsimp only
    cases listed : Design.load (job.device db) text with
    | error error =>
      refine ⟨rfl, .design given loaded fits ?_⟩
      rintro design ⟨text', found, listed'⟩
      cases read.symm.trans found
      cases listed.symm.trans listed'
    | ok design => exact ⟨text, read, listed⟩

theorem decides_resolve (answers : Answers) (overrides : Overrides) :
    answers.Decides overrides (answers.HasJob overrides)
      ((answers.settings.bind (Job.resolve · overrides)).mapError settingsDiagnostic) := by
  cases given : answers.settings with
  | error error =>
    refine ⟨rfl, .settings ?_⟩
    rintro job ⟨settings, found, _⟩
    cases given.symm.trans found
  | ok settings =>
    show Decides _ _ _ ((Job.resolve settings overrides).mapError settingsDiagnostic)
    cases resolved : Job.resolve settings overrides with
    | error error =>
      refine ⟨rfl, .settings ?_⟩
      rintro job ⟨settings', found, resolved'⟩
      cases given.symm.trans found
      cases resolved.symm.trans resolved'
    | ok job => exact ⟨settings, given, resolved⟩

/-- What is loaded is sound, on the device of the job as on the one described. -/
theorem Ready.sound {design : Design} (ready : answers.Ready overrides job db design) :
    (job.device db).IsSound ∧ design.IsSound (job.device db) := by
  obtain ⟨_, _, loaded⟩ := ready.loaded
  obtain ⟨_, _, listed⟩ := ready.designed
  have sound := Database.isSound_of_load loaded
  exact ⟨⟨sound.size, sound.ends⟩, Design.isSound_of_load listed⟩

end Answers

end CommandLine

end FabricConfig
