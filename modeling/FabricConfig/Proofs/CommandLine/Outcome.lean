import FabricConfig.Proofs.CommandLine.Files
import FabricConfig.Proofs.CommandLine.Stages
import FabricConfig.Proofs.Generation.Exactness
/-!
# How a run ends

A run either writes the configuration that it was asked for, or it tells of one error and changes
nothing. The error is that of the first stage that fails, and the flags that say how much is told,
and in which form, have no part in it.

* `Answers.Ends`: how the work of a run ends.
* `ends_produce`, `ends_perform`, `ends_build`: the stage that writes, and with it all others.
* `run_succeeds_or_fails`: a whole run.
-/

namespace FabricConfig

namespace CommandLine

section Files

variable {State Place : Type} {files : FileAccess (StateM State)} {view : FileView State Place}

/-- What files answer in a state. -/
def Answers.of (files : FileAccess (StateM State)) (options : GlobalOptions) (state : State) :
    Answers where
  settings := ((loadSettings files options.settings).run state).1
  text path := ((files.read path).run state).1
  written path text := ((files.write path text).run state).1

/-! ### Actions -/

/-- An action that leaves the files as they are. -/
def Keeps {α : Type} (action : StateM State α) : Prop := ∀ state, (action.run state).2 = state

theorem keeps_pure {α : Type} (value : α) : Keeps (pure value : StateM State α) := fun _ => rfl

theorem eq_mk_of_snd_eq {α β : Type} {pair : α × β} {second : β} (same : pair.2 = second) :
    pair = (pair.1, second) :=
  Prod.ext rfl same

/-- One action and then another. -/
theorem run_bind_of_eq {α β : Type} {first : StateM State α} {next : α → StateM State β}
    {before middle : State} {value : α} (ran : first.run before = (value, middle)) :
    (first >>= next).run before = (next value).run middle := by
  show (next (first.run before).1).run (first.run before).2 = _
  rw [ran]

theorem keeps_bind {α β : Type} {first : StateM State α} {next : α → StateM State β}
    (kept : Keeps first) (after : ∀ value, Keeps (next value)) : Keeps (first >>= next) := by
  intro state
  rw [run_bind_of_eq (eq_mk_of_snd_eq (kept state))]
  exact after _ state

theorem keeps_loadSettings (faithful : files.IsFaithful view) (settings? : Option String) :
    Keeps (loadSettings files settings?) := by
  have file : ∀ path, Keeps (loadSettingsFile files path) := fun path =>
    keeps_bind (faithful.read path) fun text => by cases text <;> exact keeps_pure _
  cases settings? with
  | none =>
    refine keeps_bind (faithful.isFile _) fun there => ?_
    cases there
    · exact keeps_pure _
    · exact file _
  | some path =>
    refine keeps_bind (faithful.isDirectory _) fun directory => ?_
    cases directory
    · exact file _
    · refine keeps_bind (faithful.isFile _) fun there => ?_
      cases there
      · exact keeps_pure _
      · exact file _

theorem keeps_resolveJob (faithful : files.IsFaithful view) (options : GlobalOptions)
    (overrides : Overrides) : Keeps (resolveJob files options overrides) :=
  keeps_bind (keeps_loadSettings faithful options.settings) fun _ => keeps_pure _

/-! ### The work of a run -/

/-- What a run that is ready leaves in the files: the document of its job at the path given, or
nothing if the path is empty. -/
def Answers.Makes (answers : Answers) (overrides : Overrides) (view : FileView State Place)
    (job : Job) (before after : State) : Prop :=
  ∃ db design generated, answers.Ready overrides job db design ∧
    (generate (job.device db) design).2 = .ok generated ∧
    generated.metadata = ["Part: " ++ (job.device db).partName] ∧
    (job.output = "" → after = before) ∧
    (job.output ≠ "" → view.Wrote job.output (job.document generated).toText before after)

/-- How the work of a run ends: without an error, or with that of the first failure and with the
files as they were. -/
def Answers.Ends (answers : Answers) (overrides : Overrides) (view : FileView State Place)
    (before : State) (log : Log) (after : State) : Option Job → Prop
  | some job => log.errors = [] ∧ answers.Makes overrides view job before after
  | none =>
    (∃ diagnostic, log.errors = [diagnostic] ∧
      answers.FirstFailure overrides diagnostic.code) ∧ after = before

variable {options : GlobalOptions} {overrides : Overrides} {state : State} {job : Job}
  {db : Database} {design : Design}

theorem ends_failed {answers : Answers} {diagnostic : Diagnostic}
    (decided : diagnostic.severity = .error ∧ answers.FirstFailure overrides diagnostic.code) :
    answers.Ends overrides view state [diagnostic] state none :=
  ⟨⟨diagnostic, by simp [Log.errors, decided.1], decided.2⟩, rfl⟩

theorem run_writeDocument (files : FileAccess (StateM State)) (path : String)
    (document : Document) (state : State) :
    (writeDocument files path document).run state =
      if path = "" then (.ok false, state)
      else (((files.write path document.toText).run state).1.map fun () => true,
        ((files.write path document.toText).run state).2) := by
  unfold writeDocument
  split <;> rfl

theorem run_produce_of_error {log : Log} {failure : Failure}
    (failed : generate db design = (log, .error failure)) :
    (produce files job db design).run state = ((log ++ failureLog failure, none), state) := by
  rw [produce, failed]
  rfl

theorem run_produce_of_written {log : Log} {generated : Document} {written : Bool} {after : State}
    (made : generate db design = (log, .ok generated))
    (stored : (writeDocument files job.output (job.document generated)).run state =
      (.ok written, after)) :
    (produce files job db design).run state =
      ((log, some ⟨job.document generated, written⟩), after) := by
  rw [produce, made]
  exact run_bind_of_eq stored

theorem run_produce_of_unwritable {log : Log} {generated : Document} {reason : FileError}
    {after : State} (made : generate db design = (log, .ok generated))
    (stored : (writeDocument files job.output (job.document generated)).run state =
      (.error reason, after)) :
    (produce files job db design).run state =
      ((log ++ [failureDiagnostic (GenerationError.unwritable reason).message], none), after) := by
  rw [produce, made]
  exact run_bind_of_eq stored

/-- What is generated ends up at the path given, if there is one and it can be written. -/
theorem ends_produce_of_ok (faithful : files.IsFaithful view) {generated : Document}
    (ready : (Answers.of files options state).Ready overrides job db design)
    (made : (generate (job.device db) design).2 = .ok generated) :
    let ended := (produce files job (job.device db) design).run state
    (Answers.of files options state).Ends overrides view state ended.1.1 ended.2
      (ended.1.2.map fun _ => job) := by
  have generates := eq_mk_of_snd_eq made
  obtain ⟨_, silent⟩ := (errors_generate (job.device db) design).1 generated made
  have comments := (isConfiguration_of_generate ready.sound.1 made).metadata
  have stored := run_writeDocument files job.output (job.document generated) state
  dsimp only
  by_cases empty : job.output = ""
  · rw [if_pos empty] at stored
    rw [run_produce_of_written generates stored]
    exact ⟨silent, db, design, generated, ready, made, comments, fun _ => rfl,
      fun named => absurd empty named⟩
  · rw [if_neg empty] at stored
    cases written : ((files.write job.output (job.document generated).toText).run state).1 with
    | ok done =>
      rw [written] at stored
      rw [run_produce_of_written generates stored]
      exact ⟨silent, db, design, generated, ready, made, comments,
        fun named => absurd named empty, fun _ => faithful.write _ _ _ written⟩
    | error reason =>
      have kept := faithful.failedWrite _ _ _ _ written
      rw [written, kept] at stored
      rw [run_produce_of_unwritable generates stored]
      refine ⟨⟨failureDiagnostic (GenerationError.unwritable reason).message, ?_,
        .writing ready made empty written⟩, rfl⟩
      rw [Log.errors_append, silent]
      rfl

/-- What generation tells of when it fails is the one error of the run. -/
theorem ends_produce_of_error {error : GenerationError}
    (ready : (Answers.of files options state).Ready overrides job db design)
    (failed : (generate (job.device db) design).2 = .error (.error error)) :
    let ended := (produce files job (job.device db) design).run state
    (Answers.of files options state).Ends overrides view state ended.1.1 ended.2
      (ended.1.2.map fun _ => job) := by
  obtain ⟨diagnostic, told, code⟩ := (errors_generate (job.device db) design).2 _ failed
  dsimp only
  rw [run_produce_of_error (eq_mk_of_snd_eq failed)]
  have same : (job.device db).variant = db.variant := rfl
  refine ⟨⟨diagnostic, told, ?_⟩, rfl⟩
  rw [code, same]
  cases supported : db.variant.isSupported with
  | false => exact .support ready supported
  | true => exact .generation ready supported failed

/-- **The stage that writes.** -/
theorem ends_produce (faithful : files.IsFaithful view)
    (ready : (Answers.of files options state).Ready overrides job db design) :
    let ended := (produce files job (job.device db) design).run state
    (Answers.of files options state).Ends overrides view state ended.1.1 ended.2
      (ended.1.2.map fun _ => job) := by
  -- Generation has no fault to tell of, since what is loaded is sound.
  obtain ⟨sound, designSound⟩ := ready.sound
  rcases outcome_of_isSafe_planDesign (isSafe_planDesign sound designSound) with
    ⟨_, made⟩ | ⟨_, failed⟩
  · exact ends_produce_of_ok faithful ready made
  · exact ends_produce_of_error ready failed

/-- **All stages of a run.** -/
theorem ends_perform (faithful : files.IsFaithful view)
    (given : (Answers.of files options state).HasJob overrides job) :
    let ended := (perform files job).run state
    (Answers.of files options state).Ends overrides view state ended.1.1 ended.2
      (ended.1.2.map fun _ => job) := by
  have described := Answers.decides_loadDatabase given
  have read : ∀ path, (files.read path).run state =
      ((Answers.of files options state).text path, state) :=
    fun path => eq_mk_of_snd_eq (faithful.read path state)
  dsimp only
  rw [perform, run_bind_of_eq (read job.database)]
  cases loaded : loadDatabase job ((Answers.of files options state).text job.database) with
  | error diagnostic =>
    rw [loaded] at described
    exact ends_failed described
  | ok device =>
    rw [loaded] at described
    obtain ⟨db, hasDatabase, fits, rfl⟩ := described
    have designed := Answers.decides_loadDesign given hasDatabase fits
    dsimp only
    rw [run_bind_of_eq (read job.design)]
    cases listed : loadDesign job (job.device db)
        ((Answers.of files options state).text job.design) with
    | error diagnostic =>
      rw [listed] at designed
      exact ends_failed designed
    | ok design =>
      rw [listed] at designed
      exact ends_produce faithful ⟨given, hasDatabase, fits, designed⟩

theorem ends_build (faithful : files.IsFaithful view) (options : GlobalOptions)
    (overrides : Overrides) (state : State) :
    let ended := (build files options overrides).run state
    (Answers.of files options state).Ends overrides view state ended.1.1 ended.2
      (ended.1.2.map (·.1)) := by
  have decided := (Answers.of files options state).decides_resolve overrides
  have resolved : (resolveJob files options overrides).run state =
      (((Answers.of files options state).settings.bind (Job.resolve · overrides)).mapError
        settingsDiagnostic, state) :=
    eq_mk_of_snd_eq (keeps_resolveJob faithful options overrides state)
  dsimp only
  rw [build, run_bind_of_eq resolved]
  cases given : ((Answers.of files options state).settings.bind (Job.resolve · overrides)).mapError
      settingsDiagnostic with
  | error diagnostic =>
    rw [given] at decided
    exact ends_failed decided
  | ok job =>
    rw [given] at decided
    have performed := ends_perform faithful decided
    rcases ran : (perform files job).run state with ⟨⟨log, product⟩, after⟩
    rw [ran] at performed
    dsimp only
    rw [run_bind_of_eq ran]
    show Answers.Ends _ _ _ _ log after ((product.map (job, ·)).map (·.1))
    rw [Option.map_map]
    exact performed

/-! ### The report and the exit code -/

/-- Diagnostics that are told, with no line after them. -/
def tellOnly (exitCode : Nat) (format : ReportFormat) (coloured : Bool) (told : Log) : RunResult :=
  match format with
  | .text => { exitCode, stderr := textReport told coloured }
  | .json => { exitCode, stdout := jsonReport told }

theorem report_none (options : GlobalOptions) (format : ReportFormat) (coloured : Bool)
    (log : Log) :
    report options format coloured log none =
      tellOnly 1 format coloured (log.atLeast (leastSeverity options)) := by
  cases format with
  | text => simp [report, tellOnly]
  | json => rfl

theorem exitCode_report (options : GlobalOptions) (format : ReportFormat) (coloured : Bool)
    (log : Log) (made : Option (Job × Product)) :
    (report options format coloured log made).exitCode =
      if made.isNone || log.hasErrors then 1 else 0 := by
  cases format <;> rfl

/-- A run that ends well. -/
structure Succeeds (answers : Answers) (overrides : Overrides) (view : FileView State Place)
    (log : Log) (before : State) (ended : RunResult × State) : Prop where
  exitCode : ended.1.exitCode = 0
  silent : ∀ diagnostic ∈ log, diagnostic.severity ≠ .error
  makes : ∃ job, answers.Makes overrides view job before ended.2

/-- A run that fails: it tells of the one error, whatever else it is to tell, and has no more to
say. -/
structure Fails (answers : Answers) (overrides : Overrides) (options : GlobalOptions)
    (format : ReportFormat) (coloured : Bool) (log : Log) (before : State)
    (ended : RunResult × State) : Prop where
  exitCode : ended.1.exitCode = 1
  error : ∃ diagnostic, log.errors = [diagnostic] ∧
    answers.FirstFailure overrides diagnostic.code ∧
    diagnostic ∈ log.atLeast (leastSeverity options)
  told : ended.1 = tellOnly 1 format coloured (log.atLeast (leastSeverity options))
  unchanged : ended.2 = before

theorem run_bitstream (files : FileAccess (StateM State)) (terminal : Bool)
    (options : GlobalOptions) (overrides : Overrides) (format : ReportFormat) (state : State) :
    (run files terminal ⟨options, .bitstream overrides format⟩).run state =
      let built := (build files options overrides).run state
      (report options format (isColoured options.colour terminal) built.1.1 built.1.2, built.2) :=
  rfl

/-- How much is told, and in which colours, is nothing to the work. -/
theorem build_congr (files : FileAccess (StateM State)) (overrides : Overrides)
    {first second : GlobalOptions} (same : first.settings = second.settings) :
    build files first overrides = build files second overrides := by
  unfold build resolveJob
  rw [same]

/-- **A run ends in one of two ways.** Either it tells of no error and exits with 0, and the file at
the path given, if there is one, is the document of the job, or it tells of exactly one error, that
of the first stage that fails, exits with 1 and changes nothing. The flags that say how much is told
and in which form change neither the exit code nor any file. -/
theorem run_succeeds_or_fails (faithful : files.IsFaithful view) (terminal : Bool)
    (options : GlobalOptions) (overrides : Overrides) (format : ReportFormat) (state : State) :
    let answers := Answers.of files options state
    let log := ((build files options overrides).run state).1.1
    let ended := (run files terminal ⟨options, .bitstream overrides format⟩).run state
    (Succeeds answers overrides view log state ended ∨
      Fails answers overrides options format (isColoured options.colour terminal) log state
        ended) ∧
    ∀ (otherOptions : GlobalOptions) (otherTerminal : Bool) (otherFormat : ReportFormat),
      otherOptions.settings = options.settings →
      let other := (run files otherTerminal
        ⟨otherOptions, .bitstream overrides otherFormat⟩).run state
      other.1.exitCode = ended.1.exitCode ∧ other.2 = ended.2 := by
  have ends := ends_build faithful options overrides state
  dsimp only at ends ⊢
  simp only [run_bitstream]
  refine ⟨?_, fun otherOptions otherTerminal otherFormat same => ?_⟩
  · generalize (build files options overrides).run state = built at ends ⊢
    obtain ⟨⟨log, made⟩, after⟩ := built
    cases made with
    | some made =>
      obtain ⟨silent, makes⟩ := ends
      refine .inl ⟨?_, Log.errors_eq_nil_iff.mp silent, made.1, makes⟩
      have quiet : log.hasErrors = false := by
        rw [← Bool.not_eq_true, Log.hasErrors_iff, not_not]
        exact silent
      rw [exitCode_report, quiet]
      rfl
    | none =>
      obtain ⟨⟨diagnostic, errors, first⟩, unchanged⟩ := ends
      have member : diagnostic ∈ log.errors := by simp [errors]
      refine .inr ⟨?_, ⟨diagnostic, errors, first, Log.mem_atLeast_of_mem_errors member _⟩,
        report_none options format _ log, unchanged⟩
      rw [exitCode_report]
      rfl
  · rw [build_congr files overrides same, exitCode_report, exitCode_report]
    exact ⟨rfl, rfl⟩

end Files

/-- A project with a database, a design and settings. -/
def project : FileTree :=
  let empty : FileTree := {}
  let described := empty.addFile ["db.json"]
    (some "\x7b\"variant\": \"1200HC\", \"rows\": 1, \"cols\": 1, \"locations\": []\x7d")
  let designed := described.addFile ["top.json"] (some "\x7b\x7d")
  designed.addFile ["mosaic.toml"]
    (some "[bitstream]\ntextcfg = \"top.config\"\nmetadata = [\"rev B\"]")

/-- Where the run of that project finds its inputs. -/
def projectInputs : Overrides := { database := some "db.json", design := some "top.json" }

theorem succeeds_project :
    FileTree.access.IsFaithful FileTree.view ∧
      let log := ((build FileTree.access {} projectInputs).run project).1.1
      let ended := (run FileTree.access false ⟨{}, .bitstream projectInputs .text⟩).run project
      Succeeds (Answers.of FileTree.access {} project) projectInputs FileTree.view log project
        ended := by
  have well : ((run FileTree.access false ⟨{}, .bitstream projectInputs .text⟩).run
      project).1.exitCode = 0 := by decide +kernel
  refine ⟨FileTree.isFaithful_access, ?_⟩
  rcases (run_succeeds_or_fails FileTree.isFaithful_access false {} projectInputs .text
    project).1 with succeeds | fails
  · exact succeeds
  · cases well.symm.trans fails.exitCode

end CommandLine

end FabricConfig
