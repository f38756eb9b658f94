import FabricConfig.CommandLine.Arguments
import FabricConfig.CommandLine.FileTree
import FabricConfig.Design.Listing
import FabricConfig.Device.Description
import FabricConfig.Diagnostic.Render
import FabricConfig.Digest.Basic
import FabricConfig.Document.Writer
import FabricConfig.Generation.Basic
/-!
# Running a command

A run reads the settings, the device database and the design, generates the configuration and
writes it. Whatever fails is told by one diagnostic of an error, and nothing is written.
-/

namespace FabricConfig

/-- What a run gives besides the files it writes. -/
structure RunResult where
  exitCode : Nat
  stdout : String := ""
  stderr : String := ""
deriving DecidableEq, Repr

/-- The digest of a document's text. -/
def Document.digest (document : Document) : Digest := .ofText document.toText

namespace CommandLine

/-! ### Diagnostics of a run -/

/-- The settings cannot be used. -/
def settingsDiagnostic (error : SettingsError) : Diagnostic where
  severity := .error
  code := ⟨.config, 101⟩
  message := error.message

/-- The device database cannot be loaded. -/
def databaseDiagnostic (path : String) (error : LoadError) : Diagnostic where
  severity := .error
  code := ⟨.device, 201⟩
  message := "cannot load device database: " ++ error.message
  subject := some path

/-- The device database is for another variant. -/
def mismatchDiagnostic (path : String) (actual expected : Variant) : Diagnostic where
  severity := .error
  code := ⟨.device, 202⟩
  message := s!"device database describes {actual}, but {expected} was requested"
  subject := some path
  notes := ["the device variant is taken from the database"]
  help := [s!"use a database for {expected}, or pass --device {actual}"]

/-- The design cannot be loaded. -/
def designDiagnostic (path : String) (error : LoadError) : Diagnostic where
  severity := .error
  code := ⟨.design, 301⟩
  message := "cannot load design: " ++ error.message
  subject := some path

/-- The configuration cannot be generated or written. -/
def failureDiagnostic (message : String) : Diagnostic where
  severity := .error
  code := ⟨.bitstream, 505⟩
  message := message

/-- What is told about a failure to generate, apart from what was told on the way. -/
def failureLog : Failure → Log
  | .error (.unsupported _) => []
  | .error error => [failureDiagnostic error.message]
  | .fault fault => [failureDiagnostic (fault.message?.getD "missing entry")]

/-! ### Inputs -/

section Files

variable {m : Type → Type} [Monad m] (files : FileAccess m)

/-- Loads the settings from a file. -/
def loadSettingsFile (path : String) : m (Except SettingsError Settings) := do
  match ← files.read path with
  | .ok text => return Settings.load text
  | .error reason => return .error (.unreadable reason)

/-- Loads the settings: from the path given, which may be that of a directory, or else from the
working directory if they are there. -/
def loadSettings : Option String → m (Except SettingsError Settings)
  | some path => do
    if ← files.isDirectory path then
      let file := path ++ "/" ++ settingsFile
      if ← files.isFile file then loadSettingsFile files file else return .error (.noFile path)
    else loadSettingsFile files path
  | none => do
    if ← files.isFile settingsFile then loadSettingsFile files settingsFile else return .ok {}

/-- The job of a run. -/
def resolveJob (options : GlobalOptions) (overrides : Overrides) :
    m (Except Diagnostic Job) := do
  let settings ← loadSettings files options.settings
  return (settings.bind (Job.resolve · overrides)).mapError settingsDiagnostic

end Files

/-- The device database of a job, from the content of its file. -/
def loadDatabase (job : Job) (content : Except FileError String) : Except Diagnostic Database :=
  let loaded := match content with
    | .ok text => Database.load text
    | .error reason => .error (.unreadable job.database reason)
  match loaded with
  | .error error => .error (databaseDiagnostic job.database error)
  | .ok db =>
    match job.variant.filter (· ≠ db.variant) with
    | some expected => .error (mismatchDiagnostic job.database db.variant expected)
    | none => .ok { db with
        package := job.package.getD db.package
        speed := job.speed.getD db.speed }

/-- The design of a job, from the content of its file. -/
def loadDesign (job : Job) (db : Database) (content : Except FileError String) :
    Except Diagnostic Design :=
  let loaded := match content with
    | .ok text => Design.load db text
    | .error reason => .error (.unreadable job.design reason)
  loaded.mapError (designDiagnostic job.design)

/-! ### The work -/

/-- A generated configuration, and whether it was written. -/
structure Product where
  document : Document
  written : Bool

section Files

variable {m : Type → Type} [Monad m] (files : FileAccess m)

/-- Writes a document, unless the path is empty; the outcome is whether it was written. -/
def writeDocument (path : String) (document : Document) : m (Except FileError Bool) := do
  if path = "" then return .ok false
  else
    let written ← files.write path document.toText
    return written.map fun () => true

/-- Generates the configuration of a design and writes it. -/
def produce (job : Job) (db : Database) (design : Design) : m (Log × Option Product) := do
  match generate db design with
  | (log, .error failure) => return (log ++ failureLog failure, none)
  | (log, .ok generated) =>
    let document := { generated with metadata := generated.metadata ++ job.metadata }
    match ← writeDocument files job.output document with
    | .ok written => return (log, some ⟨document, written⟩)
    | .error reason =>
      return (log ++ [failureDiagnostic (GenerationError.unwritable reason).message], none)

/-- Does a job. -/
def perform (job : Job) : m (Log × Option Product) := do
  match loadDatabase job (← files.read job.database) with
  | .error diagnostic => return ([diagnostic], none)
  | .ok db =>
    match loadDesign job db (← files.read job.design) with
    | .error diagnostic => return ([diagnostic], none)
    | .ok design => produce files job db design

/-- Resolves the job of a run and does it. -/
def build (options : GlobalOptions) (overrides : Overrides) :
    m (Log × Option (Job × Product)) := do
  match ← resolveJob files options overrides with
  | .error diagnostic => return ([diagnostic], none)
  | .ok job =>
    let (log, product) ← perform files job
    return (log, product.map (job, ·))

end Files

/-! ### The report -/

/-- The least severity that is told. -/
def leastSeverity (options : GlobalOptions) : Severity :=
  if options.verbose then .note else if options.quiet then .error else .warning

/-- Diagnostics for people, with a blank line after each. -/
def textReport (log : Log) (coloured : Bool) : String :=
  String.join (log.map fun diagnostic => diagnostic.toText coloured ++ "\n")

/-- Diagnostics for programs, one a line. -/
def jsonReport (log : Log) : String :=
  String.join (log.map fun diagnostic => diagnostic.toJsonLine ++ "\n")

/-- The closing line on what was generated. -/
def summaryLine (job : Job) (product : Product) : String :=
  let target := if product.written then job.output else "(not written)"
  let document := product.document
  s!"   Generated {target} for {document.deviceName}: " ++
    s!"{document.tileCount} tiles, {document.arcCount} arcs, hash {document.digest.text}\n"

/-- What a run tells, and its exit code. -/
def report (options : GlobalOptions) (format : ReportFormat) (coloured : Bool) (log : Log)
    (made : Option (Job × Product)) : RunResult :=
  let told := log.atLeast (leastSeverity options)
  let summary := match made with
    | some (job, product) => if options.quiet then "" else summaryLine job product
    | none => ""
  let exitCode := if made.isNone || log.hasErrors then 1 else 0
  match format with
  | .text => { exitCode, stderr := textReport told coloured ++ summary }
  | .json => { exitCode, stdout := jsonReport told }

/-- Whether diagnostics are coloured. -/
def isColoured (choice : ColourChoice) (terminal : Bool) : Bool :=
  match choice with
  | .auto => terminal
  | .always => true
  | .never => false

/-! ### Devices -/

/-- A text filled up with blanks to a width. -/
def padRight (width : Nat) (text : String) : String :=
  text ++ String.ofList (List.replicate (width - text.length) ' ')

/-- A line of the list of devices. -/
def deviceLine (name package status : String) : String :=
  padRight 16 name ++ padRight 8 package ++ status ++ "\n"

/-- The list of devices. -/
def deviceList (options : GlobalOptions) : String :=
  let heading := if options.quiet then "" else deviceLine "DEVICE" "PACKAGE" "STATUS"
  heading ++ String.join (Variant.all.map fun variant =>
    deviceLine variant.name variant.defaultPackage
      (if variant.isSupported then "supported" else "no base configuration"))

/-! ### Commands -/

/-- Runs a command. `terminal` tells whether diagnostics go to a terminal. -/
def run {m : Type → Type} [Monad m] (files : FileAccess m) (terminal : Bool)
    (arguments : Arguments) : m RunResult := do
  match arguments.command with
  | .devices => return { exitCode := 0, stdout := deviceList arguments.options }
  | .bitstream overrides format =>
    let (log, made) ← build files arguments.options overrides
    let coloured := isColoured arguments.options.colour terminal
    return report arguments.options format coloured log made

/-- The exit code for a command line that is not accepted. -/
def usageExitCode : Nat := 2

end CommandLine

end FabricConfig
