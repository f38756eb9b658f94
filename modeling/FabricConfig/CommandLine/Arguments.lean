import FabricConfig.Project.Job
import FabricConfig.Text.Blank
/-!
# Arguments

The command line has a subcommand and options. Some options may stand before or after the
subcommand, and the one after it counts; on either side an option stands at most once. A valued
option takes its value from the same argument or from the next one.
-/

namespace FabricConfig

/-- When the output is coloured. -/
inductive ColourChoice where
  /-- When it goes to a terminal. -/
  | auto
  | always
  | never
deriving DecidableEq, Repr

/-- The form of the diagnostics. -/
inductive ReportFormat where
  | text
  | json
deriving DecidableEq, Repr

/-- What options every subcommand has. -/
structure GlobalOptions where
  quiet : Bool := false
  verbose : Bool := false
  colour : ColourChoice := .auto
  /-- The path of the settings, or of the directory that holds them. -/
  settings : Option String := none
deriving DecidableEq, Repr

/-- What is to be done. -/
inductive Command where
  | bitstream (overrides : Overrides) (format : ReportFormat)
  | devices
deriving DecidableEq, Repr

/-- An accepted command line. -/
structure Arguments where
  options : GlobalOptions
  command : Command
deriving DecidableEq, Repr

namespace CommandLine

/-! ### Options -/

/-- An option by its long name. -/
inductive OptionName where
  | quiet | verbose | color | config
  | chipdb | design | device | package | speed | textcfg | format
deriving DecidableEq, Repr

namespace OptionName

/-- The options that every subcommand has. -/
def global : List OptionName := [quiet, verbose, color, config]

/-- The options of the subcommand `bitstream`. -/
def ofBitstream : List OptionName :=
  global ++ [chipdb, design, device, package, speed, textcfg, format]

/-- The long name of an option. -/
def text : OptionName → String
  | quiet => "quiet"
  | verbose => "verbose"
  | color => "color"
  | config => "config"
  | chipdb => "chipdb"
  | design => "design"
  | device => "device"
  | package => "package"
  | speed => "speed"
  | textcfg => "textcfg"
  | format => "format"

/-- The letter of an option that has one. -/
def letter? : OptionName → Option Char
  | quiet => some 'q'
  | verbose => some 'v'
  | format => some 'f'
  | _ => none

/-- Whether an option takes a value. -/
def takesValue : OptionName → Bool
  | quiet | verbose => false
  | _ => true

/-- Whether an option accepts a value. -/
def accepts : OptionName → String → Bool
  | color, value => ["auto", "always", "never"].contains value
  | format, value => ["text", "json"].contains value
  | chipdb, value | design, value => value ≠ ""
  | _, _ => true

end OptionName

/-- The options given on one side of the subcommand, with their values. -/
abbrev Given := List (OptionName × String)

/-- Adds an option that is not given yet and accepts its value. -/
def Given.add (given : Given) (name : OptionName) (value : String) : Option Given :=
  if (given.lookup name).isNone && name.accepts value then some ((name, value) :: given) else none

/-! ### One argument -/

/-- Options from one argument; perhaps the last of them takes the next argument as its value. -/
structure Taken where
  given : Given
  pending : Option OptionName := none

/-- Reads an argument that starts with two hyphens, given what follows them. -/
def takeLong (allowed : List OptionName) (given : Given) (body : List Char) : Option Taken := do
  let (word, attached) := match Text.splitOnce? '=' body with
    | some (word, value) => (word, some (String.ofList value))
    | none => (body, none)
  let name ← allowed.find? (·.text.toList = word)
  match name.takesValue, attached with
  | true, some value => return { given := ← given.add name value }
  | true, none => return { given, pending := some name }
  | false, none => return { given := ← given.add name "" }
  | false, some _ => none

/-- Reads an argument that starts with one hyphen, given what follows it: letters of options
without a value, and then perhaps one with its value. -/
def takeShort (allowed : List OptionName) (given : Given) : List Char → Option Taken
  | [] => some { given }
  | letter :: rest => do
    let name ← allowed.find? (·.letter? = some letter)
    if name.takesValue then
      match rest with
      | [] => return { given, pending := some name }
      | '=' :: value => return { given := ← given.add name (String.ofList value) }
      | value => return { given := ← given.add name (String.ofList value) }
    else takeShort allowed (← given.add name "") rest

/-! ### All arguments -/

/-- Whether an argument can be the value of the option before it. -/
def isValue (argument : String) : Bool := argument = "-" || argument.toList.head? ≠ some '-'

/-- Reads arguments up to the first that is no option. It is given with those after it, unless two
hyphens alone come before it: then nothing may follow. -/
def takeOptions (allowed : List OptionName) (given : Given) :
    List String → Option (Given × List String)
  | [] => some (given, [])
  | argument :: rest =>
    match argument.toList with
    | ['-', '-'] => if rest.isEmpty then some (given, []) else none
    | '-' :: body@(_ :: _) =>
      let taken? := match body with
        | '-' :: long => takeLong allowed given long
        | short => takeShort allowed given short
      match taken? with
      | none => none
      | some ⟨given, none⟩ => takeOptions allowed given rest
      | some ⟨given, some name⟩ =>
        match rest with
        | [] => none
        | value :: rest =>
          if isValue value then
            match given.add name value with
            | none => none
            | some given => takeOptions allowed given rest
          else none
    | _ => some (given, argument :: rest)

/-- The choice of colours that an option's value names. -/
def colourChoice : Option String → ColourChoice
  | some "always" => .always
  | some "never" => .never
  | _ => .auto

/-- The form of diagnostics that an option's value names. -/
def reportFormat : Option String → ReportFormat
  | some "json" => .json
  | _ => .text

/-- The options that every subcommand has, from those given. -/
def globalOptions (given : Given) : GlobalOptions where
  quiet := (given.lookup .quiet).isSome
  verbose := (given.lookup .verbose).isSome
  colour := colourChoice (given.lookup .color)
  settings := given.lookup .config

/-- The settings for this run, from the options given. -/
def overrides (given : Given) : Overrides where
  database := given.lookup .chipdb
  design := given.lookup .design
  device := given.lookup .device
  package := given.lookup .package
  speed := given.lookup .speed
  output := given.lookup .textcfg

/-- Reads a command line. -/
def parse? (arguments : List String) : Option Arguments := do
  let (before, rest) ← takeOptions OptionName.global [] arguments
  match rest with
  | "bitstream" :: rest => do
    let (after, []) ← takeOptions OptionName.ofBitstream [] rest | none
    let given := after ++ before
    let format := reportFormat (given.lookup .format)
    return ⟨globalOptions given, .bitstream (overrides given) format⟩
  | "devices" :: rest => do
    let (after, []) ← takeOptions OptionName.global [] rest | none
    return ⟨globalOptions (after ++ before), .devices⟩
  | _ => none

end CommandLine

end FabricConfig
