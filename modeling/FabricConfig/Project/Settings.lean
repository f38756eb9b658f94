import FabricConfig.Device.Variant
import FabricConfig.FileError
import FabricConfig.Toml.Parser
/-!
# Project settings

A project may keep settings in a TOML text with the tables `device`, `inputs` and `bitstream`.
Unknown keys are refused. A table may also be written as the array of its values in order.
-/

namespace FabricConfig

/-- The settings of a project; none needs to be made. -/
structure Settings where
  /-- The variant of the device, by name. -/
  variant : Option String := none
  package : Option String := none
  speed : Option String := none
  /-- The path of the device database. -/
  database : Option String := none
  /-- The path of the design. -/
  design : Option String := none
  /-- The path that the configuration is written to. -/
  output : Option String := none
  /-- Comment lines of the configuration. -/
  metadata : List String := []
deriving DecidableEq, Repr

/-- Why settings cannot be used. -/
inductive SettingsError where
  | unreadable (reason : FileError)
  /-- The text is not TOML, or its values are not those expected. -/
  | malformed
  /-- A directory was given, and it has no file of settings. -/
  | noFile (directory : String)
  | unknownDevice (name : String)
  /-- A setting is made nowhere and has no default. -/
  | missing (field : String)
  | invalidSpeed (speed : String)
  | invalidPackage (package : String)
deriving DecidableEq, Repr

/-- The name of the file of settings. -/
def settingsFile : String := "mosaic.toml"

/-- The wording of an error. What makes a text malformed is not said. -/
def SettingsError.message : SettingsError → String
  | .unreadable reason => s!"failed to read configuration: {reason.message}"
  | .malformed => "failed to parse configuration: ..."
  | .noFile directory => s!"no {settingsFile} in {directory}"
  | .unknownDevice name => s!"unknown device '{name}'"
  | .missing field => s!"missing required field: {field}"
  | .invalidSpeed speed => s!"validation error: speed grade '{speed}' must be numeric"
  | .invalidPackage package =>
    s!"validation error: package '{package}' must be a non-empty alphanumeric code"

/-! ### Decoding -/

namespace Toml

/-- A string. -/
def asString? : Toml → Option String
  | .string value => some value
  | _ => none

/-- An array of strings. -/
def asStrings? : Toml → Option (List String)
  | .array items => items.mapM asString?
  | _ => none

/-- The entries of a table that has no keys but those of `required` and `further`. The table may
be written as an array, in which the values of the required keys must stand. -/
def asSection? (required further : List String) : Toml → Option (List (String × Toml))
  | .table entries =>
    if entries.all fun entry => (required ++ further).contains entry.1 then some entries else none
  | .array items =>
    if required.length ≤ items.length then some ((required ++ further).zip items) else none
  | _ => none

/-- The string of a key, which may be missing. -/
def stringOf? (entries : List (String × Toml)) (key : String) : Option (Option String) :=
  match entries.lookup key with
  | none => some none
  | some value => value.asString?.map some

/-- The strings of a key, none if it is missing. -/
def stringsOf? (entries : List (String × Toml)) (key : String) : Option (List String) :=
  match entries.lookup key with
  | none => some []
  | some value => value.asStrings?

/-- A section of a table, empty if it is missing. -/
def sectionOf? (entries : List (String × Toml)) (key : String) (required further : List String) :
    Option (List (String × Toml)) :=
  match entries.lookup key with
  | none => some []
  | some value => value.asSection? required further

end Toml

namespace Settings

/-- Reads settings from a TOML value. -/
def ofToml? (toml : Toml) : Option Settings := do
  let sections ← toml.asSection? [] ["device", "inputs", "bitstream"]
  let device ← Toml.sectionOf? sections "device" ["variant", "package", "speed"] []
  let inputs ← Toml.sectionOf? sections "inputs" ["chipdb", "design"] []
  let bitstream ← Toml.sectionOf? sections "bitstream" ["textcfg"] ["metadata"]
  let variant ← Toml.stringOf? device "variant"
  let package ← Toml.stringOf? device "package"
  let speed ← Toml.stringOf? device "speed"
  let database ← Toml.stringOf? inputs "chipdb"
  let design ← Toml.stringOf? inputs "design"
  let output ← Toml.stringOf? bitstream "textcfg"
  let metadata ← Toml.stringsOf? bitstream "metadata"
  return { variant, package, speed, database, design, output, metadata }

/-! ### Checking -/

/-- The variant of a name, if one is given. -/
def checkVariant (given : Option String) : Except SettingsError (Option Variant) :=
  (given.mapM Variant.parse).mapError fun unknown => .unknownDevice unknown.text

/-- A speed grade is one or more digits. -/
def checkSpeed : Option String → Except SettingsError Unit
  | none => .ok ()
  | some speed =>
    if speed ≠ "" ∧ speed.toList.all Char.isDigit then .ok () else .error (.invalidSpeed speed)

/-- A package is one or more letters and digits of ASCII. -/
def checkPackage : Option String → Except SettingsError Unit
  | none => .ok ()
  | some package =>
    if package ≠ "" ∧ package.toList.all Char.isAlphanum then .ok ()
    else .error (.invalidPackage package)

/-- Checks what can be checked without the device. -/
def check (settings : Settings) : Except SettingsError Unit := do
  let _ ← checkVariant settings.variant
  checkSpeed settings.speed
  checkPackage settings.package

/-- Loads settings from a TOML text. -/
def load (text : String) : Except SettingsError Settings :=
  match (Toml.parse? text).bind ofToml? with
  | none => .error .malformed
  | some settings => settings.check.map fun () => settings

end Settings

end FabricConfig
