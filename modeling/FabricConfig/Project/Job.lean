import FabricConfig.Project.Settings
/-!
# Jobs

A job is what one run is to do: the settings of the project, each replaced by the one given for the
run if there is one.
-/

namespace FabricConfig

/-- Settings given for one run. -/
structure Overrides where
  database : Option String := none
  design : Option String := none
  device : Option String := none
  package : Option String := none
  speed : Option String := none
  output : Option String := none
deriving DecidableEq, Repr

/-- What one run is to do. -/
structure Job where
  /-- The variant that the device database must be for. -/
  variant : Option Variant
  package : Option String
  speed : Option String
  /-- The path of the device database. -/
  database : String
  /-- The path of the design. -/
  design : String
  /-- The path that the configuration is written to; nothing is written if it is empty. -/
  output : String
  /-- Comment lines of the configuration. -/
  metadata : List String
deriving DecidableEq, Repr

/-- A setting that must be made. -/
def requireSetting (field : String) : Option String → Except SettingsError String
  | some value => .ok value
  | none => .error (.missing field)

/-- The job of a run. -/
def Job.resolve (settings : Settings) (overrides : Overrides) : Except SettingsError Job := do
  let database ← requireSetting "inputs.chipdb" (overrides.database <|> settings.database)
  let design ← requireSetting "inputs.design" (overrides.design <|> settings.design)
  let variant ← Settings.checkVariant (overrides.device <|> settings.variant)
  let package := overrides.package <|> settings.package
  Settings.checkPackage package
  let speed := overrides.speed <|> settings.speed
  Settings.checkSpeed speed
  let output := (overrides.output <|> settings.output).getD ""
  return { variant, package, speed, database, design, output, metadata := settings.metadata }

end FabricConfig
