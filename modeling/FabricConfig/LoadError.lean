import FabricConfig.Device.Contents
import FabricConfig.Device.Variant
import FabricConfig.FileError
/-!
# Load errors

Why a device database or a design cannot be loaded.
-/

namespace FabricConfig

/-- What is wrong with well-formed data. -/
inductive InvalidData where
  /-- The grid has too many locations. -/
  | oversizedGrid (rows cols : UInt32)
  /-- An entry is for a location off the grid. -/
  | outsideGrid (location : Location)
  /-- A PIP, given by its place in the table of a location, names a wire that is not there. -/
  | missingWire (index : Nat) (location : Location) (wire : RelativeWire)
  /-- Two cells share a name. -/
  | duplicateCell (name : String)
  /-- A cell is placed on a BEL that is not there. -/
  | unknownBel (cell : String) (location : Location) (bel : String)
  /-- A net binds a PIP that is not there. -/
  | unknownPip (net : String) (pip : PipId)
  /-- Two nets bind one PIP, or one net binds it twice. -/
  | boundTwice (pip : PipId) (first second : String)
deriving DecidableEq, Repr

/-- The greatest number of locations on a grid that is loaded. -/
def maxGridSize : Nat := 65536

/-- A relative wire, with its three numbers named. -/
def RelativeWire.description (wire : RelativeWire) : String :=
  s!"RelWire \x7b rel_row: {wire.rows}, rel_col: {wire.cols}, index: {wire.index} \x7d"

/-- The wording of invalid data. -/
def InvalidData.message : InvalidData → String
  | .oversizedGrid rows cols => s!"grid of {rows} x {cols} exceeds {maxGridSize} locations"
  | .outsideGrid location => s!"location {location} is outside the grid"
  | .missingWire index location wire =>
    s!"pip {index} at {location} refers to missing wire {wire.description}"
  | .duplicateCell name => s!"duplicate cell name '{name}'"
  | .unknownBel cell location bel => s!"cell '{cell}' is placed on unknown bel {location}/{bel}"
  | .unknownPip net pip => s!"net '{net}' binds unknown pip {pip}"
  | .boundTwice pip first second => s!"pip {pip} is bound to both '{first}' and '{second}'"

/-- Why data cannot be loaded. -/
inductive LoadError where
  /-- The file cannot be read. -/
  | unreadable (path : String) (reason : FileError)
  /-- The text is not JSON, or its values are not of the kinds expected. -/
  | malformed
  /-- The named variant does not exist. -/
  | unknownVariant (unknown : UnknownVariant)
  /-- The data contradict themselves or the device. -/
  | invalid (reason : InvalidData)
deriving DecidableEq, Repr

/-- The wording of a load error. What makes a text malformed is not said. -/
def LoadError.message : LoadError → String
  | .unreadable path reason => s!"failed to read {path}: {reason.message}"
  | .malformed => "malformed JSON: ..."
  | .unknownVariant unknown => unknown.message
  | .invalid reason => s!"invalid data: {reason.message}"

end FabricConfig
