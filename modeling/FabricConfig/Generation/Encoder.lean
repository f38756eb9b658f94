import FabricConfig.Design.Basic
import FabricConfig.Generation.Setting
import FabricConfig.Generation.Site
/-!
# Encoders

An encoder plans the settings of a placed cell of one kind: a slice of logic, a pad for input and
output, or the oscillator.

* `forKind?_eq_some`: an encoder that is found for a kind is one of these, and of the kind.
-/

namespace FabricConfig

/-- What plans the settings of the cells of a kind. -/
structure Encoder where
  kind : String
  plan : Database → Design → Cell → BelId → Plan Unit

/-! ### Slices -/

namespace Slice

/-- How the name of a setting is formed: from the name of the site, or from a group and the index
of the site, for what the cells of a tile share. -/
inductive FeatureName where
  | ofSite (suffix : String)
  | ofGroup (group suffix : String)
deriving DecidableEq, Repr

/-- The name of a setting for a site. -/
def FeatureName.render (site : String) (index : Nat) : FeatureName → String
  | .ofSite suffix => site ++ suffix
  | .ofGroup group suffix => group ++ String.ofList (Text.decimal index) ++ suffix

/-- An enumerated setting: the parameter that gives it, its name and its default. -/
structure EnumSetting where
  key : String
  name : FeatureName
  default : String
deriving DecidableEq, Repr

/-- The width of a look-up table's contents. -/
def tableWidth : Nat := 16

/-- The parameters of the look-up tables' contents, and how the names of the words end. -/
def words : List (String × String) :=
  [("LUT0_INITVAL", ".K0.INIT"), ("LUT1_INITVAL", ".K1.INIT")]

/-- The enumerated settings of a slice. -/
def enums : List EnumSetting :=
  [⟨"MODE", .ofSite ".MODE", "LOGIC"⟩,
    ⟨"GSR", .ofSite ".GSR", "ENABLED"⟩,
    ⟨"SRMODE", .ofGroup "LSR" ".SRMODE", "LSR_OVER_CE"⟩,
    ⟨"CEMUX", .ofSite ".CEMUX", "1"⟩,
    ⟨"CLKMUX", .ofGroup "CLK" ".CLKMUX", "0"⟩,
    ⟨"LSRMUX", .ofGroup "LSR" ".LSRMUX", "LSR"⟩,
    ⟨"LSRONMUX", .ofGroup "LSR" ".LSRONMUX", "LSRMUX"⟩,
    ⟨"REGMODE", .ofSite ".REGMODE", "FF"⟩,
    ⟨"REG0_SD", .ofSite ".REG0.SD", "0"⟩,
    ⟨"REG1_SD", .ofSite ".REG1.SD", "0"⟩,
    ⟨"REG0_REGSET", .ofSite ".REG0.REGSET", "RESET"⟩,
    ⟨"REG1_REGSET", .ofSite ".REG1.REGSET", "RESET"⟩]

/-- Plans the word of one look-up table. -/
def planWord (design : Design) (cell : Cell) (tile site : String) (word : String × String) :
    Plan Unit := do
  let bits ← Plan.ofResult (design.wordOrZero cell.parameters word.1 tableWidth)
  Plan.edit (.set tile (.word (site ++ word.2) bits))

/-- The edit of one enumerated setting. -/
def enumEdit (design : Design) (cell : Cell) (tile site : String) (index : Nat)
    (setting : EnumSetting) : Edit :=
  .set tile (.enum (setting.name.render site index)
    (design.textOr cell.parameters setting.key setting.default))

/-- Plans a slice, in the tile of kind `PLC` at its location. -/
def encoder : Encoder where
  kind := "FACADE_SLICE"
  plan db design cell bel := do
    let tile ← Plan.ofTile (db.tileAt bel.location "PLC")
    let site ← Plan.ofLookup (db.belName bel)
    let index ← Plan.ofResult (siteIndex site "SLICE")
    Plan.edit (.create tile)
    let _ ← Plan.all (words.map (planWord design cell tile site))
    let _ ← Plan.all (enums.map fun setting =>
      Plan.edit (enumEdit design cell tile site index setting))

end Slice

/-! ### Pads -/

namespace Pad

/-- The kind of the tile for a location at the border of the grid. At a corner, the left and the
right border come first. -/
def edgeKind? (db : Database) (location : Location) : Option String :=
  if location.col = 0 then some "PIC_L0"
  else if location.col + 1 = db.cols then some "PIC_R0"
  else if location.row = 0 then some "PIC_B0"
  else if location.row + 1 = db.rows then some "PIC_T0"
  else none

/-- The kind of the tile for a site, which must be at the border of the grid. -/
def edgeKind (db : Database) (site : String) (location : Location) :
    Except GenerationError String :=
  match edgeKind? db location with
  | some kind => .ok kind
  | none => .error (.notOnEdge site location)

/-- Plans a pad, in the tile for the border that it is at. -/
def encoder : Encoder where
  kind := "FACADE_IO"
  plan db design cell bel := do
    let site ← Plan.ofLookup (db.belName bel)
    let _ ← Plan.ofResult (siteIndex site "PIO")
    let kind ← Plan.ofResult (edgeKind db site bel.location)
    let tile ← Plan.ofTile (db.tileAt bel.location kind)
    let direction := design.textOr cell.parameters "DIR" "INPUT"
    let standard := design.textOr cell.attributes "IO_TYPE" "LVCMOS33"
    Plan.edit (.set tile (.enum (site ++ ".BASE_TYPE") (direction ++ "_" ++ standard)))

end Pad

/-! ### The oscillator -/

namespace Oscillator

/-- Plans the oscillator, in the first tile of kind `CFG1` of the device. -/
def encoder : Encoder where
  kind := "OSCH"
  plan db design cell _ := do
    let tile ← Plan.ofTile (db.tileOfKind "CFG1")
    let frequency := design.textOr cell.parameters "NOM_FREQ" "2.08"
    Plan.edit (.set tile (.enum "OSCH.MODE" "OSCH"))
    Plan.edit (.set tile (.enum "OSCH.NOM_FREQ" frequency))

end Oscillator

namespace Encoder

/-- All encoders. -/
def registered : List Encoder := [Slice.encoder, Pad.encoder, Oscillator.encoder]

/-- The encoder for the cells of a kind. -/
def forKind? (kind : String) : Option Encoder := registered.find? (·.kind == kind)

theorem mem_registered_iff {encoder : Encoder} : encoder ∈ registered ↔
    encoder = Slice.encoder ∨ encoder = Pad.encoder ∨ encoder = Oscillator.encoder := by
  simp only [registered, List.mem_cons, List.not_mem_nil, or_false]

/-- An encoder that is found for a kind is registered for it. -/
theorem forKind?_eq_some {kind : String} {encoder : Encoder}
    (found : forKind? kind = some encoder) : encoder ∈ registered ∧ encoder.kind = kind := by
  have ofKind := List.find?_some (p := fun other : Encoder => other.kind == kind) found
  exact ⟨List.mem_of_find?_eq_some found, beq_iff_eq.mp ofKind⟩

end Encoder

end FabricConfig
