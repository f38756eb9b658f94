import FabricConfig.Generation.Encoder
/-!
# Cells

Every placed cell of a kind with an encoder gives settings. A cell without a BEL is warned of, and
cells of other kinds are counted by kind and noted at the end.
-/

namespace FabricConfig

/-- What became of a cell. -/
inductive CellFate where
  | encoded
  | unplaced
  /-- The cell is placed, but no encoder handles its kind. -/
  | unhandled (kind : String)
deriving DecidableEq, Repr

/-- How many cells were encoded, not placed, and placed without an encoder. -/
structure CellTally where
  encoded : Nat
  unplaced : Nat
  unhandled : Nat
deriving DecidableEq, Repr

/-- The warning of a cell that is not placed. -/
def unplacedWarning (name : String) : Diagnostic where
  severity := .warning
  code := ⟨.bitstream, 501⟩
  message := s!"found unplaced cell '{name}' during bitstream generation"
  subject := some name
  help := ["the cell contributes no settings; place it before generating"]

/-- The note on the cells of a kind without an encoder. -/
def unhandledNote (kind : String) (count : Nat) : Diagnostic where
  severity := .note
  code := ⟨.bitstream, 503⟩
  message := s!"skipped {count} cell(s) of kind '{kind}' with no configuration encoder"

/-- Plans a cell. -/
def planCell (db : Database) (design : Design) (cell : Cell) : Plan CellFate :=
  match cell.bel with
  | none => do
    let name ← Plan.ofLookup (design.name cell.name)
    Plan.report (unplacedWarning name)
    return .unplaced
  | some bel => do
    let kind ← Plan.ofLookup (design.name cell.kind)
    match Encoder.forKind? kind with
    | some encoder =>
      encoder.plan db design cell bel
      return .encoded
    | none => return .unhandled kind

/-- The kinds without an encoder, each with the number of its cells. -/
def unhandledKinds (fates : List CellFate) : Std.ExtTreeMap String Nat :=
  fates.foldl
    (fun counts fate => match fate with
      | .unhandled kind => counts.alter kind fun count => some (count.getD 0 + 1)
      | _ => counts)
    ∅

/-- The numbers of cells by their fate. -/
def CellTally.ofFates (fates : List CellFate) : CellTally where
  encoded := fates.countP fun fate => fate matches .encoded
  unplaced := fates.countP fun fate => fate matches .unplaced
  unhandled := fates.countP fun fate => fate matches .unhandled _

/-- Plans all cells of a design, in order. -/
def planCells (db : Database) (design : Design) : Plan CellTally := do
  let fates ← Plan.all (design.cells.toList.map (planCell db design))
  let _ ← Plan.all ((unhandledKinds fates).toList.map fun (kind, count) =>
    Plan.report (unhandledNote kind count))
  return .ofFates fates

end FabricConfig
