import FabricConfig.Generation.Arcs
import FabricConfig.Generation.Base
import FabricConfig.Generation.Cells
/-!
# Generating a configuration

The configuration of a design on a device starts from the base configuration of the variant and
the name of the part, and has the arcs and settings of the design. Findings on the way are given
as diagnostics.
-/

namespace FabricConfig

/-- The error that a variant has no base configuration. -/
def unsupportedDiagnostic (variant : Variant) : Diagnostic where
  severity := .error
  code := ⟨.bitstream, 502⟩
  message := s!"unsupported device type {variant}"
  help := ["supported devices: " ++ ", ".intercalate (Variant.supported.map Variant.name)]

/-- The closing note on what was configured. -/
def summaryNote (document : Document) (design : Design) (arcs : Nat) (tally : CellTally) :
    Diagnostic where
  severity := .note
  code := ⟨.bitstream, 504⟩
  message :=
    s!"configured {document.tileCount} tiles: " ++
      s!"{arcs} arcs from {design.boundPipCount} bound pips, " ++
      s!"{tally.encoded} of {design.placedCount} placed primitives, " ++
      s!"{document.settingCount} settings"

/-- The stages after the base configuration. -/
def planDesign (db : Database) (design : Design) : Plan (Nat × CellTally) := do
  let arcs ← planArcs db design
  let tally ← planCells db design
  return (arcs, tally)

/-- The configuration of a design, and the diagnostics given on the way. -/
def generate (db : Database) (design : Design) : Log × Except Failure Document :=
  match ({} : Document).seed? db.variant with
  | none => ([unsupportedDiagnostic db.variant], .error (.error (.unsupported db.variant)))
  | some seeded =>
    let plan := planDesign db design
    let document := (seeded.comment ("Part: " ++ db.partName)).applyAll plan.edits
    match plan.outcome with
    | .error failure => (plan.log, .error failure)
    | .ok (arcs, tally) =>
      (plan.log ++ [summaryNote document design arcs tally], .ok document)

end FabricConfig
