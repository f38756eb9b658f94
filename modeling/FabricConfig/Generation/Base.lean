import FabricConfig.Device.Variant
import FabricConfig.Document.Basic
/-!
# Base configurations

A supported variant has raw bits that are set whatever the design is.
-/

namespace FabricConfig

/-- The tile, frame and bit of each raw bit that is always set on an LCMXO2-1200HC. -/
def hc1200Base : List (String × UInt32 × UInt32) :=
  [("EBR_R6C11:EBR1", 0, 12),
    ("EBR_R6C15:EBR1", 0, 12),
    ("EBR_R6C18:EBR1", 0, 12),
    ("EBR_R6C21:EBR1", 0, 12),
    ("EBR_R6C2:EBR1", 0, 12),
    ("EBR_R6C5:EBR1", 0, 12),
    ("EBR_R6C8:EBR1", 0, 12),
    ("PT4:CFG0", 5, 30),
    ("PT4:CFG0", 5, 32),
    ("PT4:CFG0", 5, 36),
    ("PT7:CFG3", 5, 18)]

namespace Variant

/-- The edits that set the raw bits of a variant's base configuration, if it has one. -/
def baseEdits? : Variant → Option (List Edit)
  | .hc1200 => some (hc1200Base.map fun (tile, frame, bit) => .set tile (.raw ⟨frame, bit⟩))
  | _ => none

/-- Whether configurations can be generated for a variant. -/
def isSupported (variant : Variant) : Bool := variant.baseEdits?.isSome

/-- The variants for which configurations can be generated. -/
def supported : List Variant := all.filter isSupported

end Variant

/-- Writes a variant's name and base configuration into a document, if it has one. -/
def Document.seed? (document : Document) (variant : Variant) : Option Document :=
  variant.baseEdits?.map fun edits =>
    { document with deviceName := variant.name }.applyAll edits

end FabricConfig
