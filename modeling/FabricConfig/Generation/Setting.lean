import FabricConfig.Design.Basic
import FabricConfig.Generation.Plan
/-!
# Settings of a cell

A setting is read from the properties of a cell: as a text, or as a word that is given by an
integer or a binary literal. What is not given has a default.
-/

namespace FabricConfig

/-- A property read as a word. -/
def Property.word (property : Property) (width : Nat) : Except GenerationError Bits :=
  match property with
  | .integer value =>
    (Bits.ofIntChecked value width).mapError (.malformedLiteral property.display)
  | .text literal => (Bits.ofLiteral literal width).mapError (.malformedLiteral literal)

namespace Design

/-- The text of a property, or `otherwise` if it is not given. -/
def textOr (design : Design) (properties : Properties) (key otherwise : String) : String :=
  ((design.property? properties key).map Property.display).getD otherwise

/-- The word that a property gives, or zero if it is not given. -/
def wordOrZero (design : Design) (properties : Properties) (key : String) (width : Nat) :
    Except GenerationError Bits :=
  match design.property? properties key with
  | some property => property.word width
  | none => .ok (Bits.zero width)

end Design

end FabricConfig
