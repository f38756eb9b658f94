import FabricConfig.Json.Decode
import FabricConfig.Text.Numeral
/-!
# Properties

A property of a cell is an integer or a text.
-/

namespace FabricConfig

/-- The value of a cell's parameter or attribute. -/
inductive Property where
  | integer (value : Int64)
  | text (value : String)
deriving DecidableEq, Repr, Inhabited

namespace Property

/-- A property as a text: an integer in decimal, a text unchanged. -/
def display : Property → String
  | .integer value => String.ofList (Text.signedDecimal value.toInt)
  | .text value => value

/-- A property as JSON. -/
def toJson : Property → Json
  | .integer value => .integer value.toInt
  | .text value => .text value

/-- Reads a property from JSON. -/
def ofJson? (json : Json) : Option Property :=
  match json.asInt64? with
  | some value => some (.integer value)
  | none => json.asText?.map .text

end Property

end FabricConfig
