/-!
# JSON values

A number is kept apart by its form: an integer literal has a value, any other number only its
text. The fields of an object keep their order and may repeat a key.

A string may be well formed and yet stand for no text, since an escape may give half of a surrogate
pair. Such a string has its place in a value, so that it can be passed over, but nothing is read
from it.
-/

namespace FabricConfig

/-- A JSON value. -/
inductive Json where
  | null
  | bool (value : Bool)
  /-- A number written as an integer literal other than `-0`. -/
  | integer (value : Int)
  /-- A number with a fraction or an exponent, or `-0`. -/
  | decimal (literal : String)
  | text (value : String)
  /-- A string with half of a surrogate pair, or an object with such a key. -/
  | broken
  | array (items : List Json)
  | object (fields : List (String × Json))
deriving Inhabited

namespace Json

mutual

/-- How deep arrays and objects are nested in a value; a scalar has depth zero. -/
def depth : Json → Nat
  | array items => itemsDepth items + 1
  | object fields => fieldsDepth fields + 1
  | _ => 0

/-- The greatest depth of the items of an array. -/
def itemsDepth : List Json → Nat
  | [] => 0
  | item :: rest => max item.depth (itemsDepth rest)

/-- The greatest depth of the fields of an object. -/
def fieldsDepth : List (String × Json) → Nat
  | [] => 0
  | (_, value) :: rest => max value.depth (fieldsDepth rest)

end

end Json

end FabricConfig
