/-!
# TOML values

A table keeps its keys in the order in which they come; no key stands twice. Floats and dates keep
only their text.
-/

namespace FabricConfig

/-- A TOML value. -/
inductive Toml where
  | string (value : String)
  | integer (value : Int)
  | float (literal : String)
  | boolean (value : Bool)
  /-- A date, a time, or both. -/
  | moment (literal : String)
  | array (items : List Toml)
  | table (entries : List (String × Toml))
deriving Inhabited

end FabricConfig
