import FabricConfig.Json.Decode
import FabricConfig.Text.Numeral
/-!
# Locations and what lives there

Rows grow to the north and columns to the east. Every wire, BEL and PIP belongs to a location and
has an index into that location's table of its kind. Locations are ordered row by row, identities
by location and then by index.
-/

namespace FabricConfig

/-- A place in the device grid. -/
structure Location where
  row : UInt32
  col : UInt32
deriving DecidableEq, Repr, Inhabited

namespace Location

instance : Ord Location :=
  ⟨compareLex (compareOn Location.row) (compareOn Location.col)⟩

instance : Std.TransOrd Location :=
  inferInstanceAs (Std.TransCmp (compareLex (compareOn Location.row) (compareOn Location.col)))

instance : Std.LawfulEqOrd Location where
  eq_of_compare {first second} same := by
    have both := Ordering.then_eq_eq.mp
      (show (compare first.row second.row).then (compare first.col second.col) = .eq from same)
    rcases first with ⟨row, col⟩
    rcases second with ⟨row', col'⟩
    simp only [Std.LawfulEqOrd.compare_eq_iff_eq] at both
    simp [both]

/-- A location written as `R<row>C<col>`. -/
def text (location : Location) : List Char :=
  'R' :: Text.decimal location.row.toNat ++ 'C' :: Text.decimal location.col.toNat

instance : ToString Location := ⟨fun location => String.ofList location.text⟩

/-- A coordinate moved by a signed distance, unless it leaves the range of coordinates. -/
def moveCoordinate? (coordinate : UInt32) (distance : Int32) : Option UInt32 :=
  let moved := coordinate.toNat + distance.toInt
  if 0 ≤ moved ∧ moved < UInt32.size then some (UInt32.ofNat moved.toNat) else none

/-- The location some rows to the north and columns to the east. -/
def offset? (location : Location) (rows cols : Int32) : Option Location :=
  match moveCoordinate? location.row rows, moveCoordinate? location.col cols with
  | some row, some col => some ⟨row, col⟩
  | _, _ => none

/-- The location some rows to the north and columns to the east, with coordinates that wrap at
the end of their range. -/
def wrapOffset (location : Location) (rows cols : Int32) : Location :=
  ⟨location.row + rows.toUInt32, location.col + cols.toUInt32⟩

/-- A location as JSON. -/
def toJson (location : Location) : Json :=
  .object [("row", .integer location.row.toNat), ("col", .integer location.col.toNat)]

/-- Reads a location from JSON. -/
def ofJson? (json : Json) : Option Location := do
  let given ← json.asRecord? ["row", "col"]
  let row ← given.required? "row" Json.asUInt32?
  let col ← given.required? "col" Json.asUInt32?
  return ⟨row, col⟩

end Location

/-- The identity of a wire. -/
structure WireId where
  location : Location
  index : UInt32
deriving DecidableEq, Repr, Inhabited

/-- The identity of a BEL, a site that one primitive can be placed on. -/
structure BelId where
  location : Location
  index : UInt32
deriving DecidableEq, Repr, Inhabited

/-- The identity of a PIP, a switch between two wires. -/
structure PipId where
  location : Location
  index : UInt32
deriving DecidableEq, Repr, Inhabited

/-- A location and an index, written as `R<row>C<col>/<index>`. -/
def indexedText (location : Location) (index : UInt32) : List Char :=
  location.text ++ '/' :: Text.decimal index.toNat

instance : ToString WireId := ⟨fun wire => String.ofList (indexedText wire.location wire.index)⟩

instance : ToString BelId := ⟨fun bel => String.ofList (indexedText bel.location bel.index)⟩

instance : ToString PipId := ⟨fun pip => String.ofList (indexedText pip.location pip.index)⟩

namespace PipId

instance : Ord PipId :=
  ⟨compareLex (compareOn PipId.location) (compareOn PipId.index)⟩

instance : Std.TransOrd PipId :=
  inferInstanceAs (Std.TransCmp (compareLex (compareOn PipId.location) (compareOn PipId.index)))

instance : Std.LawfulEqOrd PipId where
  eq_of_compare {first second} same := by
    have both := Ordering.then_eq_eq.mp
      (show (compare first.location second.location).then
        (compare first.index second.index) = .eq from same)
    rcases first with ⟨location, index⟩
    rcases second with ⟨location', index'⟩
    simp only [Std.LawfulEqOrd.compare_eq_iff_eq] at both
    simp [both]

/-- A PIP's identity as JSON. -/
def toJson (pip : PipId) : Json :=
  .object [("location", pip.location.toJson), ("index", .integer pip.index.toNat)]

/-- Reads a PIP's identity from JSON. -/
def ofJson? (json : Json) : Option PipId := do
  let given ← json.asRecord? ["location", "index"]
  let location ← given.required? "location" Location.ofJson?
  let index ← given.required? "index" Json.asUInt32?
  return ⟨location, index⟩

end PipId

end FabricConfig
