import FabricConfig.Device.Database
import FabricConfig.Json.Readable
import FabricConfig.LoadError
/-!
# Loading a device database

A database is described by a JSON text: the grid's size and entries for some of its locations. Of
several entries for one location the last counts. The description is accepted when every entry is
on the grid and every PIP joins two wires that are there.
-/

namespace FabricConfig

/-- What a JSON text says about a device. -/
structure Description where
  variant : String
  package : Option String
  speed : Option String
  rows : UInt32
  cols : UInt32
  entries : List (Location × Contents)

/-! ### Decoding -/

namespace Json

/-- Reads the name of a choice where no content may also be written as an empty object. -/
def asLooseName? : Json → Option String
  | .object [(name, .object [])] => some name
  | json => json.asName?

/-- Reads the name of a wire. -/
def asWire? (json : Json) : Option String := do
  let given ← json.asRecord? ["name"]
  given.required? "name" asText?

/-- Reads an entry that is made of a name and a kind. -/
def asNamed? {α : Type} (make : String → String → α) (json : Json) : Option α := do
  let given ← json.asRecord? ["name", "type"]
  return make (← given.required? "name" asText?) (← given.required? "type" asText?)

/-- Reads a tile. -/
def asTile? : Json → Option Tile := asNamed? Tile.mk

/-- Reads a BEL. -/
def asBel? : Json → Option Bel := asNamed? Bel.mk

/-- Reads a relative wire. -/
def asRelativeWire? (json : Json) : Option RelativeWire := do
  let given ← json.asRecord? ["rel_row", "rel_col", "index"]
  let rows ← given.required? "rel_row" asInt32?
  let cols ← given.required? "rel_col" asInt32?
  let index ← given.required? "index" asUInt32?
  return ⟨rows, cols, index⟩

/-- Reads the class of a PIP. -/
def asPipClass? (json : Json) : Option PipClass :=
  match json.asLooseName? with
  | some "configurable" => some .configurable
  | some "fixed" => some .fixed
  | _ => none

/-- Reads a PIP. -/
def asPip? (json : Json) : Option Pip := do
  let given ← json.asRecord? ["src", "dst", "tile_type", "class"]
  let source ← given.required? "src" asRelativeWire?
  let sink ← given.required? "dst" asRelativeWire?
  let tileKind ← given.required? "tile_type" asText?
  let pipClass ← given.optional? "class" asPipClass? .configurable
  return ⟨source, sink, tileKind, pipClass⟩

/-- How deep an entry may be nested. -/
def maxEntryDepth : Nat := 125

/-- Reads the entry for a location. All of it must be readable, unknown fields too. -/
def asEntry? (json : Json) : Option (Location × Contents) :=
  match json with
  | .object fields => do
    guard (json.depth ≤ maxEntryDepth ∧ json.isReadable)
    let given ← recordOfFields? ["row", "col", "tiles", "wires", "bels", "pips"] fields
    let row ← given.required? "row" asUInt32?
    let col ← given.required? "col" asUInt32?
    let tiles ← given.optional? "tiles" (asList? asTile?) []
    let wires ← given.optional? "wires" (asList? asWire?) []
    let bels ← given.optional? "bels" (asList? asBel?) []
    let pips ← given.optional? "pips" (asList? asPip?) []
    return (⟨row, col⟩, ⟨tiles.toArray, wires.toArray, bels.toArray, pips.toArray⟩)
  | _ => none

end Json

/-- Reads a description. -/
def Description.ofJson? (json : Json) : Option Description := do
  let given ← json.asRecord? ["variant", "package", "speed", "rows", "cols", "locations"]
  let variant ← given.required? "variant" Json.asText?
  let package ← given.optional? "package" (Json.asOption? Json.asText?) none
  let speed ← given.optional? "speed" (Json.asOption? Json.asText?) none
  let rows ← given.required? "rows" Json.asUInt32?
  let cols ← given.required? "cols" Json.asUInt32?
  let entries ← given.optional? "locations" (Json.asList? Json.asEntry?) []
  return ⟨variant, package, speed, rows, cols, entries⟩

/-! ### Checking -/

namespace Database

/-- Puts the entry for a location in the place of what was there. -/
def place (db : Database) (entry : Location × Contents) : Except LoadError Database :=
  match db.modify entry.1 fun _ => entry.2 with
  | .ok placed => .ok placed
  | .error _ => .error (.invalid (.outsideGrid entry.1))

/-- The first of the two ends of a PIP that is not there. -/
def missingEnd? (db : Database) (location : Location) (pip : Pip) : Option RelativeWire :=
  if (db.resolve? location pip.source).isNone then some pip.source
  else if (db.resolve? location pip.sink).isNone then some pip.sink
  else none

/-- The first PIP at a location that lacks a wire. -/
def brokenPip? (db : Database) (location : Location) : Option InvalidData :=
  (db.contents? location).bind fun contents =>
    contents.pips.toList.zipIdx.findSome? fun (pip, index) =>
      (db.missingEnd? location pip).map (.missingWire index location)

/-- The first PIP on the grid that lacks a wire. -/
def firstBrokenPip? (db : Database) : Option InvalidData :=
  db.locations.findSome? db.brokenPip?

/-- The database that a description gives. -/
def ofDescription (description : Description) : Except LoadError Database :=
  match Variant.parse description.variant with
  | .error unknown => .error (.unknownVariant unknown)
  | .ok variant =>
    if maxGridSize < description.rows.toNat * description.cols.toNat then
      .error (.invalid (.oversizedGrid description.rows description.cols))
    else do
      let bare := Database.empty variant description.rows description.cols
      let named := { bare with
        package := description.package.getD bare.package
        speed := description.speed.getD bare.speed }
      let db ← description.entries.foldlM place named
      match db.firstBrokenPip? with
      | some broken => .error (.invalid broken)
      | none => .ok db

/-- Loads a database from a JSON text. -/
def load (text : String) : Except LoadError Database :=
  match (Json.parse? text).bind Description.ofJson? with
  | some description => ofDescription description
  | none => .error .malformed

end Database

end FabricConfig
