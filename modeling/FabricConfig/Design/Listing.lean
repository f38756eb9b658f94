import FabricConfig.Design.Basic
import FabricConfig.LoadError
/-!
# Loading a design

A design is listed in a JSON text: its cells with the BELs they are placed on and their properties,
and its nets with their PIPs. The listing is checked against a device.
-/

namespace FabricConfig

/-- A listed cell. -/
structure CellEntry where
  name : String
  kind : String
  /-- The location and the name of the BEL that the cell is placed on. -/
  bel : Option (Location × String)
  parameters : Std.ExtTreeMap String Property
  attributes : Std.ExtTreeMap String Property

/-- A listed net. -/
structure NetEntry where
  name : String
  pips : List PipId

/-- What a JSON text says about a design. -/
structure Listing where
  cells : List CellEntry
  nets : List NetEntry

/-! ### Decoding -/

namespace Json

/-- Reads properties by key. -/
def asProperties? (json : Json) : Option (Std.ExtTreeMap String Property) :=
  (json.asPairs? Property.ofJson?).map fun pairs => Std.ExtTreeMap.ofList pairs

/-- Reads the place of a BEL. -/
def asBelPlace? (json : Json) : Option (Location × String) := do
  let given ← json.asRecord? ["row", "col", "name"]
  let row ← given.required? "row" asUInt32?
  let col ← given.required? "col" asUInt32?
  let name ← given.required? "name" asText?
  return (⟨row, col⟩, name)

/-- Reads a listed cell. -/
def asCellEntry? (json : Json) : Option CellEntry := do
  let given ← json.asRecord? ["name", "type", "bel", "params", "attrs"]
  let name ← given.required? "name" asText?
  let kind ← given.required? "type" asText?
  let bel ← given.optional? "bel" (asOption? asBelPlace?) none
  let parameters ← given.optional? "params" asProperties? ∅
  let attributes ← given.optional? "attrs" asProperties? ∅
  return ⟨name, kind, bel, parameters, attributes⟩

/-- Reads a listed PIP. -/
def asListedPip? (json : Json) : Option PipId := do
  let given ← json.asRecord? ["row", "col", "index"]
  let row ← given.required? "row" asUInt32?
  let col ← given.required? "col" asUInt32?
  let index ← given.required? "index" asUInt32?
  return ⟨⟨row, col⟩, index⟩

/-- Reads a listed net. -/
def asNetEntry? (json : Json) : Option NetEntry := do
  let given ← json.asRecord? ["name", "pips"]
  let name ← given.required? "name" asText?
  let pips ← given.optional? "pips" (asList? asListedPip?) []
  return ⟨name, pips⟩

end Json

/-- Reads a listing. -/
def Listing.ofJson? (json : Json) : Option Listing := do
  let given ← json.asRecord? ["cells", "nets"]
  let cells ← given.optional? "cells" (Json.asList? Json.asCellEntry?) []
  let nets ← given.optional? "nets" (Json.asList? Json.asNetEntry?) []
  return ⟨cells, nets⟩

/-! ### Building -/

namespace Design

/-- The BEL that a listed cell is placed on, if it is placed. -/
def findBel (db : Database) (entry : CellEntry) : Except LoadError (Option BelId) :=
  match entry.bel with
  | none => .ok none
  | some (location, name) =>
    match db.belNamed? location name with
    | some bel => .ok (some bel)
    | none => .error (.invalid (.unknownBel entry.name location name))

/-- Adds a listed cell. -/
def addEntry (db : Database) (design : Design) (entry : CellEntry) : Except LoadError Design :=
  if (design.cellNamed? entry.name).isSome then .error (.invalid (.duplicateCell entry.name))
  else
    let (id, added) := design.addCell entry.name entry.kind
    match findBel db entry with
    | .error error => .error error
    | .ok bel? =>
      let placed := match bel? with
        | some bel => (added.place id bel).1
        | none => added
      let parametrized := entry.parameters.toList.foldl
        (fun design (key, value) => (design.setParameter id key value).1) placed
      .ok (entry.attributes.toList.foldl
        (fun design (key, value) => (design.setAttribute id key value).1) parametrized)

/-- The name of a net, or nothing if there is no such net. -/
def netName (design : Design) (id : NetId) : String :=
  match (design.net id).bind fun net => design.name net.name with
  | .ok name => name
  | .error _ => ""

/-- Binds a listed PIP to the net `id`, whose name is `name`. -/
def bindListed (db : Database) (id : NetId) (name : String) (design : Design) (pip : PipId) :
    Except LoadError Design :=
  if db.hasPip pip then
    match design.bindPip id pip with
    | (bound, .ok (some other)) =>
      .error (.invalid (.boundTwice pip (bound.netName other) name))
    | (bound, _) => .ok bound
  else .error (.invalid (.unknownPip name pip))

/-- Adds a listed net and binds its PIPs. -/
def addNetEntry (db : Database) (design : Design) (entry : NetEntry) : Except LoadError Design :=
  let (id, added) := design.addNet entry.name
  entry.pips.foldlM (bindListed db id entry.name) added

/-- The design that a listing gives on a device. -/
def ofListing (db : Database) (listing : Listing) : Except LoadError Design := do
  let celled ← listing.cells.foldlM (addEntry db) {}
  listing.nets.foldlM (addNetEntry db) celled

/-- Loads a design from a JSON text. -/
def load (db : Database) (text : String) : Except LoadError Design :=
  match (Json.parse? text).bind Listing.ofJson? with
  | some listing => ofListing db listing
  | none => .error .malformed

end Design

end FabricConfig
