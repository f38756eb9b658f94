import FabricConfig.Device.Location
/-!
# The contents of a location

The tiles that cover a location, and its tables of wires, BELs and PIPs. A PIP names its two wires
relative to its own location.
-/

namespace FabricConfig

/-- A tile: the unit in which the configuration is kept. -/
structure Tile where
  name : String
  kind : String
deriving DecidableEq, Repr, Inhabited

/-- A BEL's entry in the table of its location. -/
structure Bel where
  name : String
  kind : String
deriving DecidableEq, Repr, Inhabited

/-- A wire as seen from a location: a signed distance to the wire's location, and an index there. -/
structure RelativeWire where
  rows : Int32
  cols : Int32
  index : UInt32
deriving DecidableEq, Repr, Inhabited

/-- Whether a PIP needs a setting. -/
inductive PipClass where
  /-- A switch, closed by an arc in the configuration. -/
  | configurable
  /-- A permanent connection. -/
  | fixed
deriving DecidableEq, Repr, Inhabited

/-- A PIP's entry in the table of its location. -/
structure Pip where
  source : RelativeWire
  sink : RelativeWire
  /-- The kind of the tile at the PIP's location that holds its arc. -/
  tileKind : String
  pipClass : PipClass := .configurable
deriving DecidableEq, Repr, Inhabited

/-- What a location holds. A wire's entry is its name. -/
structure Contents where
  tiles : Array Tile := #[]
  wires : Array String := #[]
  bels : Array Bel := #[]
  pips : Array Pip := #[]
deriving DecidableEq, Repr, Inhabited

/-- The first tile of a kind. -/
def Contents.tileOfKind? (contents : Contents) (kind : String) : Option Tile :=
  contents.tiles.find? (·.kind == kind)

/-- The wire that `wire` is when seen from `location`. -/
def RelativeWire.between (location : Location) (wire : WireId) : RelativeWire :=
  ⟨wire.location.row.toInt32 - location.row.toInt32,
    wire.location.col.toInt32 - location.col.toInt32, wire.index⟩

/-- The wire seen from `location`, whether or not there is one. -/
def RelativeWire.target (wire : RelativeWire) (location : Location) : WireId :=
  ⟨location.wrapOffset wire.rows wire.cols, wire.index⟩

end FabricConfig
