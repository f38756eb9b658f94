import FabricConfig.Device.Contents
import FabricConfig.Device.Variant
/-!
# The device database

A grid of locations, stored row by row. Looking up an entry that is not there is a fault; looking
up a tile by its kind, when there is none, is an error that names the kind.

* `grid_size`: the grid has one entry for each row and column.
* `eq_of_slot_eq`: no two locations on the grid share an entry.
* `contents?_modify_self`, `contents?_modify_of_ne`: a change reaches one location and no other.
-/

namespace FabricConfig

/-- A request for something that does not exist. -/
inductive Fault where
  /-- The location is not on the grid. -/
  | outsideGrid (location : Location)
  /-- A table has no entry with the index asked for. -/
  | missingEntry
deriving DecidableEq, Repr

/-- What is said about a fault, if anything. -/
def Fault.message? : Fault → Option String
  | .outsideGrid location => some s!"{location} is outside the grid"
  | .missingEntry => none

/-- Why no tile was found. -/
inductive TileError where
  /-- No tile of the kind covers the location. -/
  | noneAt (kind : String) (location : Location)
  /-- The whole device has no tile of the kind. -/
  | none (kind : String)
deriving DecidableEq, Repr

/-- The wording of a tile error. -/
def TileError.message : TileError → String
  | .noneAt kind location => s!"no {kind} tile at {location}"
  | .none kind => s!"device has no {kind} tile"

/-- The database of one device. -/
structure Database where
  variant : Variant
  package : String
  speed : String
  rows : UInt32
  cols : UInt32
  /-- The contents of the locations, row by row. -/
  grid : Array Contents
  grid_size : grid.size = rows.toNat * cols.toNat

namespace Database

/-- A device with nothing on its grid. -/
def empty (variant : Variant) (rows cols : UInt32) : Database where
  variant := variant
  package := variant.defaultPackage
  speed := "4"
  rows := rows
  cols := cols
  grid := Array.replicate (rows.toNat * cols.toNat) {}
  grid_size := Array.size_replicate

/-- The name of the part. -/
def partName (db : Database) : String := db.variant.partName db.speed db.package

/-! ### Locations -/

/-- Whether a location is on the grid. -/
def Contains (db : Database) (location : Location) : Prop :=
  location.row < db.rows ∧ location.col < db.cols

instance (db : Database) (location : Location) : Decidable (db.Contains location) :=
  inferInstanceAs (Decidable (_ ∧ _))

/-- The place of a location in the grid's row by row order. -/
def slot (db : Database) (location : Location) : Nat :=
  location.row.toNat * db.cols.toNat + location.col.toNat

/-- A location on the grid has a place in its order. -/
theorem slot_lt {db : Database} {location : Location} (inside : db.Contains location) :
    db.slot location < db.grid.size := by
  have row : location.row.toNat + 1 ≤ db.rows.toNat := UInt32.lt_iff_toNat_lt.mp inside.1
  have col : location.col.toNat < db.cols.toNat := UInt32.lt_iff_toNat_lt.mp inside.2
  have whole := Nat.mul_le_mul_right db.cols.toNat row
  rw [Nat.add_mul] at whole
  rw [db.grid_size, slot]
  omega

/-- What a location holds, if it is on the grid. -/
def contents? (db : Database) (location : Location) : Option Contents :=
  if db.Contains location then db.grid[db.slot location]? else none

/-- Every location on the grid holds something, if only empty tables. -/
theorem isSome_contents?_iff {db : Database} {location : Location} :
    (db.contents? location).isSome ↔ db.Contains location := by
  by_cases inside : db.Contains location
  · simp [contents?, inside, Array.getElem?_eq_getElem (slot_lt inside)]
  · simp [contents?, inside]

/-- What a location on the grid holds. -/
def contents (db : Database) (location : Location) : Except Fault Contents :=
  match db.contents? location with
  | some contents => .ok contents
  | none => .error (.outsideGrid location)

/-- Changes what a location on the grid holds. -/
def modify (db : Database) (location : Location) (change : Contents → Contents) :
    Except Fault Database :=
  if db.Contains location then
    .ok { db with
      grid := db.grid.modify (db.slot location) change
      grid_size := by rw [Array.size_modify, db.grid_size] }
  else .error (.outsideGrid location)

/-- A location on the grid is known by its place in the order. -/
theorem eq_of_slot_eq {db : Database} {first second : Location} (firstInside : db.Contains first)
    (secondInside : db.Contains second) (same : db.slot first = db.slot second) :
    first = second := by
  have firstCol : first.col.toNat < db.cols.toNat := UInt32.lt_iff_toNat_lt.mp firstInside.2
  have secondCol : second.col.toNat < db.cols.toNat := UInt32.lt_iff_toNat_lt.mp secondInside.2
  have positive : 0 < db.cols.toNat := by omega
  have rows : first.row.toNat = second.row.toNat := by
    have quotient := congrArg (· / db.cols.toNat) same
    simpa [slot, Nat.add_comm, Nat.add_mul_div_right _ _ positive, Nat.div_eq_of_lt firstCol,
      Nat.div_eq_of_lt secondCol] using quotient
  have cols : first.col.toNat = second.col.toNat := by
    rw [slot, slot, rows] at same
    omega
  rcases first with ⟨row, col⟩
  rcases second with ⟨row', col'⟩
  simp only [UInt32.toNat_inj] at rows cols
  rw [rows, cols]

/-- A change needs a location on the grid and leaves the size of the grid as it is. -/
theorem modify_eq_ok {db after : Database} {location : Location} {change : Contents → Contents}
    (changed : db.modify location change = .ok after) :
    db.Contains location ∧ (∀ other, after.Contains other ↔ db.Contains other) ∧
      (∀ other, after.slot other = db.slot other) ∧
      after.grid = db.grid.modify (db.slot location) change := by
  unfold modify at changed
  split at changed
  · rename_i inside
    cases changed
    exact ⟨inside, fun _ => Iff.rfl, fun _ => rfl, rfl⟩
  · cases changed

/-- A change is made where it is asked for. -/
theorem contents?_modify_self {db after : Database} {location : Location}
    {change : Contents → Contents} (changed : db.modify location change = .ok after) :
    after.contents? location = (db.contents? location).map change := by
  obtain ⟨inside, contains, slots, grid⟩ := modify_eq_ok changed
  rw [contents?, contents?, if_pos ((contains location).mpr inside), if_pos inside, slots, grid,
    Array.getElem?_modify, if_pos rfl]

/-- A change leaves all other locations as they are. -/
theorem contents?_modify_of_ne {db after : Database} {location other : Location}
    {change : Contents → Contents} (changed : db.modify location change = .ok after)
    (different : other ≠ location) : after.contents? other = db.contents? other := by
  obtain ⟨inside, contains, slots, grid⟩ := modify_eq_ok changed
  by_cases there : db.Contains other
  · have apart : db.slot location ≠ db.slot other := fun same =>
      different (eq_of_slot_eq inside there same).symm
    rw [contents?, contents?, if_pos ((contains other).mpr there), if_pos there, slots, grid,
      Array.getElem?_modify, if_neg apart]
  · rw [contents?, contents?, if_neg (mt (contains other).mp there), if_neg there]

/-! ### Building -/

/-- Adds a tile that covers a location. -/
def addTile (db : Database) (location : Location) (name kind : String) : Except Fault Database :=
  db.modify location fun contents => { contents with tiles := contents.tiles.push ⟨name, kind⟩ }

/-- Adds a wire. -/
def addWire (db : Database) (location : Location) (name : String) :
    Except Fault (WireId × Database) := do
  let before ← db.contents location
  let after ← db.modify location fun contents =>
    { contents with wires := contents.wires.push name }
  return (⟨location, UInt32.ofNat before.wires.size⟩, after)

/-- Adds a BEL. -/
def addBel (db : Database) (location : Location) (name kind : String) :
    Except Fault (BelId × Database) := do
  let before ← db.contents location
  let after ← db.modify location fun contents =>
    { contents with bels := contents.bels.push ⟨name, kind⟩ }
  return (⟨location, UInt32.ofNat before.bels.size⟩, after)

/-- Adds a PIP whose arc is kept in the tile of a kind at its location. -/
def addPip (db : Database) (location : Location) (source sink : WireId) (tileKind : String)
    (pipClass : PipClass) : Except Fault (PipId × Database) := do
  let before ← db.contents location
  let pip : Pip := ⟨.between location source, .between location sink, tileKind, pipClass⟩
  let after ← db.modify location fun contents => { contents with pips := contents.pips.push pip }
  return (⟨location, UInt32.ofNat before.pips.size⟩, after)

/-! ### Entries -/

/-- The entry of a table at an index. -/
def entry {α : Type} (table : Array α) (index : UInt32) : Except Fault α :=
  match table[index.toNat]? with
  | some found => .ok found
  | none => .error .missingEntry

/-- The name of a wire. -/
def wireName (db : Database) (wire : WireId) : Except Fault String := do
  entry (← db.contents wire.location).wires wire.index

/-- The name of a BEL. -/
def belName (db : Database) (bel : BelId) : Except Fault String := do
  return (← entry (← db.contents bel.location).bels bel.index).name

/-- The entry of a PIP. -/
def pip (db : Database) (id : PipId) : Except Fault Pip := do
  entry (← db.contents id.location).pips id.index

/-- Whether there is such a PIP. -/
def hasPip (db : Database) (id : PipId) : Bool :=
  match db.contents? id.location with
  | some contents => id.index.toNat < contents.pips.size
  | none => false

/-- The wire that drives a PIP. -/
def pipSource (db : Database) (id : PipId) : Except Fault WireId := do
  return (← db.pip id).source.target id.location

/-- The wire that a PIP drives. -/
def pipSink (db : Database) (id : PipId) : Except Fault WireId := do
  return (← db.pip id).sink.target id.location

/-- The location of a place in the grid's row by row order. -/
def locationOfSlot (db : Database) (slot : Nat) : Location :=
  ⟨UInt32.ofNat slot / db.cols, UInt32.ofNat slot % db.cols⟩

/-- The locations of the grid, row by row. -/
def locations (db : Database) : List Location :=
  (List.range db.grid.size).map db.locationOfSlot

/-- The PIPs of a location, in the order of its table, as far as indices reach. An implementation
that counts them in 32 bits lists fewer of them where there are `UInt32.size` or more. -/
def pipsAt (db : Database) (location : Location) : List PipId :=
  match db.contents? location with
  | some contents =>
    (List.range (min contents.pips.size UInt32.size)).map fun index =>
      ⟨location, UInt32.ofNat index⟩
  | none => []

/-- All PIPs, location by location. -/
def pips (db : Database) : List PipId := db.locations.flatMap db.pipsAt

/-- The BEL of a name at a location, the first of several. -/
def belNamed? (db : Database) (location : Location) (name : String) : Option BelId :=
  (db.contents? location).bind fun contents =>
    (contents.bels.findIdx? (·.name == name)).map fun index => ⟨location, UInt32.ofNat index⟩

/-! ### Tiles by kind -/

/-- The name of the first tile of a kind that covers a location. -/
def tileAt (db : Database) (location : Location) (kind : String) : Except TileError String :=
  match (db.contents? location).bind (·.tileOfKind? kind) with
  | some tile => .ok tile.name
  | none => .error (.noneAt kind location)

/-- The name of the first tile of a kind on the whole grid. -/
def tileOfKind (db : Database) (kind : String) : Except TileError String :=
  match db.grid.findSome? (·.tileOfKind? kind) with
  | some tile => .ok tile.name
  | none => .error (.none kind)

/-- The name of the tile that holds a PIP's arc. -/
def pipTile (db : Database) (id : PipId) : Except Fault (Except TileError String) := do
  return db.tileAt id.location (← db.pip id).tileKind

/-! ### Relative wires -/

/-- The wire seen from a location, if there is one. -/
def resolve? (db : Database) (location : Location) (wire : RelativeWire) : Option WireId :=
  (location.offset? wire.rows wire.cols).bind fun target =>
    (db.contents? target).bind fun contents =>
      if wire.index.toNat < contents.wires.size then some ⟨target, wire.index⟩ else none

end Database

end FabricConfig
