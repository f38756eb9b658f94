import FabricConfig.Device.Database
import FabricConfig.Proofs.Outcome
/-!
# Entries of the tables

When a look-up in the database succeeds, and what it gives. A PIP names its wires by their distance:
where that leads to a wire of the grid, the coordinates are reached without a wrap.

* `pip_eq_ok_iff`, `wireName_eq_ok_iff`, `belName_eq_ok_iff`: a look-up gives the table's entry.
* `tileAt_eq_ok_iff_isFirstTile`: a tile is found by its kind, the first of several.
* `moveCoordinate?_eq_some_iff`: a move is the exact sum, when that is a coordinate.
* `resolve?_eq_some_iff`: a wire is there when both moves are exact and its table reaches it.
* `target_eq_of_resolve?`: following a distance unchecked leads to the same wire.
-/

namespace FabricConfig

/-! ### Moving across the grid -/

namespace Location

variable {coordinate moved : UInt32} {distance rows cols : Int32} {location target : Location}

/-- **A move is the exact sum**, when that is a coordinate. -/
theorem moveCoordinate?_eq_some_iff :
    moveCoordinate? coordinate distance = some moved ↔
      (moved.toNat : Int) = coordinate.toNat + distance.toInt := by
  have size : UInt32.size = 4294967296 := rfl
  unfold moveCoordinate?
  dsimp only
  split
  · rename_i within
    rw [Option.some.injEq, ← UInt32.toNat_inj, UInt32.toNat_ofNat_of_lt' (by omega)]
    omega
  · rename_i beyond
    have below := moved.toNat_lt
    constructor
    · exact nofun
    · omega

theorem offset?_eq_some_iff :
    location.offset? rows cols = some target ↔
      (target.row.toNat : Int) = location.row.toNat + rows.toInt ∧
        (target.col.toNat : Int) = location.col.toNat + cols.toInt := by
  rw [← moveCoordinate?_eq_some_iff, ← moveCoordinate?_eq_some_iff]
  unfold offset?
  rcases target with ⟨row, col⟩
  cases moveCoordinate? location.row rows with
  | none => simp
  | some first => cases moveCoordinate? location.col cols <;> simp

/-- A distance as an unsigned number is the distance modulo the range of coordinates. -/
theorem toNat_toUInt32_distance (distance : Int32) :
    (distance.toUInt32.toNat : Int) = distance.toInt % UInt32.size := by
  rw [← Int32.toInt_toBitVec, BitVec.toInt_eq_toNat_cond]
  show (distance.toUInt32.toBitVec.toNat : Int) = _
  have size : UInt32.size = 4294967296 := rfl
  rw [Int32.toBitVec_toUInt32, size]
  split <;> omega

/-- A move within the range of coordinates does not wrap. -/
theorem add_toUInt32_eq_of_moveCoordinate?
    (reached : moveCoordinate? coordinate distance = some moved) :
    coordinate + distance.toUInt32 = moved := by
  have sum := moveCoordinate?_eq_some_iff.mp reached
  have unsigned := toNat_toUInt32_distance distance
  have size : UInt32.size = 4294967296 := rfl
  have below := moved.toNat_lt
  rw [size] at unsigned
  rw [← UInt32.toNat_inj, UInt32.toNat_add]
  omega

/-- **Where a checked move leads, an unchecked one does.** -/
theorem wrapOffset_eq_of_offset? (reached : location.offset? rows cols = some target) :
    location.wrapOffset rows cols = target := by
  rw [offset?_eq_some_iff, ← moveCoordinate?_eq_some_iff, ← moveCoordinate?_eq_some_iff] at reached
  rw [wrapOffset, add_toUInt32_eq_of_moveCoordinate? reached.1,
    add_toUInt32_eq_of_moveCoordinate? reached.2]

end Location

namespace Database

variable {db : Database} {location : Location} {name : String}

/-! ### Look-ups -/

theorem entry_eq_ok_iff {α : Type} {table : Array α} {index : UInt32} {found : α} :
    entry table index = .ok found ↔ table[index.toNat]? = some found := by
  unfold entry
  cases table[index.toNat]? <;> simp

theorem contents_eq_ok_iff {contents : Contents} :
    db.contents location = .ok contents ↔ db.contents? location = some contents := by
  unfold Database.contents
  cases db.contents? location <;> simp

theorem contains_of_contents? {contents : Contents}
    (held : db.contents? location = some contents) : db.Contains location :=
  isSome_contents?_iff.mp (by rw [held]; rfl)

theorem mem_grid_of_contents? {contents : Contents}
    (held : db.contents? location = some contents) : contents ∈ db.grid := by
  unfold contents? at held
  split at held
  · exact Array.mem_of_getElem? held
  · cases held

theorem pip_eq_ok_iff {id : PipId} {pip : Pip} :
    db.pip id = .ok pip ↔
      ∃ contents, db.contents? id.location = some contents ∧
        contents.pips[id.index.toNat]? = some pip := by
  simp only [Database.pip, bind_eq_ok_iff, contents_eq_ok_iff, entry_eq_ok_iff]

theorem belName_eq_ok_iff {bel : BelId} :
    db.belName bel = .ok name ↔
      ∃ contents entry, db.contents? bel.location = some contents ∧
        contents.bels[bel.index.toNat]? = some entry ∧ entry.name = name := by
  simp only [Database.belName, bind_eq_ok_iff, contents_eq_ok_iff, entry_eq_ok_iff]
  constructor
  · rintro ⟨contents, held, entry, found, named⟩
    exact ⟨contents, entry, held, found, Except.ok.inj named⟩
  · rintro ⟨contents, entry, held, found, rfl⟩
    exact ⟨contents, held, entry, found, rfl⟩

theorem wireName_eq_ok_iff {wire : WireId} :
    db.wireName wire = .ok name ↔
      ∃ contents, db.contents? wire.location = some contents ∧
        contents.wires[wire.index.toNat]? = some name := by
  simp only [Database.wireName, bind_eq_ok_iff, contents_eq_ok_iff, entry_eq_ok_iff]

/-- The tile of a kind at a location is the first of the kind there. -/
theorem tileAt_eq_ok_iff {kind : String} :
    db.tileAt location kind = .ok name ↔
      ∃ contents tile, db.contents? location = some contents ∧
        contents.tileOfKind? kind = some tile ∧ tile.name = name := by
  unfold tileAt
  cases db.contents? location with
  | none => simp
  | some contents =>
    rw [Option.bind_some]
    cases found : contents.tileOfKind? kind <;> simp [found]

/-- The first tile of a kind that covers a location has this name. -/
def IsFirstTile (db : Database) (location : Location) (kind name : String) : Prop :=
  ∃ (contents : Contents) (position : Nat), db.contents? location = some contents ∧
    contents.tiles[position]? = some ⟨name, kind⟩ ∧
    ∀ (earlier : Nat) (other : Tile), earlier < position →
      contents.tiles[earlier]? = some other → other.kind ≠ kind

/-- Whether a tile of a kind covers a location. -/
def Covers (db : Database) (location : Location) (kind : String) : Prop :=
  ∃ contents, db.contents? location = some contents ∧ ∃ tile ∈ contents.tiles, tile.kind = kind

theorem tileAt_eq_ok_iff_isFirstTile {kind : String} :
    db.tileAt location kind = .ok name ↔ db.IsFirstTile location kind name := by
  rw [tileAt_eq_ok_iff, IsFirstTile]
  refine exists_congr fun contents => ?_
  simp only [Contents.tileOfKind?, Array.find?_eq_some_iff_getElem, beq_iff_eq, Bool.not_eq_eq_eq_not,
    Bool.not_true, beq_eq_false_iff_ne]
  constructor
  · rintro ⟨tile, held, ⟨rfl, position, within, rfl, first⟩, rfl⟩
    refine ⟨position, held, Array.getElem?_eq_getElem within, fun earlier other before found => ?_⟩
    obtain ⟨_, rfl⟩ := Array.getElem?_eq_some_iff.mp found
    exact first earlier before
  · rintro ⟨position, held, found, first⟩
    obtain ⟨within, same⟩ := Array.getElem?_eq_some_iff.mp found
    refine ⟨⟨name, kind⟩, held, ⟨rfl, position, within, same, fun earlier before => ?_⟩, rfl⟩
    exact first earlier _ before (Array.getElem?_eq_getElem (Nat.lt_trans before within))

theorem exists_tileAt_iff_covers {kind : String} :
    (∃ name, db.tileAt location kind = .ok name) ↔ db.Covers location kind := by
  simp only [tileAt_eq_ok_iff, Covers, Contents.tileOfKind?]
  constructor
  · rintro ⟨_, contents, tile, held, found, _⟩
    have ofKind := Array.find?_some (p := fun tile : Tile => tile.kind == kind) found
    exact ⟨contents, held, tile, Array.mem_of_find?_eq_some found, beq_iff_eq.mp ofKind⟩
  · rintro ⟨contents, held, tile, member, ofKind⟩
    have some : (contents.tiles.find? (·.kind == kind)).isSome :=
      Array.find?_isSome.mpr ⟨tile, member, beq_iff_eq.mpr ofKind⟩
    obtain ⟨first, found⟩ := Option.isSome_iff_exists.mp some
    exact ⟨first.name, contents, first, held, found, rfl⟩

theorem hasPip_iff_exists_pip {id : PipId} :
    db.hasPip id = true ↔ ∃ pip, db.pip id = .ok pip := by
  simp only [pip_eq_ok_iff]
  unfold hasPip
  cases db.contents? id.location with
  | none => simp
  | some contents =>
    rw [decide_eq_true_eq]
    constructor
    · intro within
      exact ⟨contents.pips[id.index.toNat], contents, rfl, Array.getElem?_eq_getElem within⟩
    · rintro ⟨pip, _, held, found⟩
      cases held
      exact (Array.getElem?_eq_some_iff.mp found).1

/-! ### Relative wires -/

/-- A wire of the grid. -/
def HasWire (db : Database) (wire : WireId) : Prop :=
  ∃ contents, db.contents? wire.location = some contents ∧
    wire.index.toNat < contents.wires.size

theorem hasWire_iff_exists_wireName {wire : WireId} :
    db.HasWire wire ↔ ∃ name, db.wireName wire = .ok name := by
  simp only [wireName_eq_ok_iff, HasWire]
  constructor
  · rintro ⟨contents, held, within⟩
    exact ⟨contents.wires[wire.index.toNat], contents, held, Array.getElem?_eq_getElem within⟩
  · rintro ⟨name, contents, held, found⟩
    exact ⟨contents, held, (Array.getElem?_eq_some_iff.mp found).1⟩

/-- **A wire is there when both moves are exact and the table reaches it.** -/
theorem resolve?_eq_some_iff {relative : RelativeWire} {wire : WireId} :
    db.resolve? location relative = some wire ↔
      location.offset? relative.rows relative.cols = some wire.location ∧
        wire.index = relative.index ∧ db.HasWire wire := by
  simp only [resolve?, Option.bind_eq_some_iff, Option.ite_none_right_eq_some, Option.some.injEq]
  constructor
  · rintro ⟨target, reached, contents, held, within, rfl⟩
    exact ⟨reached, rfl, contents, held, within⟩
  · rintro ⟨reached, sameIndex, contents, held, within⟩
    refine ⟨wire.location, reached, contents, held, sameIndex ▸ within, ?_⟩
    rw [← sameIndex]

/-- **Following a distance unchecked leads to the same wire.** -/
theorem target_eq_of_resolve? {relative : RelativeWire} {wire : WireId}
    (resolved : db.resolve? location relative = some wire) : relative.target location = wire := by
  obtain ⟨reached, sameIndex, _⟩ := resolve?_eq_some_iff.mp resolved
  rw [RelativeWire.target, Location.wrapOffset_eq_of_offset? reached, ← sameIndex]

end Database

end FabricConfig
