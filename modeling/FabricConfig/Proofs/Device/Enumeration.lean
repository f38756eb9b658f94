import FabricConfig.Proofs.Device.Loading
import FabricConfig.Proofs.Json.Extent
import Mathlib.Data.List.Nodup
/-!
# PIPs one by one

The list of all PIPs is complete and in order, as long as locations and PIPs can be told apart by
numbers of 32 bits. A grid that is loaded is far smaller than that; how many PIPs a location has is
bounded by nothing but the text that they are described in.

* `PipId.IsBefore`: by row, then by column, then by index.
* `length_pips`: there are as many PIPs in the list as in the tables of the grid.
* `size_pips_lt_of_load`: a location has fewer PIPs than its description has characters.
* `pips_iff_hasPip_and_ascending`: the list as a whole.
-/

namespace FabricConfig

/-! ### The order of PIPs -/

/-- One PIP comes before another: by row, then by column, then by index. -/
def PipId.IsBefore (first second : PipId) : Prop :=
  first.location.row < second.location.row ∨
    first.location.row = second.location.row ∧
      (first.location.col < second.location.col ∨
        first.location.col = second.location.col ∧ first.index < second.index)

theorem PipId.compare_eq_lt_iff_isBefore {first second : PipId} :
    compare first second = .lt ↔ first.IsBefore second := by
  rw [PipId.compare_eq_lt_iff, Location.compare_eq_lt_iff, PipId.IsBefore]
  have sameLocation : first.location = second.location ↔
      first.location.row = second.location.row ∧ first.location.col = second.location.col := by
    rcases first with ⟨⟨row, col⟩, index⟩
    rcases second with ⟨⟨row', col'⟩, index'⟩
    simp only [Location.mk.injEq]
  rw [sameLocation, or_assoc, and_assoc, ← and_or_left]

instance : Std.Irrefl PipId.IsBefore where
  irrefl pip before := by simp [PipId.IsBefore] at before

namespace Database

variable {db : Database} {location : Location}

/-! ### Counting -/

/-- Numbers of 32 bits are enough for the locations of a grid, and for the PIPs of each. -/
structure IsNumbered (db : Database) : Prop where
  locations : db.grid.size ≤ UInt32.size
  pips : ∀ contents ∈ db.grid, contents.pips.size < UInt32.size

theorem contents?_locationOfSlot (small : db.grid.size ≤ UInt32.size) {slot : Nat}
    (within : slot < db.grid.size) :
    db.contents? (db.locationOfSlot slot) = some db.grid[slot] := by
  obtain ⟨inside, same⟩ := slot_locationOfSlot small within
  rw [contents?, if_pos inside, same, Array.getElem?_eq_getElem within]

/-- A location on the grid holds what is stored in its slot. -/
theorem exists_contents?_of_mem_grid (small : db.grid.size ≤ UInt32.size) {contents : Contents}
    (member : contents ∈ db.grid) : ∃ location, db.contents? location = some contents := by
  obtain ⟨slot, within, rfl⟩ := Array.mem_iff_getElem.mp member
  exact ⟨_, contents?_locationOfSlot small within⟩

/-- Walking the locations reads the grid from its start to its end. -/
theorem map_contents?_locations (small : db.grid.size ≤ UInt32.size) :
    db.locations.map db.contents? = db.grid.toList.map some := by
  apply List.ext_getElem
  · rw [locations, List.length_map, List.length_map, List.length_range, List.length_map,
      Array.length_toList]
  · intro slot within _
    rw [locations, List.length_map, List.length_map, List.length_range] at within
    simp only [locations, List.getElem_map, List.getElem_range, Array.getElem_toList]
    exact contents?_locationOfSlot small within

theorem length_pipsAt (location : Location) :
    (db.pipsAt location).length =
      ((db.contents? location).map fun contents => min contents.pips.size UInt32.size).getD 0 := by
  unfold pipsAt
  cases db.contents? location with
  | none => rfl
  | some contents => rw [List.length_map, List.length_range, Option.map_some, Option.getD_some]

/-- **As many PIPs are listed as are stored.** -/
theorem length_pips (numbered : db.IsNumbered) :
    db.pips.length = (db.grid.toList.map (·.pips.size)).sum := by
  have listed : db.locations.map (fun location => (db.pipsAt location).length) =
      db.grid.toList.map (·.pips.size) := by
    calc db.locations.map (fun location => (db.pipsAt location).length)
        = (db.locations.map db.contents?).map fun held =>
            (held.map fun contents => min contents.pips.size UInt32.size).getD 0 := by
          rw [List.map_map]
          exact List.map_congr_left fun location _ => length_pipsAt location
      _ = db.grid.toList.map fun contents => min contents.pips.size UInt32.size := by
          rw [map_contents?_locations numbered.locations, List.map_map]
          rfl
      _ = db.grid.toList.map (·.pips.size) := List.map_congr_left fun contents member =>
          Nat.min_eq_left (numbered.pips contents (Array.mem_toList_iff.mp member)).le
  rw [pips, List.length_flatMap, listed]

/-! ### What a text can describe -/

theorem size_pips_lt_of_entry {json : Json} {entry : Location × Contents}
    (decoded : json.asEntry? = some entry) : entry.2.pips.size < json.extent := by
  unfold Json.asEntry? at decoded
  split at decoded
  · rename_i fields
    obtain ⟨_, _, decoded⟩ := Option.bind_eq_some_iff.mp decoded
    simp only [Option.bind_eq_bind, Option.bind_eq_some_iff] at decoded
    obtain ⟨given, isRecord, _, _, _, _, _, _, _, _, _, _, pips, listed, same⟩ := decoded
    cases same
    have asRecord : (Json.object fields).asRecord?
        ["row", "col", "tiles", "wires", "bels", "pips"] = some given := isRecord
    rw [List.size_toArray]
    exact Json.length_lt_of_optional? asRecord listed
  · cases decoded

theorem size_pips_lt_of_ofJson? {json : Json} {description : Description}
    (decoded : Description.ofJson? json = some description) :
    ∀ entry ∈ description.entries, entry.2.pips.size < json.extent := by
  unfold Description.ofJson? at decoded
  simp only [Option.bind_eq_bind, Option.bind_eq_some_iff] at decoded
  obtain ⟨given, isRecord, _, _, _, _, _, _, _, _, _, _, entries, listed, same⟩ := decoded
  cases same
  intro entry member
  obtain ⟨item, inside, read⟩ := Json.exists_extent_lt_of_optional? isRecord listed member
  exact (size_pips_lt_of_entry read).trans inside

/-- **A location has fewer PIPs than its description has characters.** -/
theorem size_pips_lt_of_load {text : String} {contents : Contents} (loaded : load text = .ok db)
    (held : db.contents? location = some contents) : contents.pips.size < text.length := by
  unfold load at loaded
  split at loaded
  · rename_i description decoded
    obtain ⟨json, read, described⟩ := Option.bind_eq_some_iff.mp decoded
    have bound := Json.extent_le_of_parse? read
    rw [(holds_of_ofDescription loaded).contents] at held
    split at held
    · cases held
      rw [Description.contentsAt]
      cases last : lastContents? description.entries location with
      | none => exact (Json.one_le_extent json).trans bound
      | some contents =>
        have fewer := size_pips_lt_of_ofJson? described _ (mem_of_lastContents? last)
        exact fewer.trans_le bound
    · cases held
  · cases loaded

/-! ### The list of all PIPs -/

/-- **The list of all PIPs is complete and in order.** On a grid whose locations and PIPs can be
numbered with 32 bits, whatever its shape:

* it has the PIPs that exist, and none of them twice;
* they ascend strictly, by row, then by column, then by index;
* there are as many as all tables of the grid have together.

The grid of a database that is loaded is small enough, and so are its tables, unless the text has
more characters than there are numbers. -/
theorem pips_iff_hasPip_and_ascending (db : Database) :
    (db.IsNumbered →
      (∀ pip : PipId, pip ∈ db.pips ↔ db.hasPip pip = true) ∧
      db.pips.Nodup ∧
      db.pips.Pairwise PipId.IsBefore ∧
      db.pips.length = (db.grid.toList.map (·.pips.size)).sum) ∧
    (∀ first second : PipId, compare first second = .lt ↔ first.IsBefore second) ∧
    ∀ text : String, load text = .ok db →
      db.grid.size ≤ UInt32.size ∧ (text.length ≤ UInt32.size → db.IsNumbered) := by
  refine ⟨fun numbered => ?_, fun _ _ => PipId.compare_eq_lt_iff_isBefore,
    fun text loaded => ?_⟩
  · have ascending : db.pips.Pairwise PipId.IsBefore :=
      (pips_ascending numbered.locations).imp PipId.compare_eq_lt_iff_isBefore.mp
    exact ⟨fun _ => mem_pips_iff numbered.locations, ascending.nodup, ascending,
      length_pips numbered⟩
  · have small := (isSound_of_load loaded).small
    refine ⟨small, fun short => ⟨small, fun contents member => ?_⟩⟩
    obtain ⟨location, held⟩ := exists_contents?_of_mem_grid small member
    exact (size_pips_lt_of_load loaded held).trans_le short

/-- Two rows of three columns, with PIPs at three of the six locations. -/
def scattered : Database where
  __ := Database.empty .hc256 2 3
  grid :=
    let pip : Pip := ⟨⟨0, 0, 0⟩, ⟨0, 0, 0⟩, "PLB", .fixed⟩
    #[{}, { pips := #[pip, pip] }, {}, { pips := #[pip] }, {}, { pips := #[pip] }]
  grid_size := rfl

/-- PIPs of the first row come first, and those of one location stand together. -/
theorem pips_scattered : scattered.IsNumbered ∧
    scattered.pips = [⟨⟨0, 1⟩, 0⟩, ⟨⟨0, 1⟩, 1⟩, ⟨⟨1, 0⟩, 0⟩, ⟨⟨1, 2⟩, 0⟩] ∧
    scattered.pips.Pairwise PipId.IsBefore ∧ scattered.pips.length = 4 := by
  have numbered : scattered.IsNumbered := ⟨by decide, by decide⟩
  obtain ⟨_, _, ascending, length⟩ := (pips_iff_hasPip_and_ascending scattered).1 numbered
  exact ⟨numbered, by decide, ascending, length⟩

/-- A grid without rows or without columns has no PIPs. -/
example : (Database.empty .hc256 0 3).pips = [] ∧ (Database.empty .hc256 3 0).pips = [] :=
  ⟨rfl, rfl⟩

end Database

end FabricConfig
