import FabricConfig.Device.Database
/-!
# The grid in order

The order of the grid's locations is that of their slots, so walking the slots visits every
location once and in order, and with them every PIP.

* `slot_locationOfSlot`, `locationOfSlot_slot`: slots and locations of the grid are one to one.
* `mem_locations_iff`: the walk visits the locations of the grid.
* `mem_pips_iff`: the PIPs that are listed are those that exist.
* `pips_ascending`: they are listed in strictly ascending order.

Slots are numbered in 32 bits, so all of this is about grids of at most `UInt32.size` locations.
-/

namespace FabricConfig

/-! ### The order of locations and PIPs -/

theorem Location.compare_eq_lt_iff {first second : Location} :
    compare first second = .lt ↔
      first.row < second.row ∨ first.row = second.row ∧ first.col < second.col := by
  show (compare first.row second.row).then (compare first.col second.col) = .lt ↔ _
  rw [Ordering.then_eq_lt, Std.compare_eq_lt, Std.compare_eq_lt,
    Std.LawfulEqOrd.compare_eq_iff_eq]

theorem PipId.compare_eq_lt_iff {first second : PipId} :
    compare first second = .lt ↔ compare first.location second.location = .lt ∨
      first.location = second.location ∧ first.index < second.index := by
  show (compare first.location second.location).then (compare first.index second.index) = .lt ↔ _
  rw [Ordering.then_eq_lt, Std.LawfulEqOrd.compare_eq_iff_eq,
    Std.compare_eq_lt (a := first.index)]

namespace Database

variable {db : Database} {location first second : Location}

/-! ### Slots -/

theorem Contains.toNat_lt (inside : db.Contains location) :
    location.row.toNat < db.rows.toNat ∧ location.col.toNat < db.cols.toNat :=
  ⟨UInt32.lt_iff_toNat_lt.mp inside.1, UInt32.lt_iff_toNat_lt.mp inside.2⟩

/-- A grid with a slot has columns, and the slot's quotient and remainder are on it. -/
theorem div_mod_lt_of_slot_lt {slot : Nat} (within : slot < db.grid.size) :
    0 < db.cols.toNat ∧ slot / db.cols.toNat < db.rows.toNat ∧
      slot % db.cols.toNat < db.cols.toNat := by
  rw [db.grid_size] at within
  have cols : 0 < db.cols.toNat := by
    rcases Nat.eq_zero_or_pos db.cols.toNat with none | some
    · rw [none, Nat.mul_zero] at within
      exact absurd within (Nat.not_lt_zero _)
    · exact some
  rw [Nat.mul_comm] at within
  exact ⟨cols, Nat.div_lt_of_lt_mul within, Nat.mod_lt _ cols⟩

theorem toNat_locationOfSlot (small : db.grid.size ≤ UInt32.size) {slot : Nat}
    (within : slot < db.grid.size) :
    (db.locationOfSlot slot).row.toNat = slot / db.cols.toNat ∧
      (db.locationOfSlot slot).col.toNat = slot % db.cols.toNat := by
  have faithful : (UInt32.ofNat slot).toNat = slot :=
    UInt32.toNat_ofNat_of_lt' (Nat.lt_of_lt_of_le within small)
  rw [locationOfSlot, UInt32.toNat_div, UInt32.toNat_mod, faithful]
  exact ⟨rfl, rfl⟩

/-- A slot belongs to a location on the grid. -/
theorem slot_locationOfSlot (small : db.grid.size ≤ UInt32.size) {slot : Nat}
    (within : slot < db.grid.size) :
    db.Contains (db.locationOfSlot slot) ∧ db.slot (db.locationOfSlot slot) = slot := by
  obtain ⟨_, row, col⟩ := div_mod_lt_of_slot_lt within
  obtain ⟨rowExact, colExact⟩ := toNat_locationOfSlot small within
  refine ⟨⟨UInt32.lt_iff_toNat_lt.mpr (rowExact ▸ row),
    UInt32.lt_iff_toNat_lt.mpr (colExact ▸ col)⟩, ?_⟩
  rw [Database.slot, rowExact, colExact]
  exact Nat.div_add_mod' slot db.cols.toNat

/-- A location on the grid belongs to its slot. -/
theorem locationOfSlot_slot (small : db.grid.size ≤ UInt32.size)
    (inside : db.Contains location) : db.locationOfSlot (db.slot location) = location := by
  obtain ⟨there, same⟩ := slot_locationOfSlot small (slot_lt inside)
  exact eq_of_slot_eq there inside same

/-- The order of slots is the order of locations. -/
theorem compare_eq_lt_of_slot_lt (firstInside : db.Contains first)
    (secondInside : db.Contains second) (before : db.slot first < db.slot second) :
    compare first second = .lt := by
  have firstCol := firstInside.toNat_lt.2
  have secondCol := secondInside.toNat_lt.2
  rw [Location.compare_eq_lt_iff, UInt32.lt_iff_toNat_lt, UInt32.lt_iff_toNat_lt,
    ← UInt32.toNat_inj]
  rw [Database.slot, Database.slot] at before
  rcases Nat.lt_trichotomy first.row.toNat second.row.toNat with south | same | north
  · exact .inl south
  · rw [same] at before
    exact .inr ⟨same, by omega⟩
  · have below := Nat.mul_le_mul_right db.cols.toNat (Nat.succ_le_of_lt north)
    rw [Nat.succ_mul] at below
    omega

/-! ### Locations -/

/-- **Walking the slots visits the locations of the grid.** -/
theorem mem_locations_iff (small : db.grid.size ≤ UInt32.size) :
    location ∈ db.locations ↔ db.Contains location := by
  rw [locations, List.mem_map]
  constructor
  · rintro ⟨slot, within, rfl⟩
    exact (slot_locationOfSlot small (List.mem_range.mp within)).1
  · intro inside
    exact ⟨db.slot location, List.mem_range.mpr (slot_lt inside), locationOfSlot_slot small inside⟩

theorem locations_ascending (small : db.grid.size ≤ UInt32.size) :
    db.locations.Pairwise fun first second => compare first second = .lt := by
  rw [locations, List.pairwise_map]
  refine List.pairwise_lt_range.imp_of_mem fun {slot later} firstIn secondIn before => ?_
  obtain ⟨firstInside, firstSlot⟩ := slot_locationOfSlot small (List.mem_range.mp firstIn)
  obtain ⟨secondInside, secondSlot⟩ := slot_locationOfSlot small (List.mem_range.mp secondIn)
  refine compare_eq_lt_of_slot_lt firstInside secondInside ?_
  rw [firstSlot, secondSlot]
  exact before

/-! ### PIPs -/

theorem hasPip_eq_true_iff {pip : PipId} :
    db.hasPip pip = true ↔
      ∃ contents, db.contents? pip.location = some contents ∧
        pip.index.toNat < contents.pips.size := by
  unfold hasPip
  cases db.contents? pip.location with
  | none => simp
  | some contents => simp

/-- The PIPs of a location are listed at it, and all of them are. -/
theorem mem_pipsAt_iff {pip : PipId} :
    pip ∈ db.pipsAt location ↔ pip.location = location ∧ db.hasPip pip = true := by
  rw [hasPip_eq_true_iff]
  unfold pipsAt
  cases held : db.contents? location with
  | none =>
    constructor
    · exact nofun
    · rintro ⟨rfl, contents, found, _⟩
      rw [held] at found
      cases found
  | some contents =>
    rw [List.mem_map]
    constructor
    · rintro ⟨index, within, rfl⟩
      rw [List.mem_range, Nat.lt_min] at within
      refine ⟨rfl, contents, held, ?_⟩
      rw [UInt32.toNat_ofNat_of_lt' within.2]
      exact within.1
    · rintro ⟨rfl, other, found, within⟩
      rw [held] at found
      cases found
      refine ⟨pip.index.toNat, List.mem_range.mpr (Nat.lt_min.mpr ⟨within, pip.index.toNat_lt⟩), ?_⟩
      rw [UInt32.ofNat_toNat]

/-- **The PIPs that are listed are those that exist.** -/
theorem mem_pips_iff (small : db.grid.size ≤ UInt32.size) {pip : PipId} :
    pip ∈ db.pips ↔ db.hasPip pip = true := by
  rw [pips, List.mem_flatMap]
  constructor
  · rintro ⟨location, _, member⟩
    exact (mem_pipsAt_iff.mp member).2
  · intro present
    obtain ⟨contents, held, _⟩ := hasPip_eq_true_iff.mp present
    have inside : db.Contains pip.location := isSome_contents?_iff.mp (by rw [held]; rfl)
    exact ⟨pip.location, (mem_locations_iff small).mpr inside, mem_pipsAt_iff.mpr ⟨rfl, present⟩⟩

theorem pipsAt_ascending (location : Location) :
    (db.pipsAt location).Pairwise fun first second => compare first second = .lt := by
  unfold pipsAt
  split
  · rw [List.pairwise_map]
    refine List.pairwise_lt_range.imp_of_mem fun {index later} firstIn secondIn before => ?_
    rw [List.mem_range, Nat.lt_min] at firstIn secondIn
    refine PipId.compare_eq_lt_iff.mpr (.inr ⟨rfl, ?_⟩)
    rw [UInt32.lt_iff_toNat_lt, UInt32.toNat_ofNat_of_lt' firstIn.2,
      UInt32.toNat_ofNat_of_lt' secondIn.2]
    exact before
  · exact List.Pairwise.nil

/-- **PIPs are listed in strictly ascending order**, so none is listed twice. -/
theorem pips_ascending (small : db.grid.size ≤ UInt32.size) :
    db.pips.Pairwise fun first second => compare first second = .lt := by
  rw [pips, List.pairwise_flatMap]
  refine ⟨fun location _ => pipsAt_ascending location, ?_⟩
  refine (locations_ascending small).imp fun before first firstIn second secondIn => ?_
  refine PipId.compare_eq_lt_iff.mpr (.inl ?_)
  rw [(mem_pipsAt_iff.mp firstIn).1, (mem_pipsAt_iff.mp secondIn).1]
  exact before

end Database

end FabricConfig
