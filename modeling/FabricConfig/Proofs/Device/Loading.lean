import FabricConfig.Proofs.Device.Soundness
/-!
# What a description gives

A description is accepted exactly when it is consistent in itself, and then the database holds what
is described. Entries may stand in any order: the last one for a location counts, and PIPs are
checked when all entries are in place.

* `Description.IsConsistent`: what a description must have.
* `IsPlaced.concat`, `foldlM_place_outcome`: what placing entries makes of a database, and when it
  can be done.
* `Holds`, `Holds.hasEnds_iff`: a PIP has both wires in the database exactly if they are described.
* `ofDescription_iff_isConsistent`: whole descriptions.
-/

namespace FabricConfig

/-! ### Descriptions -/

/-- The contents given last for a location in a list of entries. -/
def lastContents? (entries : List (Location × Contents)) (location : Location) : Option Contents :=
  (entries.filter fun entry => entry.1 = location).getLast?.map (·.2)

theorem lastContents?_concat (entries : List (Location × Contents)) (entry : Location × Contents)
    (location : Location) :
    lastContents? (entries ++ [entry]) location =
      if entry.1 = location then some entry.2 else lastContents? entries location := by
  rw [lastContents?, List.filter_append]
  by_cases same : entry.1 = location
  · simp [same]
  · simp [same, lastContents?]

namespace Description

variable (description : Description)

/-- Whether a location is on the grid that is described. -/
def Contains (location : Location) : Prop :=
  location.row < description.rows ∧ location.col < description.cols

instance (location : Location) : Decidable (description.Contains location) :=
  inferInstanceAs (Decidable (_ ∧ _))

/-- What is described at a location of the grid: its last entry, or empty tables without one. -/
def contentsAt (location : Location) : Contents :=
  (lastContents? description.entries location).getD {}

/-- Whether a wire that is named by its distance from a location is described: the exact distance
leads to a location on the grid, and the wire's index is below the number of wires there. -/
def HasWire (location : Location) (wire : RelativeWire) : Prop :=
  ∃ target : Location, (target.row.toNat : Int) = location.row.toNat + wire.rows.toInt ∧
    (target.col.toNat : Int) = location.col.toNat + wire.cols.toInt ∧
    description.Contains target ∧
    wire.index.toNat < (description.contentsAt target).wires.size

/-- What a description must have to be accepted. Entries that are followed by another one for the
same location need only be on the grid. -/
structure IsConsistent : Prop where
  variant : ∃ variant, Variant.parse description.variant = .ok variant
  size : description.rows.toNat * description.cols.toNat ≤ 65536
  inside : ∀ entry ∈ description.entries, description.Contains entry.1
  wires : ∀ location contents, lastContents? description.entries location = some contents →
    ∀ pip ∈ contents.pips,
      description.HasWire location pip.source ∧ description.HasWire location pip.sink

end Description

namespace Database

variable {db after : Database} {entry : Location × Contents}
  {entries : List (Location × Contents)} {description : Description}

/-! ### Placing entries -/

/-- What placing entries makes of a database: the grid keeps its size, and a location holds the last
entry for it, or else what it held before. -/
structure IsPlaced (db : Database) (entries : List (Location × Contents)) (after : Database) :
    Prop where
  variant : after.variant = db.variant
  rows : after.rows = db.rows
  cols : after.cols = db.cols
  contents : ∀ location, db.Contains location →
    after.contents? location = (lastContents? entries location).or (db.contents? location)

theorem contains_congr (rows : after.rows = db.rows) (cols : after.cols = db.cols)
    (location : Location) : after.Contains location ↔ db.Contains location := by
  rw [Contains, Contains, rows, cols]

theorem place_eq_ok_iff :
    db.place entry = .ok after ↔ db.modify entry.1 (fun _ => entry.2) = .ok after := by
  unfold place
  cases db.modify entry.1 fun _ => entry.2 <;> simp

/-- An entry is placed when it is for a location on the grid. -/
theorem exists_place_iff : (∃ after, db.place entry = .ok after) ↔ db.Contains entry.1 := by
  by_cases inside : db.Contains entry.1 <;> simp [place_eq_ok_iff, modify, inside]

theorem sameGrid_of_modify {location : Location} {change : Contents → Contents}
    (changed : db.modify location change = .ok after) :
    after.variant = db.variant ∧ after.rows = db.rows ∧ after.cols = db.cols := by
  unfold modify at changed
  split at changed
  · cases changed
    exact ⟨rfl, rfl, rfl⟩
  · cases changed

theorem isPlaced_nil (db : Database) : db.IsPlaced [] db :=
  ⟨rfl, rfl, rfl, fun _ _ => rfl⟩

/-- **Placing one more entry** changes one location, whatever it held. -/
theorem IsPlaced.concat {middle : Database} (before : db.IsPlaced entries middle)
    (placed : middle.place entry = .ok after) : db.IsPlaced (entries ++ [entry]) after := by
  have changed := place_eq_ok_iff.mp placed
  obtain ⟨variant, rows, cols⟩ := sameGrid_of_modify changed
  refine ⟨variant.trans before.variant, rows.trans before.rows, cols.trans before.cols,
    fun location inside => ?_⟩
  rw [lastContents?_concat]
  by_cases same : entry.1 = location
  · subst same
    have there := (contains_congr before.rows before.cols _).mpr inside
    obtain ⟨contents, held⟩ := Option.isSome_iff_exists.mp (isSome_contents?_iff.mpr there)
    simp [contents?_modify_self changed, held]
  · rw [contents?_modify_of_ne changed (Ne.symm same), if_neg same]
    exact before.contents location inside

/-- **Entries are placed when they are all for locations on the grid**, and then the last one for
each location is there. -/
theorem foldlM_place_outcome (entries : List (Location × Contents)) (db : Database) :
    ((∃ after, entries.foldlM place db = .ok after) ↔ ∀ entry ∈ entries, db.Contains entry.1) ∧
      ∀ after, entries.foldlM place db = .ok after → db.IsPlaced entries after := by
  refine foldlM_outcome db.IsPlaced (fun entries => ∀ entry ∈ entries, db.Contains entry.1)
    (fun _ _ fits => (List.forall_mem_append.mp fits).1) (fun before middle entry placed fits => ?_)
    [] entries (isPlaced_nil db) nofun
  refine ⟨?_, fun _ => placed.concat⟩
  rw [exists_place_iff, contains_congr placed.rows placed.cols, List.forall_mem_append,
    List.forall_mem_singleton]
  exact (and_iff_right fits).symm

/-! ### Wires -/

/-- What a database holds when a description is in place. -/
structure Holds (db : Database) (description : Description) : Prop where
  rows : db.rows = description.rows
  cols : db.cols = description.cols
  contents : ∀ location, db.contents? location =
    if description.Contains location then some (description.contentsAt location) else none

/-- **A wire is found exactly if it is described.** -/
theorem Holds.exists_resolve?_iff (holds : db.Holds description) {location : Location}
    {relative : RelativeWire} :
    (∃ wire, db.resolve? location relative = some wire) ↔
      description.HasWire location relative := by
  simp only [resolve?_eq_some_iff, Location.offset?_eq_some_iff, Description.HasWire,
    Database.HasWire, holds.contents]
  constructor
  · rintro ⟨wire, ⟨row, col⟩, index, contents, held, within⟩
    by_cases there : description.Contains wire.location
    · rw [if_pos there, Option.some.injEq] at held
      subst held
      exact ⟨wire.location, row, col, there, index ▸ within⟩
    · rw [if_neg there] at held
      cases held
  · rintro ⟨target, row, col, there, within⟩
    exact ⟨⟨target, relative.index⟩, ⟨row, col⟩, rfl, _, if_pos there, within⟩

theorem Holds.hasEnds_iff (holds : db.Holds description) {location : Location} {pip : Pip} :
    db.HasEnds location pip ↔
      description.HasWire location pip.source ∧ description.HasWire location pip.sink := by
  rw [HasEnds, holds.exists_resolve?_iff, holds.exists_resolve?_iff]

theorem mem_of_lastContents? {location : Location} {contents : Contents}
    (last : lastContents? entries location = some contents) : (location, contents) ∈ entries := by
  obtain ⟨⟨place, given⟩, found, rfl⟩ := Option.map_eq_some_iff.mp last
  obtain ⟨member, same⟩ := List.mem_filter.mp (List.mem_of_getLast? found)
  rw [← of_decide_eq_true same]
  exact member

/-- The wires that all PIPs need, said of the database and of the description. Locations without an
entry have no PIPs. -/
theorem Holds.forall_hasEnds_iff (holds : db.Holds description)
    (inside : ∀ entry ∈ description.entries, description.Contains entry.1) :
    (∀ location contents, db.contents? location = some contents →
      ∀ pip ∈ contents.pips, db.HasEnds location pip) ↔
    ∀ location contents, lastContents? description.entries location = some contents →
      ∀ pip ∈ contents.pips,
        description.HasWire location pip.source ∧ description.HasWire location pip.sink := by
  simp only [holds.hasEnds_iff, holds.contents]
  constructor
  -- Only locations of the grid hold anything, and an entry off the grid is not accepted.
  · intro wires location contents last
    refine wires location contents ?_
    rw [if_pos (inside _ (mem_of_lastContents? last)), Description.contentsAt, last]
    rfl
  · intro wires location contents held pip member
    by_cases there : description.Contains location
    · rw [if_pos there, Option.some.injEq, Description.contentsAt] at held
      cases last : lastContents? description.entries location with
      | none =>
        rw [last] at held
        subst held
        exact absurd member (Array.not_mem_empty pip)
      | some given =>
        rw [last] at held
        subst held
        exact wires location given last pip member
    · rw [if_neg there] at held
      cases held

/-! ### Whole descriptions -/

theorem contents?_blank {variant : Variant} {location : Location}
    (inside : (blank description variant).Contains location) :
    (blank description variant).contents? location = some {} := by
  rw [contents?, if_pos inside]
  have within := slot_lt inside
  simp only [blank, empty, Array.size_replicate] at within
  simp only [blank, empty, Array.getElem?_replicate]
  exact if_pos within

theorem IsPlaced.holds {variant : Variant}
    (placed : (blank description variant).IsPlaced description.entries after) :
    after.Holds description where
  rows := placed.rows
  cols := placed.cols
  contents location := by
    have same : after.Contains location ↔ description.Contains location := by
      rw [Contains, Description.Contains, placed.rows, placed.cols]
      rfl
    by_cases there : description.Contains location
    · rw [if_pos there, placed.contents location there, contents?_blank there,
        Description.contentsAt]
      cases lastContents? description.entries location <;> rfl
    · rw [contents?, if_neg (mt same.mp there), if_neg there]

/-- An accepted description is in place. -/
theorem holds_of_ofDescription {db : Database} (accepted : ofDescription description = .ok db) :
    db.Holds description := by
  obtain ⟨variant, _, _, placed, _⟩ := ofDescription_eq_ok_iff.mp accepted
  exact ((foldlM_place_outcome _ _).2 db placed).holds

/-- The check on the PIPs that are in place is the one on the PIPs that are described. -/
theorem Holds.firstBrokenPip?_eq_none_iff (holds : db.Holds description)
    (size : description.rows.toNat * description.cols.toNat ≤ maxGridSize)
    (inside : ∀ entry ∈ description.entries, description.Contains entry.1) :
    db.firstBrokenPip? = none ↔
      ∀ location contents, lastContents? description.entries location = some contents →
        ∀ pip ∈ contents.pips,
          description.HasWire location pip.source ∧ description.HasWire location pip.sink := by
  have small : db.grid.size ≤ UInt32.size := by
    rw [db.grid_size, holds.rows, holds.cols]
    exact Nat.le_trans size (by decide)
  rw [Database.firstBrokenPip?_eq_none_iff small, holds.forall_hasEnds_iff inside]

theorem exists_ofDescription_iff :
    (∃ db, ofDescription description = .ok db) ↔ description.IsConsistent := by
  simp only [ofDescription_eq_ok_iff]
  constructor
  · rintro ⟨db, variant, named, size, placed, intact⟩
    obtain ⟨exists_iff, isPlaced⟩ :=
      foldlM_place_outcome description.entries (blank description variant)
    have inside := exists_iff.mp ⟨db, placed⟩
    have wires := ((isPlaced db placed).holds.firstBrokenPip?_eq_none_iff size inside).mp intact
    exact ⟨⟨variant, named⟩, size, inside, wires⟩
  · rintro ⟨⟨variant, named⟩, size, inside, wires⟩
    obtain ⟨exists_iff, isPlaced⟩ :=
      foldlM_place_outcome description.entries (blank description variant)
    obtain ⟨db, placed⟩ := exists_iff.mpr inside
    have intact := ((isPlaced db placed).holds.firstBrokenPip?_eq_none_iff size inside).mpr wires
    exact ⟨db, variant, named, size, placed, intact⟩

/-- **A description is accepted exactly when it is consistent.** The database then holds at each
location of the grid what the last entry for it gives, and the wires of its PIPs are those that the
check on loading found. -/
theorem ofDescription_iff_isConsistent (description : Description) :
    (∀ text, (Json.parse? text).bind Description.ofJson? = some description →
      load text = ofDescription description) ∧
    ((∃ db, ofDescription description = .ok db) ↔ description.IsConsistent) ∧
    ∀ db, ofDescription description = .ok db →
      Variant.parse description.variant = .ok db.variant ∧
      (∀ location, db.contents? location =
        if description.Contains location then some (description.contentsAt location) else none) ∧
      (∀ location contents, db.contents? location = some contents → ∀ pip ∈ contents.pips,
        db.resolve? location pip.source = some (pip.source.target location) ∧
        db.resolve? location pip.sink = some (pip.sink.target location)) ∧
      ∀ id pip, db.pip id = .ok pip →
        (db.pipSource id).toOption = db.resolve? id.location pip.source ∧
        (db.pipSink id).toOption = db.resolve? id.location pip.sink := by
  refine ⟨fun text decoded => ?_, exists_ofDescription_iff, fun db accepted => ?_⟩
  · rw [load, decoded]
  · obtain ⟨variant, named, _, placed, _⟩ := ofDescription_eq_ok_iff.mp accepted
    have sound := isSound_of_ofDescription accepted
    refine ⟨?_, (holds_of_ofDescription accepted).contents, ?_, ?_⟩
    · rw [named, ((foldlM_place_outcome _ _).2 db placed).variant]
      rfl
    · intro location contents held pip member
      obtain ⟨⟨source, sourceThere⟩, sink, sinkThere⟩ :=
        sound.ends location contents held pip member
      rw [target_eq_of_resolve? sourceThere, target_eq_of_resolve? sinkThere]
      exact ⟨sourceThere, sinkThere⟩
    · intro id pip entry
      obtain ⟨source, sink, sourceThere, atSource, sinkThere, atSink⟩ := sound.exists_ends entry
      rw [atSource, atSink, sourceThere, sinkThere]
      exact ⟨rfl, rfl⟩

/-- A PIP without wires does no harm in an entry that another one replaces. -/
example :
    let pip : Pip := ⟨⟨0, 0, 0⟩, ⟨0, 0, 0⟩, "PLC", .fixed⟩
    (ofDescription ⟨"256HC", none, none, 1, 1,
      [(⟨0, 0⟩, { pips := #[pip] }), (⟨0, 0⟩, {})]⟩).toOption.map (·.grid) = some #[{}] := by
  decide +kernel

end Database

end FabricConfig
