import FabricConfig.Device.Description
import FabricConfig.Proofs.Device.Entries
import FabricConfig.Proofs.Device.Grid
/-!
# Sound databases

What a description must have to be accepted is what generation relies on: the grid is small and
both wires of every PIP are there.

* `firstBrokenPip?_eq_none_iff`: the check on loading is that every PIP has both wires.
* `isSound_of_load`: a database that is loaded is sound.
* `IsSound.exists_ends`: a PIP of a sound database gives its wires, and they are on the grid.
-/

namespace FabricConfig

namespace Database

variable {db : Database} {location : Location}

/-- Whether both wires of a PIP at a location are on the grid. -/
def HasEnds (db : Database) (location : Location) (pip : Pip) : Prop :=
  (∃ wire, db.resolve? location pip.source = some wire) ∧
    ∃ wire, db.resolve? location pip.sink = some wire

/-- A database whose look-ups cannot go astray. -/
structure IsSound (db : Database) : Prop where
  size : db.grid.size ≤ maxGridSize
  ends : ∀ location contents, db.contents? location = some contents →
    ∀ pip ∈ contents.pips, db.HasEnds location pip

theorem IsSound.small (sound : db.IsSound) : db.grid.size ≤ UInt32.size :=
  Nat.le_trans sound.size (by decide)

/-! ### Loading -/

theorem missingEnd?_eq_none_iff {pip : Pip} :
    db.missingEnd? location pip = none ↔ db.HasEnds location pip := by
  unfold missingEnd? HasEnds
  cases db.resolve? location pip.source <;> cases db.resolve? location pip.sink <;> simp

theorem brokenPip?_eq_none_iff :
    db.brokenPip? location = none ↔ ∀ contents, db.contents? location = some contents →
      ∀ pip ∈ contents.pips, db.HasEnds location pip := by
  unfold brokenPip?
  simp only [Option.bind_eq_none_iff, List.findSome?_eq_none_iff, Option.map_eq_none_iff]
  refine forall₂_congr fun contents _ => ?_
  simp only [Prod.forall, missingEnd?_eq_none_iff]
  constructor
  · intro intact pip member
    obtain ⟨place, within, found⟩ := Array.mem_iff_getElem.mp member
    refine intact pip place (List.mem_zipIdx_iff_getElem?.mpr ?_)
    rw [Array.getElem?_toList, Array.getElem?_eq_getElem within, found]
  · intro intact pip place member
    exact intact pip (Array.mem_toList_iff.mp (List.mem_zipIdx_iff_getElem?.mp member |>
      List.mem_of_getElem?))

/-- **The check on loading is that every PIP has both wires.** -/
theorem firstBrokenPip?_eq_none_iff (small : db.grid.size ≤ UInt32.size) :
    db.firstBrokenPip? = none ↔ ∀ location contents, db.contents? location = some contents →
      ∀ pip ∈ contents.pips, db.HasEnds location pip := by
  simp only [firstBrokenPip?, List.findSome?_eq_none_iff, brokenPip?_eq_none_iff]
  constructor
  · intro intact location contents held
    exact intact location ((mem_locations_iff small).mpr (contains_of_contents? held)) contents held
  · intro intact location _
    exact intact location

theorem size_place {after : Database} {entry : Location × Contents}
    (placed : db.place entry = .ok after) : after.grid.size = db.grid.size := by
  unfold place at placed
  split at placed
  · rename_i changed found
    cases placed
    rw [(modify_eq_ok found).2.2.2, Array.size_modify]
  · cases placed

theorem size_le_of_foldlM_place {after : Database} {entries : List (Location × Contents)}
    {bound : Nat} (placed : entries.foldlM place db = .ok after) (small : db.grid.size ≤ bound) :
    after.grid.size ≤ bound := by
  refine foldlM_invariant (fun state : Database => state.grid.size ≤ bound)
    (fun before entry next held stepped => ?_) placed small
  rw [size_place stepped]
  exact held

/-- The database of a description before its entries are placed. -/
def blank (description : Description) (variant : Variant) : Database :=
  let bare := empty variant description.rows description.cols
  { bare with
    package := description.package.getD bare.package
    speed := description.speed.getD bare.speed }

/-- The steps of accepting a description. -/
theorem ofDescription_eq_ok_iff {description : Description} :
    ofDescription description = .ok db ↔
      ∃ variant, Variant.parse description.variant = .ok variant ∧
        description.rows.toNat * description.cols.toNat ≤ maxGridSize ∧
        description.entries.foldlM place (blank description variant) = .ok db ∧
        db.firstBrokenPip? = none := by
  unfold ofDescription
  cases named : Variant.parse description.variant with
  | error unknown => simp
  | ok variant =>
    by_cases large : maxGridSize < description.rows.toNat * description.cols.toNat
    · simp [large, Nat.not_le_of_lt large]
    · simp only [large, if_false, bind_eq_ok_iff, Except.ok.injEq, exists_eq_left',
        Nat.le_of_not_lt large, true_and]
      constructor
      · rintro ⟨whole, placed, checked⟩
        cases intact : whole.firstBrokenPip? with
        | none =>
          rw [intact] at checked
          cases checked
          exact ⟨placed, intact⟩
        | some broken =>
          rw [intact] at checked
          cases checked
      · rintro ⟨placed, intact⟩
        refine ⟨db, placed, ?_⟩
        rw [intact]

theorem isSound_of_ofDescription {description : Description}
    (accepted : ofDescription description = .ok db) : db.IsSound := by
  obtain ⟨variant, _, small, placed, intact⟩ := ofDescription_eq_ok_iff.mp accepted
  have size : db.grid.size ≤ maxGridSize := size_le_of_foldlM_place placed (by
    rw [Database.grid_size]
    exact small)
  have within : db.grid.size ≤ UInt32.size := Nat.le_trans size (by decide)
  exact ⟨size, (firstBrokenPip?_eq_none_iff within).mp intact⟩

/-- **A database that is loaded is sound.** -/
theorem isSound_of_load {text : String} (loaded : load text = .ok db) : db.IsSound := by
  unfold load at loaded
  split at loaded
  · exact isSound_of_ofDescription loaded
  · cases loaded

/-! ### What soundness gives -/

/-- **A PIP of a sound database gives its wires, and they are on the grid**, where the checked
moves lead. -/
theorem IsSound.exists_ends (sound : db.IsSound) {id : PipId} {pip : Pip}
    (entry : db.pip id = .ok pip) :
    ∃ source sink, db.resolve? id.location pip.source = some source ∧
      db.pipSource id = .ok source ∧ db.resolve? id.location pip.sink = some sink ∧
      db.pipSink id = .ok sink := by
  obtain ⟨contents, held, found⟩ := pip_eq_ok_iff.mp entry
  obtain ⟨⟨source, sourceThere⟩, sink, sinkThere⟩ :=
    sound.ends id.location contents held pip (Array.mem_of_getElem? found)
  refine ⟨source, sink, sourceThere, ?_, sinkThere, ?_⟩
  · rw [pipSource, entry, ← target_eq_of_resolve? sourceThere]
    rfl
  · rw [pipSink, entry, ← target_eq_of_resolve? sinkThere]
    rfl

end Database

end FabricConfig
