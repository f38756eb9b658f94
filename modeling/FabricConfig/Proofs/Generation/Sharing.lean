import FabricConfig.Proofs.Design.Loading
import FabricConfig.Proofs.Generation.Safety
/-!
# Cells that share a BEL

A BEL is the site that one primitive is placed on. The loader finds the BEL of each listed cell, and
does not look whether another cell is on it already, so the cells of a design have BELs of their own
only as far as they are listed so.

* `Database.belName_of_belNamed?`: two names do not lead to one BEL.
* `Design.HasOwnBels`: no two cells are on one BEL.
* `hasOwnBels_iff_nodup`: a listing has to see to it.
* `exists_not_hasOwnBels`: one that does not is loaded.
-/

namespace FabricConfig

/-- A BEL that is found by its name has that name, if indices reach all of its table. -/
theorem Database.belName_of_belNamed? {db : Database}
    (reached : ∀ contents ∈ db.grid, contents.bels.size ≤ UInt32.size) {location : Location}
    {name : String} {bel : BelId} (found : db.belNamed? location name = some bel) :
    bel.location = location ∧ db.belName bel = .ok name := by
  obtain ⟨contents, held, index⟩ := Option.bind_eq_some_iff.mp found
  obtain ⟨place, first, rfl⟩ := Option.map_eq_some_iff.mp index
  obtain ⟨within, named, _⟩ := Array.findIdx?_eq_some_iff_getElem.mp first
  have small := reached contents (mem_grid_of_contents? held)
  have back : (UInt32.ofNat place).toNat = place :=
    UInt32.toNat_ofNat_of_lt' (Nat.lt_of_lt_of_le within small)
  refine ⟨rfl, belName_eq_ok_iff.mpr ⟨contents, contents.bels[place], held, ?_, ?_⟩⟩
  · rw [back, Array.getElem?_eq_getElem within]
  · exact beq_iff_eq.mp named

/-- Different places in a list hold different values. -/
theorem nodup_filterMap_iff {α β : Type} {items : List α} {value? : α → Option β} :
    (items.filterMap value?).Nodup ↔
      ∀ (first second : Nat) a b, items[first]? = some a → items[second]? = some b →
        ∀ value, value? a = some value → value? b = some value → first = second := by
  rw [List.Nodup, List.pairwise_filterMap, List.pairwise_iff_getElem]
  constructor
  · intro apart first second a b atFirst atSecond value ofFirst ofSecond
    obtain ⟨firstThere, rfl⟩ := List.getElem?_eq_some_iff.mp atFirst
    obtain ⟨secondThere, rfl⟩ := List.getElem?_eq_some_iff.mp atSecond
    rcases Nat.lt_trichotomy first second with before | same | after
    · exact absurd rfl (apart _ _ firstThere secondThere before _ ofFirst _ ofSecond)
    · exact same
    · exact absurd rfl (apart _ _ secondThere firstThere after _ ofSecond _ ofFirst)
  · rintro own first second firstThere secondThere before value ofFirst _ ofSecond rfl
    exact Nat.ne_of_lt before (own first second _ _ (List.getElem?_eq_getElem firstThere)
      (List.getElem?_eq_getElem secondThere) value ofFirst ofSecond)

namespace Design

variable {db : Database} {design : Design} {listing : Listing}

/-- Whether no two cells are placed on one BEL. -/
def HasOwnBels (design : Design) : Prop :=
  ∀ first second firstCell secondCell, design.cell first = .ok firstCell →
    design.cell second = .ok secondCell →
      ∀ bel, firstCell.bel = some bel → secondCell.bel = some bel → first = second

/-- Which cells are on a BEL: those that are listed with a name that leads to it. -/
theorem RealizesCells.exists_cell_iff {entries : List CellEntry}
    (realizes : design.RealizesCells db entries) {id : CellId} {bel : BelId} :
    (∃ cell, design.cell id = .ok cell ∧ cell.bel = some bel) ↔
      ∃ entry, entries[id.toNat]? = some entry ∧ ∃ location name,
        entry.bel = some (location, name) ∧ db.belNamed? location name = some bel := by
  constructor
  · rintro ⟨cell, found, placed⟩
    have there : id.toNat < entries.length :=
      realizes.size ▸ (Array.getElem?_eq_some_iff.mp (cell_eq_ok_iff.mp found)).1
    have listed := List.getElem?_eq_getElem there
    obtain ⟨cell', found', _, lists⟩ := realizes.cell id _ listed
    cases found.symm.trans found'
    refine ⟨_, listed, ?_⟩
    cases place : entries[id.toNat].bel with
    | none => rw [lists.unplaced place] at placed; cases placed
    | some place' =>
      obtain ⟨bel', named, placed'⟩ := lists.placed _ _ place
      cases placed.symm.trans placed'
      exact ⟨_, _, rfl, named⟩
  · rintro ⟨entry, listed, location, name, place, named⟩
    obtain ⟨cell, found, _, lists⟩ := realizes.cell id entry listed
    obtain ⟨bel', named', placed⟩ := lists.placed location name place
    cases named.symm.trans named'
    exact ⟨cell, found, placed⟩

/-- **The cells of a design that is loaded have BELs of their own exactly when they are listed
so**, as far as indices of BELs and numbers of cells reach. -/
theorem hasOwnBels_iff_nodup
    (reached : ∀ contents ∈ db.grid, contents.bels.size ≤ UInt32.size)
    (few : listing.cells.length ≤ UInt32.size)
    (loaded : ofListing db listing = .ok design) :
    design.HasOwnBels ↔ (listing.cells.filterMap (·.bel)).Nodup := by
  obtain ⟨exists_iff, stands⟩ := ofListing_outcome db listing
  have consistent := (exists_iff.mp ⟨design, loaded⟩).cells
  have realizes := (stands design loaded).1.realizesCells consistent few
  rw [nodup_filterMap_iff]
  constructor
  · rintro own first second a b atFirst atSecond ⟨location, name⟩ ofFirst ofSecond
    have numbered : ∀ place < listing.cells.length, (UInt32.ofNat place).toNat = place :=
      fun place within => UInt32.toNat_ofNat_of_lt' (Nat.lt_of_lt_of_le within few)
    have firstPlace := numbered first (List.getElem?_eq_some_iff.mp atFirst).1
    have secondPlace := numbered second (List.getElem?_eq_some_iff.mp atSecond).1
    rw [← firstPlace] at atFirst
    rw [← secondPlace] at atSecond
    obtain ⟨bel, named⟩ := (Database.exists_belNamed?_iff db location name).mpr
      (consistent.bels a (List.mem_of_getElem? atFirst) location name ofFirst)
    obtain ⟨firstCell, foundFirst, onFirst⟩ :=
      realizes.exists_cell_iff.mpr ⟨a, atFirst, location, name, ofFirst, named⟩
    obtain ⟨secondCell, foundSecond, onSecond⟩ :=
      realizes.exists_cell_iff.mpr ⟨b, atSecond, location, name, ofSecond, named⟩
    rw [← firstPlace, ← secondPlace,
      own _ _ firstCell secondCell foundFirst foundSecond bel onFirst onSecond]
  · intro apart first second firstCell secondCell foundFirst foundSecond bel onFirst onSecond
    obtain ⟨a, atFirst, location, name, ofFirst, leads⟩ :=
      realizes.exists_cell_iff.mp ⟨firstCell, foundFirst, onFirst⟩
    obtain ⟨b, atSecond, location', name', ofSecond, leads'⟩ :=
      realizes.exists_cell_iff.mp ⟨secondCell, foundSecond, onSecond⟩
    obtain ⟨rfl, named⟩ := Database.belName_of_belNamed? reached leads
    obtain ⟨rfl, named'⟩ := Database.belName_of_belNamed? reached leads'
    cases named.symm.trans named'
    exact UInt32.toNat_inj.mp (apart _ _ a b atFirst atSecond _ ofFirst ofSecond)

end Design

/-- A location with two slices. -/
def twoSites : Description :=
  ⟨"256HC", none, none, 1, 1,
    [(⟨0, 0⟩, { bels := #[⟨"SLICEA", "FACADE_SLICE"⟩, ⟨"SLICEB", "FACADE_SLICE"⟩] })]⟩

/-- A design with a cell on each of them. -/
def oneEach : Listing :=
  ⟨[⟨"first", "FACADE_SLICE", some (⟨0, 0⟩, "SLICEB"), ∅, ∅⟩,
    ⟨"second", "FACADE_SLICE", some (⟨0, 0⟩, "SLICEA"), ∅, ∅⟩], []⟩

theorem hasOwnBels_oneEach :
    ∃ db design, Database.ofDescription twoSites = .ok db ∧
      (∀ contents ∈ db.grid, contents.bels.size ≤ UInt32.size) ∧
      oneEach.cells.length ≤ UInt32.size ∧ Design.ofListing db oneEach = .ok design ∧
      design.HasOwnBels := by
  have ready : ((Database.ofDescription twoSites).toOption.bind fun db =>
      (Design.ofListing db oneEach).toOption.map fun _ =>
        decide (∀ contents ∈ db.grid, contents.bels.size ≤ UInt32.size)) = some true := by
    decide +kernel
  obtain ⟨db, accepted, rest⟩ := Option.bind_eq_some_iff.mp ready
  obtain ⟨design, listed, small⟩ := Option.map_eq_some_iff.mp rest
  have reached := of_decide_eq_true small
  have loaded := eq_ok_of_toOption listed
  have few : oneEach.cells.length ≤ UInt32.size := by decide
  have apart : (oneEach.cells.filterMap (·.bel)).Nodup := by decide
  exact ⟨db, design, eq_ok_of_toOption accepted, reached, few, loaded,
    (Design.hasOwnBels_iff_nodup reached few loaded).mpr apart⟩

/-- Two slices on one BEL. -/
def twoOnOne : Json :=
  let bel := Json.object [("row", .integer 1), ("col", .integer 0), ("name", .text "SLICEA")]
  let slice (name : String) :=
    Json.object [("name", .text name), ("type", .text "FACADE_SLICE"), ("bel", bel)]
  .object [("cells", .array [slice "first", slice "second"])]

/-- **A design with two cells on one BEL is loaded.** -/
theorem exists_not_hasOwnBels :
    ∃ db design, Database.load twoRows.render = .ok db ∧
      Design.load db twoOnOne.render = .ok design ∧ ¬ design.HasOwnBels := by
  have shared : ((loadRendered twoRows twoOnOne).map fun loaded =>
      loaded.2.cells.map (·.bel)) = some #[some ⟨⟨1, 0⟩, 0⟩, some ⟨⟨1, 0⟩, 0⟩] := by decide +kernel
  obtain ⟨⟨db, design⟩, found, bels⟩ := Option.map_eq_some_iff.mp shared
  obtain ⟨described, listed⟩ := load_of_loadRendered found
  dsimp only at bels
  refine ⟨db, design, described, listed, fun own => ?_⟩
  have placed : ∀ id : CellId, (design.cells.map (·.bel))[id.toNat]? = some (some ⟨⟨1, 0⟩, 0⟩) →
      ∃ cell, design.cell id = .ok cell ∧ cell.bel = some ⟨⟨1, 0⟩, 0⟩ := by
    simp only [Array.getElem?_map, Option.map_eq_some_iff, Design.cell_eq_ok_iff, imp_self,
      implies_true]
  obtain ⟨first, foundFirst, onFirst⟩ := placed 0 (by rw [bels]; rfl)
  obtain ⟨second, foundSecond, onSecond⟩ := placed 1 (by rw [bels]; rfl)
  exact absurd (own 0 1 first second foundFirst foundSecond _ onFirst onSecond) (by decide)

end FabricConfig
