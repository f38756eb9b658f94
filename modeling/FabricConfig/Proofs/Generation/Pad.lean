import FabricConfig.Proofs.Design.History
import FabricConfig.Proofs.Device.Entries
import FabricConfig.Proofs.Generation.Cells
/-!
# What a pad makes of a document

A pad belongs to the border of the grid that its location is at. A location may be at several, in a
corner or on a grid that is one row high or one column wide, and then the first of them counts: the
left, the right, the bottom, the top. The tile must be of the kind of that border, and one of
another kind does not stand in for it.

* `Border.IsTaken`: the border that counts, the first of those that a location is at.
* `Pad.edgeKind?_eq_some_iff`: the encoder finds the kind of that border.
* `Pad.fails_plan_iff`: the reasons for which the plan of a pad fails, having done nothing.
* `Pad.run_plan_iff_isWritten_and_leave`: what the plan needs, what it writes, and that it writes
  nothing else.
-/

namespace FabricConfig

variable {db : Database} {design : Design} {cell : Cell} {bel : BelId} {location : Location}

open Plan

/-! ### Borders -/

/-- A border of the grid. -/
inductive Border where
  | left
  | right
  | bottom
  | top
deriving DecidableEq

namespace Border

/-- The borders in the order in which they count. -/
def inOrder : List Border := [left, right, bottom, top]

/-- The kind of the tiles at a border. -/
def tileKind : Border → String
  | left => "PIC_L0"
  | right => "PIC_R0"
  | bottom => "PIC_B0"
  | top => "PIC_T0"

/-- Whether a location is at a border. -/
def Touches (db : Database) (location : Location) : Border → Prop
  | left => location.col.toNat = 0
  | right => location.col.toNat + 1 = db.cols.toNat
  | bottom => location.row.toNat = 0
  | top => location.row.toNat + 1 = db.rows.toNat

instance (db : Database) (location : Location) : DecidablePred (Touches db location)
  | left | right | bottom | top => inferInstanceAs (Decidable (_ = _))

/-- The border that counts for a location: the first of those that it is at. -/
def IsTaken (db : Database) (location : Location) (border : Border) : Prop :=
  border.Touches db location ∧ ∃ earlier later, inOrder = earlier ++ border :: later ∧
    ∀ other ∈ earlier, ¬other.Touches db location

theorem mem_inOrder (border : Border) : border ∈ inOrder := by
  cases border <;> decide

theorem find?_inOrder_eq_some_iff {border : Border} :
    inOrder.find? (fun other => decide (other.Touches db location)) = some border ↔
      border.IsTaken db location := by
  simp only [List.find?_eq_some_iff_append, decide_eq_true_eq, Bool.not_eq_true',
    decide_eq_false_iff_not, IsTaken]

/-- One border counts for each location that is at any. -/
theorem exists_isTaken_iff :
    (∃ border, IsTaken db location border) ↔ ∃ border, Touches db location border := by
  simp only [← find?_inOrder_eq_some_iff, ← Option.isSome_iff_exists, List.find?_isSome,
    decide_eq_true_eq, mem_inOrder, true_and]

theorem IsTaken.unique {border other : Border} (first : border.IsTaken db location)
    (second : other.IsTaken db location) : border = other :=
  Option.some.inj <| (find?_inOrder_eq_some_iff.mpr first).symm.trans
    (find?_inOrder_eq_some_iff.mpr second)

end Border

namespace Pad

/-- A coordinate on the grid is followed by another number, without a wrap. -/
theorem add_one_eq_iff {coordinate size : UInt32} (inside : coordinate < size) :
    coordinate + 1 = size ↔ coordinate.toNat + 1 = size.toNat := by
  have below := UInt32.lt_iff_toNat_lt.mp inside
  have bound := size.toNat_lt
  rw [← UInt32.toNat_inj, UInt32.toNat_add, UInt32.toNat_one, Nat.mod_eq_of_lt (by omega)]

theorem edgeKind?_eq_map_find? (inside : db.Contains location) :
    edgeKind? db location =
      (Border.inOrder.find? fun border => decide (border.Touches db location)).map
        Border.tileKind := by
  have left : location.col = 0 ↔ Border.left.Touches db location := UInt32.toNat_inj.symm
  have right : location.col + 1 = db.cols ↔ Border.right.Touches db location :=
    add_one_eq_iff inside.2
  have bottom : location.row = 0 ↔ Border.bottom.Touches db location := UInt32.toNat_inj.symm
  have top : location.row + 1 = db.rows ↔ Border.top.Touches db location :=
    add_one_eq_iff inside.1
  simp only [edgeKind?, left, right, bottom, top, Border.inOrder, List.find?_cons, List.find?_nil]
  by_cases atLeft : Border.left.Touches db location
  · simp [atLeft, Border.tileKind]
  by_cases atRight : Border.right.Touches db location
  · simp [atLeft, atRight, Border.tileKind]
  by_cases atBottom : Border.bottom.Touches db location
  · simp [atLeft, atRight, atBottom, Border.tileKind]
  by_cases atTop : Border.top.Touches db location
  · simp [atLeft, atRight, atBottom, atTop, Border.tileKind]
  · simp [atLeft, atRight, atBottom, atTop]

/-- **The encoder looks for the kind of the border that counts.** -/
theorem edgeKind?_eq_some_iff (inside : db.Contains location) {kind : String} :
    edgeKind? db location = some kind ↔
      ∃ border, Border.IsTaken db location border ∧ border.tileKind = kind := by
  simp only [edgeKind?_eq_map_find? inside, Option.map_eq_some_iff,
    Border.find?_inOrder_eq_some_iff]

/-! ### Failures -/

/-- Why the plan of a pad fails, in the order in which it looks: the site has no name, or one
without an index, or is not at a border, or no tile of the border's kind is there. -/
inductive Stops (db : Database) (bel : BelId) : Failure → Prop
  | nameless {fault : Fault} (missing : db.belName bel = .error fault) : Stops db bel (.fault fault)
  | unindexed {site : String} {error : GenerationError} (named : db.belName bel = .ok site)
      (refused : siteIndex site "PIO" = .error error) : Stops db bel (.error error)
  | inner {site : String} {index : Nat} {error : GenerationError}
      (named : db.belName bel = .ok site) (indexed : siteIndex site "PIO" = .ok index)
      (away : edgeKind db site bel.location = .error error) : Stops db bel (.error error)
  | uncovered {site kind : String} {index : Nat} {error : TileError}
      (named : db.belName bel = .ok site) (indexed : siteIndex site "PIO" = .ok index)
      (atBorder : edgeKind db site bel.location = .ok kind)
      (bare : db.tileAt bel.location kind = .error error) :
      Stops db bel (.error (.missingTile error))

/-- **The plan of a pad fails before it makes an edit.** -/
theorem fails_plan_iff {edits : List Edit} {failure : Failure} :
    (encoder.plan db design cell bel).Fails edits failure ↔ edits = [] ∧ Stops db bel failure := by
  simp only [encoder, fails_ofTile_bind_iff, fails_ofLookup_bind_iff, fails_ofResult_bind_iff,
    not_fails_edit, and_false, exists_false, or_false]
  constructor
  · rintro (⟨fault, missing, rfl, rfl⟩ | ⟨site, named, ⟨error, refused, rfl, rfl⟩ |
      ⟨index, indexed, ⟨error, away, rfl, rfl⟩ | ⟨kind, atBorder, error, bare, rfl, rfl⟩⟩⟩)
    · exact ⟨rfl, .nameless missing⟩
    · exact ⟨rfl, .unindexed named refused⟩
    · exact ⟨rfl, .inner named indexed away⟩
    · exact ⟨rfl, .uncovered named indexed atBorder bare⟩
  · rintro ⟨rfl, stops⟩
    cases stops with
    | nameless missing => exact .inl ⟨_, missing, rfl, rfl⟩
    | unindexed named refused => exact .inr ⟨_, named, .inl ⟨_, refused, rfl, rfl⟩⟩
    | inner named indexed away =>
      exact .inr ⟨_, named, .inr ⟨_, indexed, .inl ⟨_, away, rfl, rfl⟩⟩⟩
    | uncovered named indexed atBorder bare =>
      exact .inr ⟨_, named, .inr ⟨_, indexed, .inr ⟨_, atBorder, _, bare, rfl, rfl⟩⟩⟩

/-! ### The document -/

/-- A text for a property of a cell: what is given under its key, or the text for when there is no
such key. -/
def Reads (design : Design) (properties : Properties) (key otherwise text : String) : Prop :=
  match design.property? properties key with
  | some property => text = property.display
  | none => text = otherwise

theorem textOr_eq_iff_reads {properties : Properties} {key otherwise text : String} :
    text = design.textOr properties key otherwise ↔ Reads design properties key otherwise text := by
  unfold Reads Design.textOr
  cases design.property? properties key <;> rfl

/-- What the plan of a pad comes to: the border and the tile that it finds, and the one setting by
which it changes the document. -/
structure IsWritten (db : Database) (design : Design) (cell : Cell) (bel : BelId)
    (site : String) (before after : Document) (border : Border) (tile direction standard : String) :
    Prop where
  indexed : ∃ index, siteIndex site "PIO" = .ok index
  taken : border.IsTaken db bel.location
  inTile : db.IsFirstTile bel.location border.tileKind tile
  readDirection : Reads design cell.parameters "DIR" "INPUT" direction
  readStandard : Reads design cell.attributes "IO_TYPE" "LVCMOS33" standard
  putsOnly : before.PutsOnly tile
    [.enum (site ++ ".BASE_TYPE") (direction ++ "_" ++ standard)] after

variable {site : String} {before after : Document}

/-- The feature that a pad sets, with the texts that are given for it or go without saying. -/
def baseType (design : Design) (cell : Cell) (site : String) : Feature :=
  .enum (site ++ ".BASE_TYPE") (design.textOr cell.parameters "DIR" "INPUT" ++ "_" ++
    design.textOr cell.attributes "IO_TYPE" "LVCMOS33")

/-- Setting the feature changes a document by just this. -/
theorem isWritten_set {border : Border} {tile : String}
    (indexed : ∃ index, siteIndex site "PIO" = .ok index)
    (taken : border.IsTaken db bel.location)
    (inTile : db.IsFirstTile bel.location border.tileKind tile) (before : Document) :
    IsWritten db design cell bel site before
      (before.applyAll [.set tile (baseType design cell site)])
      border tile (design.textOr cell.parameters "DIR" "INPUT")
      (design.textOr cell.attributes "IO_TYPE" "LVCMOS33") where
  indexed
  taken
  inTile
  readDirection := textOr_eq_iff_reads.mp rfl
  readStandard := textOr_eq_iff_reads.mp rfl
  putsOnly :=
    have different : ([baseType design cell site].map Feature.slot).Nodup := List.nodup_singleton _
    SetsAll.putsOnly (.inl rfl) (List.cons_ne_nil _ _) different before

theorem makes_plan_iff_baseType (named : db.belName bel = .ok site)
    (inside : db.Contains bel.location) {edits : List Edit} :
    (encoder.plan db design cell bel).Makes edits () ↔
      (∃ index, siteIndex site "PIO" = .ok index) ∧
        ∃ border tile, Border.IsTaken db bel.location border ∧
          db.IsFirstTile bel.location border.tileKind tile ∧
          edits = [.set tile (baseType design cell site)] := by
  rw [Pad.makes_plan_iff]
  constructor
  · rintro ⟨tile, _, index, kind, sameName, isSite, atBorder, inTile, made⟩
    cases named.symm.trans sameName
    obtain ⟨border, taken, rfl⟩ := (edgeKind?_eq_some_iff inside).mp atBorder
    exact ⟨⟨index, siteIndex_eq_ok_iff.mpr isSite⟩, border, tile, taken,
      Database.tileAt_eq_ok_iff_isFirstTile.mp inTile, made⟩
  · rintro ⟨⟨index, indexed⟩, border, tile, taken, inTile, rfl⟩
    exact ⟨tile, site, index, _, named, siteIndex_eq_ok_iff.mp indexed,
      (edgeKind?_eq_some_iff inside).mpr ⟨border, taken, rfl⟩,
      Database.tileAt_eq_ok_iff_isFirstTile.mpr inTile, rfl⟩

/-- **What the plan of a pad writes**, and that it writes it only then. -/
theorem run_plan_eq_ok_iff (named : db.belName bel = .ok site) :
    (encoder.plan db design cell bel).run before = .ok after ↔
      ∃ border tile direction standard,
        IsWritten db design cell bel site before after border tile direction standard := by
  obtain ⟨_, _, held, _⟩ := Database.belName_eq_ok_iff.mp named
  have inside := Database.contains_of_contents? held
  constructor
  · intro ran
    obtain ⟨⟨_, ended⟩, rfl⟩ := run_eq_ok_iff.mp ran
    obtain ⟨indexed, border, tile, taken, inTile, made⟩ :=
      (makes_plan_iff_baseType named inside).mp ⟨rfl, ended⟩
    rw [made]
    exact ⟨border, tile, _, _, isWritten_set indexed taken inTile before⟩
  · rintro ⟨border, tile, direction, standard, written⟩
    have made : (encoder.plan db design cell bel).Makes
        [.set tile (baseType design cell site)] () :=
      (makes_plan_iff_baseType named inside).mpr
        ⟨written.indexed, border, tile, written.taken, written.inTile, rfl⟩
    have putsOnly := written.putsOnly
    rw [textOr_eq_iff_reads.mpr written.readDirection,
      textOr_eq_iff_reads.mpr written.readStandard] at putsOnly
    rw [made.run before]
    -- The setting determines the document, so it is the one that the plan makes.
    have other : IsWritten db design cell bel site before _ border tile _ _ :=
      isWritten_set written.indexed written.taken written.inTile before
    exact congrArg Except.ok (other.putsOnly.unique putsOnly)

/-- **What the plan of a pad needs**: an index in the name of the site, a border, and a tile there
of the kind of the border that counts. -/
theorem exists_run_plan_iff (named : db.belName bel = .ok site) :
    (∃ after, (encoder.plan db design cell bel).run before = .ok after) ↔
      (∃ index, siteIndex site "PIO" = .ok index) ∧
        (∃ border, Border.Touches db bel.location border) ∧
        ∀ border, Border.IsTaken db bel.location border →
          db.Covers bel.location border.tileKind := by
  simp only [run_plan_eq_ok_iff named, ← Border.exists_isTaken_iff]
  constructor
  · rintro ⟨after, border, tile, _, _, written⟩
    refine ⟨written.indexed, ⟨border, written.taken⟩, fun other taken => ?_⟩
    cases written.taken.unique taken
    exact Database.exists_tileAt_iff_covers.mp
      ⟨tile, Database.tileAt_eq_ok_iff_isFirstTile.mpr written.inTile⟩
  · rintro ⟨indexed, ⟨border, taken⟩, covers⟩
    obtain ⟨tile, inTile⟩ := Database.exists_tileAt_iff_covers.mpr (covers border taken)
    exact ⟨_, border, tile, _, _, isWritten_set indexed taken
      (Database.tileAt_eq_ok_iff_isFirstTile.mp inTile) before⟩

/-- A plan of a pad that fails leaves the document as it was. -/
theorem leave_plan_eq_self {failure : Failure}
    (failed : (encoder.plan db design cell bel).run before = .error failure) :
    (encoder.plan db design cell bel).leave before = before := by
  have ended := map_eq_error_iff.mp failed
  obtain ⟨none, _⟩ := fails_plan_iff.mp ⟨rfl, ended⟩
  rw [leave, none]
  rfl

/-- **The plan of a pad is exact and atomic.** On a BEL of the device, it comes to its end when the
name of the site has an index, the location is at a border of the grid, and a tile of the kind of
the first such border covers it: whatever the grid is, left comes before right, right before bottom
and bottom before top. Then one setting of the first such tile is as the direction and the standard
say, and all else of the document is as it was. If the plan fails, all of the document is. -/
theorem run_plan_iff_isWritten_and_leave (named : db.belName bel = .ok site) (before : Document) :
    ((∃ after, (encoder.plan db design cell bel).run before = .ok after) ↔
      (∃ index, siteIndex site "PIO" = .ok index) ∧
        (∃ border, Border.Touches db bel.location border) ∧
        ∀ border, Border.IsTaken db bel.location border →
          db.Covers bel.location border.tileKind) ∧
    (∀ after, (encoder.plan db design cell bel).run before = .ok after ↔
      ∃ border tile direction standard,
        IsWritten db design cell bel site before after border tile direction standard) ∧
    ∀ failure, (encoder.plan db design cell bel).run before = .error failure →
      (encoder.plan db design cell bel).leave before = before :=
  ⟨exists_run_plan_iff named, fun _ => run_plan_eq_ok_iff named, fun _ => leave_plan_eq_self⟩

/-- A row of two locations: the left one has no tile of the left border, and the right one has a
tile of the top border before that of the right border. -/
def padRow : Database where
  __ := Database.empty .hc1200 1 2
  grid := #[{ tiles := #[⟨"PB1", "PIC_B0"⟩], bels := #[⟨"PIOA", "FACADE_IO"⟩] },
    { tiles := #[⟨"PT2", "PIC_T0"⟩, ⟨"PR1", "PIC_R0"⟩], bels := #[⟨"PIOB", "FACADE_IO"⟩] }]
  grid_size := rfl

/-- A pad that is an output. -/
def outputPad : List Operation :=
  [.addCell "pad" "FACADE_IO", .set .parameters 0 "DIR" (.text "OUTPUT")]

theorem run_plan_padRow :
    ∃ cell after, (Design.build outputPad).cells[0]? = some cell ∧
      padRow.belName ⟨⟨0, 1⟩, 0⟩ = .ok "PIOB" ∧
      (encoder.plan padRow (Design.build outputPad) cell ⟨⟨0, 1⟩, 0⟩).run {} = .ok after ∧
      (∃ border tile direction standard, IsWritten padRow (Design.build outputPad) cell
        ⟨⟨0, 1⟩, 0⟩ "PIOB" {} after border tile direction standard) ∧
      (after.settings "PR1").enums.toList = [("PIOB.BASE_TYPE", "OUTPUT_LVCMOS33")] ∧
      padRow.belName ⟨⟨0, 0⟩, 0⟩ = .ok "PIOA" ∧
      (encoder.plan padRow (Design.build outputPad) cell ⟨⟨0, 0⟩, 0⟩).leave after = after := by
  have named : padRow.belName ⟨⟨0, 1⟩, 0⟩ = .ok "PIOB" := eq_ok_of_toOption (by decide +kernel)
  have other : padRow.belName ⟨⟨0, 0⟩, 0⟩ = .ok "PIOA" := eq_ok_of_toOption (by decide +kernel)
  have settled : ((Design.build outputPad).cells[0]?.bind fun cell =>
      ((encoder.plan padRow (Design.build outputPad) cell ⟨⟨0, 1⟩, 0⟩).run
        {}).toOption.map fun after => ((after.settings "PR1").enums.toList,
          ((encoder.plan padRow (Design.build outputPad) cell ⟨⟨0, 0⟩, 0⟩).run
            after).toOption.isSome)) =
      some ([("PIOB.BASE_TYPE", "OUTPUT_LVCMOS33")], false) := by
    decide +kernel
  obtain ⟨cell, held, made⟩ := Option.bind_eq_some_iff.mp settled
  obtain ⟨after, ended, results⟩ := Option.map_eq_some_iff.mp made
  obtain ⟨enums, unfinished⟩ := Prod.mk.inj results
  have ran := eq_ok_of_toOption ended
  have written := ((run_plan_iff_isWritten_and_leave named {}).2.1 after).mp ran
  refine ⟨cell, after, held, named, ran, written, enums, other, ?_⟩
  cases stopped : (encoder.plan padRow (Design.build outputPad) cell ⟨⟨0, 0⟩, 0⟩).run after with
  | ok _ => rw [stopped] at unfinished; contradiction
  | error failure => exact (run_plan_iff_isWritten_and_leave other after).2.2 failure stopped

end Pad

end FabricConfig
