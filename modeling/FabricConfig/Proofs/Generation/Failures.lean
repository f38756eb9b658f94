import FabricConfig.Proofs.Generation.Cells
import FabricConfig.Proofs.Generation.Footprint
import FabricConfig.Proofs.Generation.Pad
import FabricConfig.Proofs.Generation.Safety
/-!
# What a failing stage leaves behind

A stage that fails has carried out the plans before the one that fails, and nothing of that one: a
PIP without an arc leaves nothing behind, and a cell only if it is a slice whose tables are no words.
Then its tile is there, and the first table if only the second is no word.

* `LeavesBehind`: what a cell that fails leaves behind.
* `edits_eq_nil_of_fails_planArc`, `leavesBehind_of_fails_planCell`: that the plans leave just this.
* `exists_of_fails_planArcs`, `exists_of_fails_planCells`: a failing stage, cut where it fails.
* `leavesArcs_and_leavesSettings`: what both stages make of a document, however they end.
-/

namespace FabricConfig

variable {db : Database} {design : Design} {cell : Cell} {bel : BelId} {edits : List Edit}
  {failure : Failure}

open Plan

/-! ### PIPs -/

/-- **A PIP without an arc leaves nothing behind.** -/
theorem edits_eq_nil_of_fails_planArc {pip : PipId} (failed : (planArc db pip).Fails edits failure) :
    edits = [] := by
  unfold planArc at failed
  simp only [fails_ofLookup_bind_iff, fails_ofTile_bind_iff, not_fails_edit, and_false, exists_false,
    or_false] at failed
  rcases failed with ⟨_, _, none, _⟩ | ⟨_, _, ⟨_, _, none, _⟩ | ⟨_, _, ⟨_, _, none, _⟩ |
    ⟨_, _, _, _, none, _⟩⟩⟩
  · exact none
  · exact none
  · exact none
  · exact none

/-- **A stage of arcs that fails** has made the arcs of the PIPs before the one that fails. -/
theorem exists_of_fails_planArcs (failed : (planArcs db design).Fails edits failure) :
    ∃ before pip after values, pipsWithArcs db design = before ++ pip :: after ∧
      (planArc db pip).outcome = .error failure ∧
      (Plan.all (before.map (planArc db))).Makes edits values := by
  obtain ⟨before, pip, after, values, front, rest, split, made, stopped, rfl⟩ :=
    fails_all_map_iff.mp (fails_map_iff.mp failed)
  rw [edits_eq_nil_of_fails_planArc stopped, List.append_nil]
  exact ⟨before, pip, after, values, split, stopped.outcome, made⟩

/-! ### Cells -/

/-- A failure for a literal that is malformed. -/
def Failure.IsMalformed (failure : Failure) : Prop :=
  ∃ value fault, failure = .error (.malformedLiteral value fault)

/-- The contents of a table of a slice are no word of its width. -/
def Slice.IsMalformed (design : Design) (cell : Cell) (key : String) : Prop :=
  ¬∃ value, design.Gives cell.parameters key value ∧ value < 2 ^ 16

/-- What a cell that fails leaves behind. -/
inductive LeavesBehind (db : Database) (design : Design) (cell : Cell) :
    Failure → List Edit → Prop
  | nothing {failure : Failure} (other : ¬failure.IsMalformed) : LeavesBehind db design cell failure []
  | tile {bel : BelId} {tile site : String} {index : Nat} {failure : Failure}
      (slice : cell.IsSliceAt db design bel tile site index) (malformed : failure.IsMalformed)
      (lowTable : Slice.IsMalformed design cell "LUT0_INITVAL") :
      LeavesBehind db design cell failure [.create tile]
  | tileAndWord {bel : BelId} {tile site : String} {index low : Nat} {failure : Failure}
      (slice : cell.IsSliceAt db design bel tile site index) (malformed : failure.IsMalformed)
      (lowTable : design.Gives cell.parameters "LUT0_INITVAL" low) (lowFits : low < 2 ^ 16)
      (highTable : Slice.IsMalformed design cell "LUT1_INITVAL") :
      LeavesBehind db design cell failure
        [.create tile, .set tile (.word (site ++ ".K0.INIT") (Bits.ofNat low 16))]

theorem not_isMalformed_fault (fault : Fault) : ¬(Failure.fault fault).IsMalformed :=
  fun ⟨_, _, same⟩ => nomatch same

theorem not_isMalformed_missingTile (error : TileError) :
    ¬(Failure.error (.missingTile error)).IsMalformed :=
  fun ⟨_, _, same⟩ => nomatch same

theorem not_isMalformed_of_siteIndex {site lead : String} {error : GenerationError}
    (failed : siteIndex site lead = .error error) : ¬(Failure.error error).IsMalformed := by
  rintro ⟨_, _, same⟩
  cases siteIndex_eq_error_iff.mp failed <;> cases same

theorem not_isMalformed_of_edgeKind {site : String} {location : Location} {error : GenerationError}
    (failed : Pad.edgeKind db site location = .error error) : ¬(Failure.error error).IsMalformed := by
  rintro ⟨_, _, same⟩
  rw [Pad.edgeKind_eq_error failed] at same
  cases same

theorem isMalformed_of_wordOrZero {key : String} {error : GenerationError}
    (failed : design.wordOrZero cell.parameters key Slice.tableWidth = .error error) :
    (Failure.error error).IsMalformed ∧ Slice.IsMalformed design cell key := by
  obtain ⟨value, fault, rfl⟩ := Design.wordOrZero_eq_error failed
  refine ⟨⟨value, fault, rfl⟩, ?_⟩
  rintro ⟨given, gives, fits⟩
  rw [Slice.tableWidth, Design.wordOrZero_eq_ok_iff.mpr ⟨given, gives, fits, rfl⟩] at failed
  cases failed

theorem Slice.fails_planWord_iff {tile site : String} {word : String × String} :
    (Slice.planWord design cell tile site word).Fails edits failure ↔
      ∃ error, design.wordOrZero cell.parameters word.1 Slice.tableWidth = .error error ∧
        edits = [] ∧ failure = .error error := by
  unfold Slice.planWord
  simp only [fails_ofResult_bind_iff, not_fails_edit, and_false, exists_false, or_false]

/-- The tables are planned in turn, so the first may be there when the second fails. -/
theorem Slice.of_fails_words {tile site : String}
    (failed : (Plan.all (Slice.words.map (Slice.planWord design cell tile site))).Fails edits
      failure) :
    failure.IsMalformed ∧ (Slice.IsMalformed design cell "LUT0_INITVAL" ∧ edits = [] ∨
      ∃ low, (design.Gives cell.parameters "LUT0_INITVAL" low ∧ low < 2 ^ 16) ∧
        Slice.IsMalformed design cell "LUT1_INITVAL" ∧
        edits = [.set tile (.word (site ++ ".K0.INIT") (Bits.ofNat low 16))]) := by
  simp only [Slice.words, List.map_cons, List.map_nil, all_cons, all_nil, fails_bind_iff,
    fails_map_iff, not_fails_pure, and_false, false_and, exists_false, or_false,
    Slice.makes_planWord_iff, Slice.fails_planWord_iff] at failed
  rcases failed with ⟨_, refused, rfl, rfl⟩ | ⟨_, _, _, ⟨low, gives, rfl⟩, ⟨_, refused, rfl, rfl⟩, rfl⟩
  · obtain ⟨malformed, table⟩ := isMalformed_of_wordOrZero refused
    exact ⟨malformed, .inl ⟨table, rfl⟩⟩
  · obtain ⟨malformed, table⟩ := isMalformed_of_wordOrZero refused
    exact ⟨malformed, .inr ⟨low, gives, table, rfl⟩⟩

/-- The enumerated settings, which come after the tables, do not fail. -/
theorem Slice.fails_words_bind_iff {tile site : String} {index : Nat} :
    (Plan.all (Slice.words.map (Slice.planWord design cell tile site)) >>= fun _ =>
      Plan.all (Slice.enums.map fun setting =>
        Plan.edit (Slice.enumEdit design cell tile site index setting)) >>= fun _ =>
          (Pure.pure () : Plan Unit)).Fails edits failure ↔
      (Plan.all (Slice.words.map (Slice.planWord design cell tile site))).Fails edits failure := by
  refine fails_bind_iff_of_not_fails fun _ rest => ?_
  rw [fails_bind_iff_of_not_fails fun _ _ => not_fails_pure]
  exact not_fails_all_map fun _ _ => not_fails_edit

theorem Slice.leavesBehind_of_fails (placed : cell.bel = some bel)
    (kind : design.name cell.kind = .ok "FACADE_SLICE")
    (failed : (Slice.encoder.plan db design cell bel).Fails edits failure) :
    LeavesBehind db design cell failure edits := by
  simp only [Slice.encoder, fails_ofTile_bind_iff, fails_ofLookup_bind_iff, fails_ofResult_bind_iff,
    fails_edit_bind_iff, Slice.fails_words_bind_iff] at failed
  rcases failed with ⟨error, _, rfl, rfl⟩ | ⟨tile, inTile, failed⟩
  · exact .nothing (not_isMalformed_missingTile error)
  rcases failed with ⟨fault, _, rfl, rfl⟩ | ⟨site, named, failed⟩
  · exact .nothing (not_isMalformed_fault fault)
  rcases failed with ⟨_, unfit, rfl, rfl⟩ | ⟨index, found, _, failed, rfl⟩
  · exact .nothing (not_isMalformed_of_siteIndex unfit)
  have slice : cell.IsSliceAt db design bel tile site index :=
    ⟨placed, kind, inTile, named, siteIndex_eq_ok_iff.mp found⟩
  obtain ⟨malformed, ⟨table, rfl⟩ | ⟨low, ⟨gives, fits⟩, table, rfl⟩⟩ := Slice.of_fails_words failed
  · exact .tile slice malformed table
  · exact .tileAndWord slice malformed gives fits table

theorem Pad.leavesBehind_of_fails
    (failed : (Pad.encoder.plan db design cell bel).Fails edits failure) :
    LeavesBehind db design cell failure edits := by
  obtain ⟨rfl, stops⟩ := Pad.fails_plan_iff.mp failed
  cases stops with
  | nameless => exact .nothing (not_isMalformed_fault _)
  | unindexed _ refused => exact .nothing (not_isMalformed_of_siteIndex refused)
  | inner _ _ away => exact .nothing (not_isMalformed_of_edgeKind away)
  | uncovered => exact .nothing (not_isMalformed_missingTile _)

theorem Oscillator.leavesBehind_of_fails
    (failed : (Oscillator.encoder.plan db design cell bel).Fails edits failure) :
    LeavesBehind db design cell failure edits := by
  simp only [Oscillator.encoder, fails_ofTile_bind_iff, fails_edit_bind_iff, not_fails_edit,
    false_and, and_false, exists_false, or_false] at failed
  obtain ⟨error, _, rfl, rfl⟩ := failed
  exact .nothing (not_isMalformed_missingTile error)

/-- **A cell that fails leaves something behind only if it is a slice** whose tables are no words. -/
theorem leavesBehind_of_fails_planCell (failed : (planCell db design cell).Fails edits failure) :
    LeavesBehind db design cell failure edits := by
  unfold planCell at failed
  cases placed : cell.bel with
  | none =>
    rw [placed] at failed
    dsimp only at failed
    rw [fails_ofLookup_bind_iff] at failed
    rcases failed with ⟨fault, _, rfl, rfl⟩ | ⟨_, _, failed⟩
    · exact .nothing (not_isMalformed_fault fault)
    · rw [fails_bind_iff_of_not_fails fun _ _ => not_fails_pure] at failed
      exact absurd failed not_fails_report
  | some bel =>
    rw [placed] at failed
    dsimp only at failed
    rw [fails_ofLookup_bind_iff] at failed
    rcases failed with ⟨fault, _, rfl, rfl⟩ | ⟨kind, kindNamed, failed⟩
    · exact .nothing (not_isMalformed_fault fault)
    cases found : Encoder.forKind? kind with
    | none =>
      rw [found] at failed
      exact absurd failed not_fails_pure
    | some encoder =>
      rw [found] at failed
      dsimp only at failed
      rw [fails_bind_iff_of_not_fails fun _ _ => not_fails_pure] at failed
      obtain ⟨registered, ofKind⟩ := Encoder.forKind?_eq_some found
      rcases Encoder.mem_registered_iff.mp registered with rfl | rfl | rfl
      · rw [← ofKind] at kindNamed
        exact Slice.leavesBehind_of_fails placed kindNamed failed
      · exact Pad.leavesBehind_of_fails failed
      · exact Oscillator.leavesBehind_of_fails failed

/-- **A stage of cells that fails** has made the settings of the cells before the one that fails, and
what that one leaves behind. -/
theorem exists_of_fails_planCells (failed : (planCells db design).Fails edits failure) :
    ∃ before cell after values front rest, design.cells.toList = before ++ cell :: after ∧
      (planCell db design cell).outcome = .error failure ∧
      (Plan.all (before.map (planCell db design))).Makes front values ∧
      LeavesBehind db design cell failure rest ∧ edits = front ++ rest := by
  unfold planCells at failed
  rw [fails_bind_iff_of_not_fails] at failed
  · obtain ⟨before, cell, after, values, front, rest, split, made, stopped, rfl⟩ :=
      fails_all_map_iff.mp failed
    exact ⟨before, cell, after, values, front, rest, split, stopped.outcome, made,
      leavesBehind_of_fails_planCell stopped, rfl⟩
  · intro fates rest
    rw [fails_bind_iff_of_not_fails fun _ _ => not_fails_pure]
    exact not_fails_all_map fun _ _ => not_fails_report

/-! ### Both stages -/

/-- What the stage of arcs makes of a document, however it ends. -/
structure LeavesArcs (db : Database) (design : Design) (before after : Document) : Prop where
  accumulates : before.Accumulates db after
  words : ∀ tile, (after.settings tile).words = (before.settings tile).words
  enums : ∀ tile, (after.settings tile).enums = (before.settings tile).enums
  raws : ∀ tile, (after.settings tile).raws = (before.settings tile).raws
  /-- If a PIP fails, those before it have made their arcs. -/
  stops : ∀ failure, (planArcs db design).outcome = .error failure →
    ∃ front pip rest, pipsWithArcs db design = front ++ pip :: rest ∧
      (planArc db pip).outcome = .error failure ∧
      (Plan.all (front.map (planArc db))).run before = .ok after

/-- What the stage of cells makes of a document, however it ends. -/
structure LeavesSettings (db : Database) (design : Design) (before after : Document) : Prop where
  accumulates : before.Accumulates db after
  arcs : ∀ tile, (after.settings tile).arcs = (before.settings tile).arcs
  raws : ∀ tile, (after.settings tile).raws = (before.settings tile).raws
  /-- If a cell fails, those before it have made their settings. -/
  stops : ∀ failure, (planCells db design).outcome = .error failure →
    ∃ front cell rest middle remains, design.cells.toList = front ++ cell :: rest ∧
      (planCell db design cell).outcome = .error failure ∧
      (Plan.all (front.map (planCell db design))).run before = .ok middle ∧
      LeavesBehind db design cell failure remains ∧ after = middle.applyAll remains

theorem leavesArcs (db : Database) (design : Design) (document : Document) :
    LeavesArcs db design document ((planArcs db design).leave document) := by
  have only := makesOnly_planArcs db design
  have kept := Document.settings_applyAll_of_isArc only document
  refine ⟨Document.accumulates_applyAll (fun edit made => (only edit made).hasTile) document,
    fun tile => (kept tile).1, fun tile => (kept tile).2.1, fun tile => (kept tile).2.2, ?_⟩
  intro failure failed
  obtain ⟨front, pip, rest, values, split, stopped, made⟩ := exists_of_fails_planArcs ⟨rfl, failed⟩
  exact ⟨front, pip, rest, split, stopped, made.run document⟩

theorem leavesSettings (db : Database) (design : Design) (document : Document) :
    LeavesSettings db design document ((planCells db design).leave document) := by
  have only := makesOnly_planCells db design
  have kept := Document.settings_applyAll_of_isSetting only document
  refine ⟨Document.accumulates_applyAll (fun edit made => (only edit made).hasTile) document,
    fun tile => (kept tile).1, fun tile => (kept tile).2, ?_⟩
  intro failure failed
  obtain ⟨front, cell, rest, values, made, remains, split, stopped, ended, leaves, whole⟩ :=
    exists_of_fails_planCells ⟨rfl, failed⟩
  refine ⟨front, cell, rest, _, remains, split, stopped, ended.run document, leaves, ?_⟩
  rw [Plan.leave, whole, Document.applyAll_append]

/-- **The stages only add to a document, even when they fail**, the arcs only arcs and the cells only
words and enumerated settings. A stage that fails leaves the document of the plans before the one
that fails, and of that one only what a cell leaves behind. -/
theorem leavesArcs_and_leavesSettings (db : Database) (design : Design) (document : Document) :
    LeavesArcs db design document ((planArcs db design).leave document) ∧
      LeavesSettings db design document ((planCells db design).leave document) :=
  ⟨leavesArcs db design document, leavesSettings db design document⟩

/-- A design with a slice whose first table is a word and whose second is none. -/
def halfReadable : Json :=
  let bel := Json.object [("row", .integer 1), ("col", .integer 0), ("name", .text "SLICEA")]
  .object [("cells", .array [.object [("name", .text "lut"), ("type", .text "FACADE_SLICE"),
    ("bel", bel), ("params", .object [("LUT0_INITVAL", .text "0b101"),
      ("LUT1_INITVAL", .text "0b102")])]])]

theorem leavesSettings_halfReadable :
    ∃ db design failure after, Database.load twoRows.render = .ok db ∧
      Design.load db halfReadable.render = .ok design ∧
      (planCells db design).outcome = .error failure ∧ (planCells db design).leave {} = after ∧
      LeavesSettings db design {} after ∧
      (after.settings "R2C1:PLC").words.toList = [("SLICEA.K0.INIT", Bits.ofNat 5 16)] := by
  have stopped : ((loadRendered twoRows halfReadable).map fun (db, design) =>
      ((planCells db design).outcome.toOption.isSome,
        (((planCells db design).leave {}).settings "R2C1:PLC").words.toList)) =
      some (false, [("SLICEA.K0.INIT", Bits.ofNat 5 16)]) := by decide +kernel
  obtain ⟨⟨db, design⟩, found, both⟩ := Option.map_eq_some_iff.mp stopped
  obtain ⟨described, listed⟩ := load_of_loadRendered found
  obtain ⟨failed, words⟩ := Prod.mk.inj both
  cases ended : (planCells db design).outcome with
  | ok tally =>
    rw [ended] at failed
    cases failed
  | error failure =>
    exact ⟨db, design, failure, _, described, listed, ended, rfl,
      (leavesArcs_and_leavesSettings db design {}).2, words⟩

end FabricConfig
