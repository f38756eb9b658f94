import FabricConfig.Proofs.Design.History
import FabricConfig.Proofs.Document.Commuting
import FabricConfig.Proofs.Generation.Dependence
import Mathlib.Data.List.Perm.Basic
/-!
# The order of the cells

Where no two cells give a setting of the same slot, the order in which a design has its cells makes
no difference: neither to whether the stage of the cells comes to its end, nor to its tally, nor to
what it makes of a document. Slices of one tile whose sites have different letters are such cells.

* `CellContent`, `Design.contents`: what is read of the cells of a design, in order.
* `planCell_eq_of_content_eq`: the plan of a cell depends on nothing else.
* `Slice.FeatureName.render_ne`, `name?_ne_of_isSliceAt`: slices of one tile with different letters.
* `HasNoClash`, `planCells_perm_and_slices_apart`: the order does not matter.
* `Design.HasCells.contents_eq`: what is read of a design is what is read of the cells it stands for.
-/

namespace FabricConfig

variable {db : Database} {design first second : Design} {cell firstCell secondCell : Cell}
  {bel : BelId} {edits : List Edit}

open Plan

/-! ### What is read of a cell -/

/-- What can be read of a cell, by the texts that its numbers stand for. -/
structure CellContent where
  name : Except Fault String
  kind : Except Fault String
  bel : Option BelId
  parameters : String → Option Property
  attributes : String → Option Property

namespace Design

/-- What is read of a cell of a design. -/
def content (design : Design) (cell : Cell) : CellContent where
  name := design.name cell.name
  kind := design.name cell.kind
  bel := cell.bel
  parameters := design.property? cell.parameters
  attributes := design.property? cell.attributes

/-- What is read of the cells of a design, in order. -/
def contents (design : Design) : List CellContent := design.cells.toList.map design.content

end Design

theorem Encoder.plan_eq_of_content_eq {encoder : Encoder}
    (registered : encoder ∈ Encoder.registered)
    (same : first.content firstCell = second.content secondCell) (bel : BelId) :
    encoder.plan db first firstCell bel = encoder.plan db second secondCell bel := by
  have parameters (key : String) : first.property? firstCell.parameters key =
      second.property? secondCell.parameters key :=
    congrFun (congrArg CellContent.parameters same) key
  have attributes (key : String) : first.property? firstCell.attributes key =
      second.property? secondCell.attributes key :=
    congrFun (congrArg CellContent.attributes same) key
  have text (key : String) : first.text? firstCell.parameters key =
      second.text? secondCell.parameters key :=
    congrArg (Option.map Property.display) (parameters key)
  rcases Encoder.mem_registered_iff.mp registered with rfl | rfl | rfl
  · exact Slice.plan_congr (List.map_congr_left fun word _ => parameters word.1)
      (List.map_congr_left fun setting _ => text setting.key)
  · exact Pad.plan_congr (text "DIR") (congrArg (Option.map Property.display) (attributes "IO_TYPE"))
  · exact Oscillator.plan_congr (text "NOM_FREQ")

/-- **The plan of a cell depends on what is read of it**, and on nothing else of its design. -/
theorem planCell_eq_of_content_eq (same : first.content firstCell = second.content secondCell) :
    planCell db first firstCell = planCell db second secondCell := by
  have name : first.name firstCell.name = second.name secondCell.name :=
    congrArg CellContent.name same
  have kind : first.name firstCell.kind = second.name secondCell.kind :=
    congrArg CellContent.kind same
  have bel : firstCell.bel = secondCell.bel := congrArg CellContent.bel same
  unfold planCell
  rw [name, kind, bel]
  cases secondCell.bel with
  | none => rfl
  | some bel =>
    dsimp only
    congr 1
    funext kind
    cases found : Encoder.forKind? kind with
    | none => rfl
    | some encoder =>
      dsimp only
      rw [Encoder.plan_eq_of_content_eq (Encoder.forKind?_eq_some found).1 same]

/-- Lists with the same values in another order are the same list in another order, valued. -/
theorem exists_perm_of_map_perm {α β γ : Type} {items : List α} {others : List β} {value : α → γ}
    {otherValue : β → γ} (permuted : (items.map value).Perm (others.map otherValue)) :
    ∃ order : List β, items.map value = order.map otherValue ∧ order.Perm others := by
  have composed := congrFun (congrFun (List.eq_map_comp_perm otherValue) (items.map value)) others
  exact composed.mpr permuted

theorem perm_map_planCell (permuted : first.contents.Perm second.contents) :
    (first.cells.toList.map (planCell db first)).Perm
      (second.cells.toList.map (planCell db second)) := by
  obtain ⟨order, same, ordered⟩ := exists_perm_of_map_perm permuted
  have plans : first.cells.toList.map (planCell db first) = order.map (planCell db second) := by
    refine List.ext_getElem? fun index => ?_
    have alike := congrArg (·[index]?) same
    simp only [List.getElem?_map] at alike ⊢
    cases here : first.cells.toList[index]? with
    | none =>
      cases there : order[index]? with
      | none => rfl
      | some other => simp [here, there] at alike
    | some cell =>
      cases there : order[index]? with
      | none => simp [here, there] at alike
      | some other =>
        rw [here, there, Option.map_some, Option.map_some, Option.some.injEq] at alike
        exact congrArg some (planCell_eq_of_content_eq alike)
  rw [plans]
  exact ordered.map _

/-! ### Slices of one tile -/

/-- The index of a site is a single digit. -/
theorem decimal_of_isSite {lead site : String} {index : Nat} (isSite : IsSite lead site index) :
    Text.decimal index = [Nat.digitChar index] := by
  obtain ⟨_, _, _, held⟩ := isSite
  have digits : ∀ small < 4, Text.decimal small = [Nat.digitChar small] := by decide
  exact digits index (siteLetters_getElem?_eq_some_iff.mp held).1

/-- **Settings of slices with different letters have different names**: names of the site's own
differ in the letter, names of a group in the index. -/
theorem Slice.FeatureName.render_ne {name other : Slice.FeatureName} {site otherSite : String}
    {index place : Nat} (isSite : IsSite "SLICE" site index)
    (otherIsSite : IsSite "SLICE" otherSite place) (different : index ≠ place)
    (known : name.IsKnown) (otherKnown : other.IsKnown) :
    name.render site index ≠ other.render otherSite place := by
  intro same
  have alike := alike_of_render_eq isSite otherIsSite known otherKnown same
  have digit := decimal_of_isSite isSite
  have otherDigit := decimal_of_isSite otherIsSite
  obtain ⟨letter, rest, starts, held⟩ := isSite
  obtain ⟨otherLetter, otherRest, otherStarts, otherHeld⟩ := otherIsSite
  obtain ⟨small, distance⟩ := siteLetters_getElem?_eq_some_iff.mp held
  obtain ⟨otherSmall, otherDistance⟩ := siteLetters_getElem?_eq_some_iff.mp otherHeld
  have letters : letter ≠ otherLetter := by
    rintro rfl
    omega
  have digits : Nat.digitChar index ≠ Nat.digitChar place := by
    have apart : ∀ one < 4, ∀ two < 4, one ≠ two → Nat.digitChar one ≠ Nat.digitChar two := by
      decide
    exact apart index small place otherSmall different
  have chars (position : Nat) := congrArg (fun text : String => text.toList[position]?) same
  rcases alike with ⟨own, theirs, rfl, rfl⟩ | ⟨group, own, theirs, listed, rfl, rfl⟩
  · have fifth := chars 5
    simp only [render, String.toList_append, starts, otherStarts] at fifth
    exact letters (Option.some.inj fifth)
  · have third := chars 3
    simp only [render, String.toList_append, String.toList_ofList, digit, otherDigit] at third
    rcases listed with rfl | rfl
    · exact digits (Option.some.inj third)
    · exact digits (Option.some.inj third)

/-- What a slice gives are the settings of its site. -/
theorem Encodes.eq_features {tile other site : String} {index : Nat} {features : List Feature}
    (encodes : Encodes db design cell other features)
    (slice : cell.IsSliceAt db design bel tile site index) :
    ∃ low high, features = Slice.features design cell site index low high := by
  cases encodes with
  | slice placed kind inTile named isSite lowTable lowFits highTable highFits =>
    cases placed.symm.trans slice.placed
    cases named.symm.trans slice.named
    cases (siteIndex_eq_ok_iff.mpr isSite).symm.trans (siteIndex_eq_ok_iff.mpr slice.isSite)
    exact ⟨_, _, rfl⟩
  | pad placed kind named isSite atBorder inTile =>
    exact absurd (Except.ok.inj (kind.symm.trans slice.kind)) (by decide)
  | oscillator placed kind inTile =>
    exact absurd (Except.ok.inj (kind.symm.trans slice.kind)) (by decide)

/-- A slice whose tables are well-formed gives the settings of its site. -/
theorem Cell.IsSliceAt.encodes {tile site : String} {index : Nat} {low high : Bits}
    (slice : cell.IsSliceAt db design bel tile site index)
    (lowTable : design.wordOrZero cell.parameters "LUT0_INITVAL" 16 = .ok low)
    (highTable : design.wordOrZero cell.parameters "LUT1_INITVAL" 16 = .ok high) :
    Encodes db design cell tile (Slice.features design cell site index low high) := by
  obtain ⟨_, lowGiven, lowFits, rfl⟩ := Design.wordOrZero_eq_ok_iff.mp lowTable
  obtain ⟨_, highGiven, highFits, rfl⟩ := Design.wordOrZero_eq_ok_iff.mp highTable
  exact .slice slice.placed slice.kind slice.inTile slice.named slice.isSite lowGiven lowFits
    highGiven highFits

theorem Slice.length_features (design : Design) (cell : Cell) (site : String) (index : Nat)
    (low high : Bits) : (Slice.features design cell site index low high).length = 14 := rfl

/-- The name that a feature is set under. -/
def Feature.name? : Feature → Option String
  | .arc sink _ => some sink
  | .word name _ | .enum name _ => some name
  | .raw _ => none

/-- The name of a setting of a slice. -/
theorem Slice.name?_of_mem_features {site : String} {index : Nat} {low high : Bits}
    {feature : Feature} (member : feature ∈ Slice.features design cell site index low high) :
    ∃ name : Slice.FeatureName, name.IsKnown ∧ feature.name? = some (name.render site index) := by
  have known : ∀ setting ∈ Slice.enums, setting.name.IsKnown := by decide
  rcases List.mem_cons.mp member with rfl | member
  · exact ⟨.ofSite ".K0.INIT", trivial, rfl⟩
  rcases List.mem_cons.mp member with rfl | member
  · exact ⟨.ofSite ".K1.INIT", trivial, rfl⟩
  · obtain ⟨setting, listed, rfl⟩ := List.mem_map.mp member
    exact ⟨setting.name, known setting listed, rfl⟩

/-- **Slices of one tile whose sites have different letters never clash**: no name is set by both,
be it as a word or as an enumerated setting. -/
theorem name?_ne_of_isSliceAt {other : Cell} {otherBel : BelId} {tile site otherSite : String}
    {index place : Nat} {features others : List Feature}
    (slice : cell.IsSliceAt db design bel tile site index)
    (otherSlice : other.IsSliceAt db design otherBel tile otherSite place)
    (different : index ≠ place) (encodes : Encodes db design cell tile features)
    (otherEncodes : Encodes db design other tile others) :
    ∀ feature ∈ features, ∀ given ∈ others, feature.name? ≠ given.name? := by
  obtain ⟨low, high, rfl⟩ := encodes.eq_features slice
  obtain ⟨otherLow, otherHigh, rfl⟩ := otherEncodes.eq_features otherSlice
  intro feature inside given within same
  obtain ⟨name, known, named⟩ := Slice.name?_of_mem_features inside
  obtain ⟨otherName, otherKnown, otherNamed⟩ := Slice.name?_of_mem_features within
  rw [named, otherNamed] at same
  exact Slice.FeatureName.render_ne slice.isSite otherSlice.isSite different known otherKnown
    (Option.some.inj same)

/-! ### Cells that do not clash -/

/-- No two cells of a design give a setting of the same slot of a tile. -/
def HasNoClash (db : Database) (design : Design) : Prop :=
  design.cells.toList.Pairwise fun cell other => ∀ tile features others,
    Encodes db design cell tile features → Encodes db design other tile others →
      ∀ feature ∈ features, ∀ given ∈ others, feature.slot ≠ given.slot

/-- The plans of cells that do not clash set no slots in common. -/
theorem HasNoClash.pairwise (clear : HasNoClash db design)
    (ended : ∀ cell ∈ design.cells, ∃ fate, (planCell db design cell).outcome = .ok fate) :
    (design.cells.toList.map (planCell db design)).Pairwise fun plan other =>
      AreApart plan.edits other.edits := by
  rw [List.pairwise_map]
  refine clear.imp_of_mem fun {cell other} held otherHeld apart => ?_
  obtain ⟨fate, ends⟩ := ended cell (Array.mem_toList_iff.mp held)
  obtain ⟨otherFate, otherEnds⟩ := ended other (Array.mem_toList_iff.mp otherHeld)
  intro edit inside otherEdit within meets
  cases edit with
  | create tile => cases meets
  | set tile feature =>
    cases otherEdit with
    | create tile => cases meets
    | set otherTile given =>
      obtain ⟨rfl, same⟩ := meets
      obtain ⟨features, encodes, member⟩ := (set_mem_planCell_iff ⟨rfl, ends⟩).mp inside
      obtain ⟨others, also, otherMember⟩ := (set_mem_planCell_iff ⟨rfl, otherEnds⟩).mp within
      exact apart tile features others encodes also feature member given otherMember same

/-- Cells whose plans set no slots in common do not clash. -/
theorem hasNoClash_of_pairwise
    (apart : (design.cells.toList.map (planCell db design)).Pairwise fun plan other =>
      AreApart plan.edits other.edits) : HasNoClash db design := by
  rw [List.pairwise_map] at apart
  refine apart.imp fun {cell other} apart tile features others encodes also => ?_
  obtain ⟨_, made, sets⟩ := encodes.exists_makes
  obtain ⟨_, otherMade, otherSets⟩ := also.exists_makes
  intro feature member given otherMember same
  have inside := sets.set_mem_iff.mpr ⟨rfl, member⟩
  have within := otherSets.set_mem_iff.mpr ⟨rfl, otherMember⟩
  rw [← made.edits] at inside
  rw [← otherMade.edits] at within
  exact apart _ inside _ within ⟨rfl, same⟩

/-! ### The stage of the cells -/

/-- Plans that come to their end do so in any order, with the same outcomes in that order. -/
theorem Plan.Makes.all_perm {α : Type} {plans others : List (Plan α)} {values : List α}
    (made : (all plans).Makes edits values) (permuted : plans.Perm others) :
    ∃ shuffled, (all others).Makes (others.flatMap (·.edits)) shuffled ∧ shuffled.Perm values := by
  have outcomes : (others.map (·.outcome)).Perm (values.map .ok) := by
    rw [← (makes_all_iff.mp made).2]
    exact (permuted.map _).symm
  obtain ⟨shuffled, same, ordered⟩ := exists_perm_of_map_perm outcomes
  exact ⟨shuffled, makes_all_iff.mpr ⟨rfl, same⟩, ordered⟩

theorem CellTally.ofFates_perm {fates others : List CellFate} (permuted : fates.Perm others) :
    CellTally.ofFates fates = CellTally.ofFates others := by
  simp only [CellTally.ofFates, permuted.countP_eq]

/-- A stage of cells that comes to its end does so in any order of the cells, with the same tally. -/
theorem exists_makes_planCells_of_perm (permuted : first.contents.Perm second.contents)
    {tally : CellTally} (made : (planCells db first).Makes edits tally) :
    ∃ others, (planCells db second).Makes others tally := by
  obtain ⟨fates, plans, rfl⟩ := makes_planCells_iff.mp made
  obtain ⟨shuffled, again, ordered⟩ := plans.all_perm (perm_map_planCell permuted)
  exact ⟨_, makes_planCells_iff.mpr ⟨shuffled, again, CellTally.ofFates_perm ordered.symm⟩⟩

/-- The stage of the cells makes the same of a document in any order of cells that do not clash. -/
theorem run_planCells_of_perm (permuted : first.contents.Perm second.contents)
    (clear : HasNoClash db first) {document after : Document}
    (ran : (planCells db first).run document = .ok after) :
    (planCells db second).run document = .ok after := by
  obtain ⟨⟨tally, ended⟩, rfl⟩ := run_eq_ok_iff.mp ran
  obtain ⟨cellsEnd, whole⟩ := exists_makes_planCells_iff.mp ⟨tally, rfl, ended⟩
  obtain ⟨_, again⟩ := exists_makes_planCells_of_perm permuted ⟨rfl, ended⟩
  obtain ⟨_, rfl⟩ := exists_makes_planCells_iff.mp ⟨tally, again⟩
  have same := applyAll_flatMap_perm (perm_map_planCell permuted) (clear.pairwise cellsEnd) document
  rw [List.flatMap_map, List.flatMap_map, ← cellEdits, ← cellEdits] at same
  rw [again.run document, whole, same]

/-- Whether cells clash does not depend on their order. -/
theorem HasNoClash.of_perm (clear : HasNoClash db first)
    (permuted : first.contents.Perm second.contents) {tally : CellTally}
    (ended : (planCells db first).outcome = .ok tally) : HasNoClash db second := by
  obtain ⟨cellsEnd, _⟩ := exists_makes_planCells_iff.mp ⟨tally, rfl, ended⟩
  refine hasNoClash_of_pairwise ?_
  exact ((perm_map_planCell permuted).pairwise_iff fun apart => apart.symm).mp
    (clear.pairwise cellsEnd)

/-- **The order of the cells does not matter where no two clash.** Of two designs with the same cells
in different orders, the stage of the cells comes to its end for both or for neither, with the same
tally; and, if no two cells clash, from whatever document with the same document. Slices of one tile
whose sites have different letters do not clash: each gives fourteen settings, and they have no name
in common, so that no slot can be set by both. -/
theorem planCells_perm_and_slices_apart (db : Database) :
    (∀ first second : Design, first.contents.Perm second.contents →
      (∀ tally, (planCells db first).outcome = .ok tally ↔
        (planCells db second).outcome = .ok tally) ∧
      (HasNoClash db first → ∀ document after, (planCells db first).run document = .ok after ↔
        (planCells db second).run document = .ok after)) ∧
    ∀ (design : Design) (cell other : Cell) (bel otherBel : BelId) (tile site otherSite : String)
      (index place : Nat) (features others : List Feature),
      cell.IsSliceAt db design bel tile site index →
      other.IsSliceAt db design otherBel tile otherSite place → index ≠ place →
      Encodes db design cell tile features → Encodes db design other tile others →
        features.length = 14 ∧ others.length = 14 ∧
          ∀ feature ∈ features, ∀ given ∈ others, feature.name? ≠ given.name? := by
  have outcome {first second : Design} (permuted : first.contents.Perm second.contents)
      {tally : CellTally} (ended : (planCells db first).outcome = .ok tally) :
      (planCells db second).outcome = .ok tally := by
    obtain ⟨_, again⟩ := exists_makes_planCells_of_perm permuted ⟨rfl, ended⟩
    exact again.outcome
  refine ⟨fun first second permuted => ⟨fun tally => ?_, fun clear document after => ?_⟩, ?_⟩
  · exact ⟨outcome permuted, outcome permuted.symm⟩
  · refine ⟨run_planCells_of_perm permuted clear, fun ran => ?_⟩
    obtain ⟨⟨tally, ended⟩, _⟩ := run_eq_ok_iff.mp ran
    have clearToo := clear.of_perm permuted (outcome permuted.symm ended)
    exact run_planCells_of_perm permuted.symm clearToo ran
  · intro design cell other bel otherBel tile site otherSite index place features others slice
      otherSlice different encodes also
    have apart := name?_ne_of_isSliceAt slice otherSlice different encodes also
    obtain ⟨low, high, rfl⟩ := encodes.eq_features slice
    obtain ⟨otherLow, otherHigh, rfl⟩ := also.eq_features otherSlice
    exact ⟨Slice.length_features .., Slice.length_features .., apart⟩

/-! ### Designs that are built -/

/-- What is read of a cell with names and keys as texts. -/
def NamedCell.content (cell : NamedCell) : CellContent where
  name := .ok cell.name
  kind := .ok cell.kind
  bel := cell.bel
  parameters := (cell.parameters[·]?)
  attributes := (cell.attributes[·]?)

theorem Cell.StandsFor.content_eq {named : NamedCell} (stands : cell.StandsFor design.names named) :
    design.content cell = named.content := by
  have parameters := funext stands.parameters.value
  have attributes := funext stands.attributes.value
  rw [Design.content, NamedCell.content, Design.name, Design.name, stands.name, stands.kind,
    stands.bel, ← parameters, ← attributes]
  rfl

/-- **What is read of the cells of a design** is what is read of the named cells it stands for. -/
theorem Design.HasCells.contents_eq {cells : List NamedCell} (has : design.HasCells cells) :
    design.contents = cells.map NamedCell.content := by
  refine List.ext_getElem? fun place => ?_
  rw [Design.contents, List.getElem?_map, List.getElem?_map, Array.getElem?_toList]
  cases found : cells[place]? with
  | none =>
    have beyond := List.getElem?_eq_none_iff.mp found
    rw [← has.size] at beyond
    rw [Array.getElem?_eq_none beyond]
    rfl
  | some named =>
    obtain ⟨cell, there, _, stands⟩ := has.cell place named found
    rw [there, Option.map_some, Option.map_some, stands.content_eq]

/-- A device of one location, with two sites for slices. -/
def sharedTile : Database where
  __ := Database.empty .hc1200 1 1
  grid := #[{ tiles := #[⟨"R1C1:PLC", "PLC"⟩],
              bels := #[⟨"SLICEA", "FACADE_SLICE"⟩, ⟨"SLICED", "FACADE_SLICE"⟩] }]
  grid_size := rfl

/-- Two slices and a cell that is not placed. -/
def lowFirst : List Operation :=
  [.addCell "low" "FACADE_SLICE", .place 0 ⟨⟨0, 0⟩, 0⟩,
    .set .parameters 0 "LUT0_INITVAL" (.integer 5), .addCell "loose" "FACADE_IO",
    .addCell "high" "FACADE_SLICE", .place 2 ⟨⟨0, 0⟩, 1⟩, .set .parameters 2 "MODE" (.text "CCU2")]

/-- The same cells from the last to the first, with other numbers for their names and keys. -/
def highFirst : List Operation :=
  [.number "MODE", .addCell "high" "FACADE_SLICE", .place 0 ⟨⟨0, 0⟩, 1⟩, .addCell "loose" "FACADE_IO",
    .addCell "low" "FACADE_SLICE", .set .parameters 0 "MODE" (.text "CCU2"),
    .set .parameters 2 "LUT0_INITVAL" (.integer 5), .place 2 ⟨⟨0, 0⟩, 0⟩]

/-- A slice that is placed in the tile, with one table that is set, gives settings of its site. -/
theorem exists_encodes_sharedTile (design : Design) (id : Nat) (place : UInt32)
    (site : String) (index low : Nat)
    (named : (sharedTile.belName ⟨⟨0, 0⟩, place⟩).toOption = some site)
    (indexed : (siteIndex site "SLICE").toOption = some index)
    (held : design.cells[id]?.map (fun cell =>
      (cell.bel, (design.name cell.kind).toOption,
        (design.wordOrZero cell.parameters "LUT0_INITVAL" 16).toOption,
        (design.wordOrZero cell.parameters "LUT1_INITVAL" 16).toOption)) =
      some (some ⟨⟨0, 0⟩, place⟩, some "FACADE_SLICE", some (Bits.ofNat low 16),
        some (Bits.ofNat 0 16))) :
    ∃ cell features,
      cell.IsSliceAt sharedTile design ⟨⟨0, 0⟩, place⟩ "R1C1:PLC" site index ∧
      Encodes sharedTile design cell "R1C1:PLC" features := by
  obtain ⟨cell, _, same⟩ := Option.map_eq_some_iff.mp held
  obtain ⟨placed, same⟩ := Prod.mk.inj same
  obtain ⟨kind, same⟩ := Prod.mk.inj same
  obtain ⟨lowTable, highTable⟩ := Prod.mk.inj same
  have inTile : sharedTile.tileAt ⟨0, 0⟩ "PLC" = .ok "R1C1:PLC" :=
    eq_ok_of_toOption (by decide +kernel)
  have slice : cell.IsSliceAt sharedTile design ⟨⟨0, 0⟩, place⟩ "R1C1:PLC" site index :=
    { placed
      kind := eq_ok_of_toOption kind
      inTile
      named := eq_ok_of_toOption named
      isSite := siteIndex_eq_ok_iff.mp (eq_ok_of_toOption indexed) }
  exact ⟨cell, _, slice, slice.encodes (eq_ok_of_toOption lowTable) (eq_ok_of_toOption highTable)⟩

theorem planCells_perm_sharedTile :
    (∃ after, (Design.build lowFirst).contents.Perm (Design.build highFirst).contents ∧
      HasNoClash sharedTile (Design.build lowFirst) ∧
      (planCells sharedTile (Design.build lowFirst)).outcome = .ok ⟨2, 1, 0⟩ ∧
      (planCells sharedTile (Design.build highFirst)).outcome = .ok ⟨2, 1, 0⟩ ∧
      (planCells sharedTile (Design.build lowFirst)).run {} = .ok after ∧
      (planCells sharedTile (Design.build highFirst)).run {} = .ok after) ∧
    ∃ low high features others,
      low.IsSliceAt sharedTile (Design.build lowFirst) ⟨⟨0, 0⟩, 0⟩ "R1C1:PLC" "SLICEA" 0 ∧
      high.IsSliceAt sharedTile (Design.build lowFirst) ⟨⟨0, 0⟩, 1⟩ "R1C1:PLC" "SLICED" 3 ∧
      Encodes sharedTile (Design.build lowFirst) low "R1C1:PLC" features ∧
      Encodes sharedTile (Design.build lowFirst) high "R1C1:PLC" others ∧
      ∀ feature ∈ features, ∀ given ∈ others, feature.name? ≠ given.name? := by
  have cells : cellsOf highFirst = (cellsOf lowFirst).reverse := rfl
  have permuted : (Design.build lowFirst).contents.Perm (Design.build highFirst).contents := by
    rw [(Design.hasCells_build lowFirst).contents_eq, (Design.hasCells_build highFirst).contents_eq,
      cells]
    exact (List.reverse_perm _).symm.map _
  have clear : HasNoClash sharedTile (Design.build lowFirst) :=
    hasNoClash_of_pairwise (by decide +kernel)
  have ended : (planCells sharedTile (Design.build lowFirst)).outcome = .ok ⟨2, 1, 0⟩ := by
    have settled : (planCells sharedTile (Design.build lowFirst)).outcome.toOption =
        some ⟨2, 1, 0⟩ := by decide +kernel
    exact eq_ok_of_toOption settled
  obtain ⟨orders, slices⟩ := planCells_perm_and_slices_apart sharedTile
  obtain ⟨tallies, documents⟩ := orders _ _ permuted
  obtain ⟨after, ran⟩ : ∃ after, (planCells sharedTile (Design.build lowFirst)).run {} = .ok after :=
    ⟨_, run_eq_ok_iff.mpr ⟨⟨_, ended⟩, rfl⟩⟩
  obtain ⟨low, features, lowSlice, encodes⟩ :=
    exists_encodes_sharedTile (Design.build lowFirst) 0 0 "SLICEA" 0 5 (by decide +kernel)
      (by decide +kernel) (by decide +kernel)
  obtain ⟨high, others, highSlice, also⟩ :=
    exists_encodes_sharedTile (Design.build lowFirst) 2 1 "SLICED" 3 0 (by decide +kernel)
      (by decide +kernel) (by decide +kernel)
  obtain ⟨_, _, apart⟩ := slices _ _ _ _ _ _ _ _ _ _ _ _ lowSlice highSlice (by decide) encodes also
  refine ⟨⟨after, permuted, clear, ended, (tallies _).mp ended, ran, ?_⟩, ?_⟩
  · exact (documents clear {} after).mp ran
  · exact ⟨low, high, features, others, lowSlice, highSlice, encodes, also, apart⟩

end FabricConfig
