import FabricConfig.Proofs.Document.LastEdit
import FabricConfig.Proofs.Generation.Arcs
import FabricConfig.Proofs.Generation.Cells
import FabricConfig.Proofs.Generation.Safety
/-!
# Generation is exact

When a configuration is generated, and what is in it: the base configuration and, in each tile, the
arcs and settings that closed PIPs and placed cells give. Where two give the same slot, the later
one counts, in the order of the device for PIPs and of the design for cells.

* `IsEncodable`: what generation needs.
* `IsConfiguration`: what the document has, in each slot and in no other.
* `generate_iff_isEncodable_and_isConfiguration`: a document is generated just when all that is
  needed is there, and it is the one document with these contents.
-/

namespace FabricConfig

variable {db : Database} {design : Design} {document : Document} {edits base : List Edit}

open Plan

/-! ### What is needed -/

/-- What generation needs of a database and a design. -/
structure IsEncodable (db : Database) (design : Design) : Prop where
  variant : db.variant.isSupported = true
  /-- A closed PIP has a tile of its kind at its own location. -/
  pips : ∀ pip, IsRouted db design pip →
    ∃ entry tile, db.pip pip = .ok entry ∧ db.tileAt pip.location entry.tileKind = .ok tile
  /-- A placed cell of a kind with an encoder gives something. -/
  cells : ∀ cell ∈ design.cells, cell.IsHandled design →
    ∃ tile features, Encodes db design cell tile features

/-! ### What is in the document -/

/-- The arc into a sink comes from the last closed PIP that gives one. -/
def IsLastArc (db : Database) (design : Design) (tile sink source : String) : Prop :=
  ∃ pip, IsRouted db design pip ∧ GivesArc db pip tile sink source ∧
    ∀ later, IsRouted db design later → compare pip later = .lt →
      ∀ other, ¬GivesArc db later tile sink other

/-- A setting comes from the last cell that gives one of its slot. -/
def IsLastSetting (db : Database) (design : Design) (tile : String) (feature : Feature) : Prop :=
  ∃ (index : Nat) (cell : Cell) (features : List Feature), design.cells[index]? = some cell ∧
    Encodes db design cell tile features ∧ feature ∈ features ∧
    ∀ (later : Nat) (other : Cell), index < later → design.cells[later]? = some other →
      ∀ theirs, Encodes db design other tile theirs → ∀ given ∈ theirs, given.slot ≠ feature.slot

/-- The contents of the configuration of a design. -/
structure IsConfiguration (db : Database) (design : Design) (document : Document) : Prop where
  deviceName : document.deviceName = db.variant.name
  metadata : document.metadata = ["Part: " ++ db.partName]
  arc : ∀ tile sink source, (document.settings tile).arcs[sink]? = some source ↔
    IsLastArc db design tile sink source
  word : ∀ tile name bits, (document.settings tile).words[name]? = some bits ↔
    IsLastSetting db design tile (.word name bits)
  enum : ∀ tile name value, (document.settings tile).enums[name]? = some value ↔
    IsLastSetting db design tile (.enum name value)
  raw : ∀ tile bit, bit ∈ (document.settings tile).raws ↔
    ∃ edits, db.variant.baseEdits? = some edits ∧ Edit.set tile (.raw bit) ∈ edits
  /-- There are no tiles but those with features. -/
  tiles : ∀ tile, tile ∈ document.tiles ↔ (document.settings tile).isEmpty = false

/-- **The contents determine the document.** -/
theorem IsConfiguration.unique {other : Document} (first : IsConfiguration db design document)
    (second : IsConfiguration db design other) : document = other := by
  have settings (tile : String) : document.settings tile = other.settings tile := by
    refine TileSettings.ext_feature? fun slot => ?_
    cases slot with
    | arc sink =>
      refine congrArg (Option.map _) (Option.ext fun source => ?_)
      rw [first.arc, second.arc]
    | word name =>
      refine congrArg (Option.map _) (Option.ext fun bits => ?_)
      rw [first.word, second.word]
    | enum name =>
      refine congrArg (Option.map _) (Option.ext fun value => ?_)
      rw [first.enum, second.enum]
    | raw bit =>
      have same := (first.raw tile bit).trans (second.raw tile bit).symm
      by_cases set : bit ∈ (document.settings tile).raws
      · rw [TileSettings.feature?, TileSettings.feature?, if_pos set, if_pos (same.mp set)]
      · rw [TileSettings.feature?, TileSettings.feature?, if_neg set, if_neg (mt same.mpr set)]
  refine Document.ext_feature? (first.deviceName.trans second.deviceName.symm)
    (first.metadata.trans second.metadata.symm) (fun tile => ?_) fun tile slot => by rw [settings tile]
  rw [first.tiles, second.tiles, settings tile]

/-! ### The stages -/

/-- The edits of all closed PIPs. -/
def arcEdits (db : Database) (design : Design) : List Edit :=
  (pipsWithArcs db design).flatMap fun pip => (planArc db pip).edits

/-- The edits of all cells. -/
def cellEdits (db : Database) (design : Design) : List Edit :=
  design.cells.toList.flatMap fun cell => (planCell db design cell).edits

theorem exists_makes_planArcs_iff :
    (∃ count, (planArcs db design).Makes edits count) ↔
      (∀ pip ∈ pipsWithArcs db design, (planArc db pip).outcome = .ok ()) ∧
        edits = arcEdits db design := by
  have each : (∀ plan ∈ (pipsWithArcs db design).map (planArc db), ∃ value, plan.outcome = .ok value)
      ↔ ∀ pip ∈ pipsWithArcs db design, (planArc db pip).outcome = .ok () := by
    rw [List.forall_mem_map]
    exact forall₂_congr fun _ _ => ⟨fun ⟨_, ended⟩ => ended, fun ended => ⟨(), ended⟩⟩
  have whole : (∃ values, (Plan.all ((pipsWithArcs db design).map (planArc db))).Makes edits values)
      ↔ (∀ pip ∈ pipsWithArcs db design, (planArc db pip).outcome = .ok ()) ∧
        edits = arcEdits db design := by
    rw [exists_makes_all_iff, each, List.flatMap_map, arcEdits]
  rw [← whole]
  simp only [planArcs, makes_map_iff]
  constructor
  · rintro ⟨_, values, made, _⟩
    exact ⟨values, made⟩
  · rintro ⟨values, made⟩
    exact ⟨_, values, made, rfl⟩

/-- The closing notes on kinds without an encoder make no edits. -/
theorem exists_makes_reports {α : Type} (items : List α) (note : α → Diagnostic) :
    ∃ values, (Plan.all (items.map fun item => Plan.report (note item))).Makes [] values := by
  rw [all_map_report]
  exact ⟨_, rfl, rfl⟩

/-- The stage of the cells makes what the cells make, and tells how many of them met which fate. -/
theorem makes_planCells_iff {tally : CellTally} :
    (planCells db design).Makes edits tally ↔ ∃ fates,
      (Plan.all (design.cells.toList.map (planCell db design))).Makes edits fates ∧
        tally = .ofFates fates := by
  unfold planCells
  simp only [makes_bind_iff, makes_pure_iff]
  constructor
  · rintro ⟨fates, front, rest, made, ⟨_, notes, last, reported, ⟨rfl, same⟩, rfl⟩, rfl⟩
    obtain ⟨values, quiet⟩ := exists_makes_reports (unhandledKinds fates).toList
      fun kind => unhandledNote kind.1 kind.2
    have none : notes = [] := reported.edits.symm.trans quiet.edits
    rw [none, List.append_nil, List.append_nil]
    exact ⟨fates, made, same⟩
  · rintro ⟨fates, made, same⟩
    obtain ⟨values, quiet⟩ := exists_makes_reports (unhandledKinds fates).toList
      fun kind => unhandledNote kind.1 kind.2
    exact ⟨fates, edits, [], made, ⟨values, [], [], quiet, ⟨rfl, same⟩, rfl⟩,
      (List.append_nil edits).symm⟩

theorem exists_makes_planCells_iff :
    (∃ tally, (planCells db design).Makes edits tally) ↔
      (∀ cell ∈ design.cells, ∃ fate, (planCell db design cell).outcome = .ok fate) ∧
        edits = cellEdits db design := by
  have whole : (∃ fates,
      (Plan.all (design.cells.toList.map (planCell db design))).Makes edits fates) ↔
        (∀ cell ∈ design.cells, ∃ fate, (planCell db design cell).outcome = .ok fate) ∧
          edits = cellEdits db design := by
    rw [exists_makes_all_iff, List.forall_mem_map, List.flatMap_map, cellEdits]
    simp only [Array.mem_toList_iff]
  rw [← whole]
  simp only [makes_planCells_iff]
  constructor
  · rintro ⟨_, fates, made, _⟩
    exact ⟨fates, made⟩
  · rintro ⟨fates, made⟩
    exact ⟨_, fates, made, rfl⟩

theorem exists_makes_planDesign_iff :
    (∃ outcome, (planDesign db design).Makes edits outcome) ↔
      (∀ pip ∈ pipsWithArcs db design, (planArc db pip).outcome = .ok ()) ∧
        (∀ cell ∈ design.cells, ∃ fate, (planCell db design cell).outcome = .ok fate) ∧
        edits = arcEdits db design ++ cellEdits db design := by
  unfold planDesign
  simp only [makes_bind_iff, makes_pure_iff]
  constructor
  · rintro ⟨_, count, front, rest, arcs, ⟨tally, middle, last, cells, ⟨rfl, _⟩, rfl⟩, rfl⟩
    obtain ⟨arcsEnd, rfl⟩ := exists_makes_planArcs_iff.mp ⟨count, arcs⟩
    obtain ⟨cellsEnd, rfl⟩ := exists_makes_planCells_iff.mp ⟨tally, cells⟩
    rw [List.append_nil]
    exact ⟨arcsEnd, cellsEnd, rfl⟩
  · rintro ⟨arcsEnd, cellsEnd, rfl⟩
    obtain ⟨count, arcs⟩ := exists_makes_planArcs_iff.mpr ⟨arcsEnd, rfl⟩
    obtain ⟨tally, cells⟩ := exists_makes_planCells_iff.mpr ⟨cellsEnd, rfl⟩
    exact ⟨_, count, _, _, arcs, ⟨tally, _, [], cells, ⟨rfl, rfl⟩, (List.append_nil _).symm⟩, rfl⟩

/-- The stages come to their end when what they need is there. -/
theorem exists_makes_planDesign_iff_isEncodable (sound : db.IsSound)
    (designSound : design.IsSound db) :
    (∃ edits outcome, (planDesign db design).Makes edits outcome) ↔
      (∀ pip, IsRouted db design pip →
        ∃ entry tile, db.pip pip = .ok entry ∧ db.tileAt pip.location entry.tileKind = .ok tile) ∧
      ∀ cell ∈ design.cells, cell.IsHandled design →
        ∃ tile features, Encodes db design cell tile features := by
  have ends : (∃ edits outcome, (planDesign db design).Makes edits outcome) ↔
      (∀ pip ∈ pipsWithArcs db design, (planArc db pip).outcome = .ok ()) ∧
        ∀ cell ∈ design.cells, ∃ fate, (planCell db design cell).outcome = .ok fate := by
    simp only [exists_makes_planDesign_iff]
    exact ⟨fun ⟨_, arcs, cells, _⟩ => ⟨arcs, cells⟩, fun ⟨arcs, cells⟩ => ⟨_, arcs, cells, rfl⟩⟩
  rw [ends]
  refine and_congr (forall_congr' fun pip => ?_) (forall₂_congr fun cell member => ?_)
  · rw [mem_pipsWithArcs_iff sound]
    refine forall_congr' fun routed => ?_
    rw [← exists_givesArc_iff sound, ← exists_makes_planArc_iff sound routed]
    exact ⟨fun ended => ⟨_, rfl, ended⟩, fun ⟨_, made⟩ => made.outcome⟩
  · rw [← exists_makes_planCell_iff (designSound.cells cell member)]
    exact ⟨fun ⟨fate, ended⟩ => ⟨_, fate, rfl, ended⟩, fun ⟨_, fate, made⟩ => ⟨fate, made.outcome⟩⟩

/-! ### The document -/

/-- The document with the base configuration and the name of the part. -/
def baseDocument (db : Database) (base : List Edit) : Document :=
  (({ deviceName := db.variant.name } : Document).applyAll base).comment ("Part: " ++ db.partName)

/-- A document is generated when the stages come to their end, and has their edits. -/
theorem generate_eq_ok_iff_exists :
    (generate db design).2 = .ok document ↔
      ∃ base edits, db.variant.baseEdits? = some base ∧
        (∃ outcome, (planDesign db design).Makes edits outcome) ∧
        document = (baseDocument db base).applyAll edits := by
  unfold generate Document.seed?
  cases db.variant.baseEdits? with
  | none => exact iff_of_false nofun fun ⟨_, _, found, _⟩ => nomatch found
  | some base =>
    rw [Option.map_some]
    dsimp only
    constructor
    · intro made
      split at made
      · cases made
      · rename_i arcs tally ended
        cases made
        exact ⟨base, _, rfl, ⟨(arcs, tally), rfl, ended⟩, rfl⟩
    · rintro ⟨_, _, same, ⟨⟨arcs, tally⟩, rfl, ended⟩, rfl⟩
      cases same
      rw [ended]
      rfl

/-- All edits of a generated document are made to one with a name and a comment only. -/
theorem baseDocument_applyAll :
    (baseDocument db base).applyAll edits =
      ({ deviceName := db.variant.name, metadata := ["Part: " ++ db.partName] } :
        Document).applyAll (base ++ edits) := by
  rw [baseDocument, Document.comment_applyAll, ← Document.applyAll_append]
  rfl

/-- What a slot holds was put there by the cells, or else by the PIPs, or else by the base
configuration. -/
theorem feature?_generated (tile : String) (slot : Slot) :
    (((baseDocument db base).applyAll (arcEdits db design ++ cellEdits db design)).settings
        tile).feature? slot =
      (((cellEdits db design).filterMap (·.feature? tile slot)).getLast?.or
        ((arcEdits db design).filterMap (·.feature? tile slot)).getLast?).or
        (base.filterMap (·.feature? tile slot)).getLast? := by
  have bare : ∀ name comments, (({ deviceName := name, metadata := comments } :
      Document).settings tile) = {} := fun _ _ => by simp [Document.settings]
  rw [baseDocument_applyAll, Document.feature?_applyAll, bare, TileSettings.feature?_empty,
    Option.or_none, List.filterMap_append, List.filterMap_append, List.getLast?_append,
    List.getLast?_append]

theorem raw_of_mem_baseEdits {variant : Variant} (registered : variant.baseEdits? = some base)
    {edit : Edit} (member : edit ∈ base) : ∃ tile bit, edit = .set tile (.raw bit) := by
  cases variant with
  | hc1200 =>
    cases registered
    obtain ⟨⟨tile, frame, bit⟩, _, rfl⟩ := List.mem_map.mp member
    exact ⟨tile, ⟨frame, bit⟩, rfl⟩
  | _ => cases registered

/-- The base configuration puts raw bits into slots, and nothing else. -/
theorem getLast?_baseEdits_iff {variant : Variant} (registered : variant.baseEdits? = some base)
    {tile : String} {slot : Slot} {feature : Feature} :
    (base.filterMap (·.feature? tile slot)).getLast? = some feature ↔
      ∃ bit, feature = .raw bit ∧ slot = .raw bit ∧ Edit.set tile (.raw bit) ∈ base := by
  have once : SetsOnce base := by
    intro tile first second firstIn secondIn same
    obtain ⟨_, bit, equal⟩ := raw_of_mem_baseEdits registered firstIn
    obtain ⟨_, other, alike⟩ := raw_of_mem_baseEdits registered secondIn
    cases equal
    cases alike
    rw [Slot.raw.inj same]
  rw [getLast?_feature?_iff once]
  constructor
  · rintro ⟨member, own⟩
    obtain ⟨_, bit, equal⟩ := raw_of_mem_baseEdits registered member
    cases equal
    exact ⟨bit, rfl, own.symm, member⟩
  · rintro ⟨bit, rfl, rfl, member⟩
    exact ⟨member, rfl⟩

/-- In a list in ascending order, what is earlier is what is less. -/
theorem lt_iff_compare_eq_lt {items : List PipId}
    (ascending : items.Pairwise fun first second => compare first second = .lt)
    {index later : Nat} {pip other : PipId} (here : items[index]? = some pip)
    (there : items[later]? = some other) : index < later ↔ compare pip other = .lt := by
  obtain ⟨within, rfl⟩ := List.getElem?_eq_some_iff.mp here
  obtain ⟨reached, rfl⟩ := List.getElem?_eq_some_iff.mp there
  have ordered := List.pairwise_iff_getElem.mp ascending
  constructor
  · exact ordered index later within reached
  · intro less
    rcases Nat.lt_trichotomy index later with before | same | after
    · exact before
    · subst same
      rw [Std.ReflOrd.compare_self] at less
      cases less
    · have greater := ordered later index reached within after
      rw [Std.OrientedOrd.eq_swap, less] at greater
      cases greater

section Contents

variable (sound : db.IsSound)
  (arcsEnd : ∀ pip ∈ pipsWithArcs db design, (planArc db pip).outcome = .ok ())
  (cellsEnd : ∀ cell ∈ design.cells, ∃ fate, (planCell db design cell).outcome = .ok fate)

include sound arcsEnd in
theorem set_mem_arcs_iff {pip : PipId} (listed : pip ∈ pipsWithArcs db design) {tile : String}
    {feature : Feature} :
    .set tile feature ∈ (planArc db pip).edits ↔
      ∃ sink source, feature = .arc sink source ∧ GivesArc db pip tile sink source :=
  set_mem_planArc_iff sound ((mem_pipsWithArcs_iff sound).mp listed) ⟨rfl, arcsEnd pip listed⟩

include cellsEnd in
theorem set_mem_cell_iff {cell : Cell} (member : cell ∈ design.cells) {tile : String}
    {feature : Feature} :
    .set tile feature ∈ (planCell db design cell).edits ↔
      ∃ features, Encodes db design cell tile features ∧ feature ∈ features := by
  obtain ⟨fate, ended⟩ := cellsEnd cell member
  exact set_mem_planCell_iff ⟨rfl, ended⟩

include sound arcsEnd in
/-- **What the arcs put into a slot last** is the arc of the last PIP. -/
theorem getLast?_arcEdits_iff {tile : String} {slot : Slot} {feature : Feature} :
    ((arcEdits db design).filterMap (·.feature? tile slot)).getLast? = some feature ↔
      ∃ sink source, feature = .arc sink source ∧ slot = .arc sink ∧
        IsLastArc db design tile sink source := by
  have once : ∀ pip ∈ pipsWithArcs db design, SetsOnce (planArc db pip).edits := by
    intro pip listed tile first second firstIn secondIn _
    obtain ⟨entry, found, _⟩ := ((mem_pipsWithArcs_iff sound).mp listed).2
    obtain ⟨_, _, _, _, only⟩ := (makes_planArc_iff sound found).mp ⟨rfl, arcsEnd pip listed⟩
    rw [only] at firstIn secondIn
    cases List.mem_singleton.mp firstIn
    cases List.mem_singleton.mp secondIn
    rfl
  rw [arcEdits, getLast?_feature?_flatMap_iff once]
  -- In this list, to come later is to be greater.
  have ascending : (pipsWithArcs db design).Pairwise fun first second =>
      compare first second = .lt := pipsWithArcs_ascending sound
  constructor
  · rintro ⟨index, pip, here, ⟨set, own⟩, after⟩
    have listed := List.mem_of_getElem? here
    obtain ⟨sink, source, rfl, gives⟩ := (set_mem_arcs_iff sound arcsEnd listed).mp set
    refine ⟨sink, source, rfl, own.symm, pip, (mem_pipsWithArcs_iff sound).mp listed, gives, ?_⟩
    intro later routed greater other overrides
    have alsoListed := (mem_pipsWithArcs_iff sound).mpr routed
    obtain ⟨place, there⟩ := List.mem_iff_getElem?.mp alsoListed
    refine after place later ((lt_iff_compare_eq_lt ascending here there).mpr greater) there
      (.arc sink other) ?_ own
    exact (set_mem_arcs_iff sound arcsEnd alsoListed).mpr ⟨sink, other, rfl, overrides⟩
  · rintro ⟨sink, source, rfl, rfl, pip, routed, gives, last⟩
    have listed := (mem_pipsWithArcs_iff sound).mpr routed
    obtain ⟨index, here⟩ := List.mem_iff_getElem?.mp listed
    refine ⟨index, pip, here, ⟨?_, rfl⟩, ?_⟩
    · exact (set_mem_arcs_iff sound arcsEnd listed).mpr ⟨sink, source, rfl, gives⟩
    · intro place later beyond there given set same
      have alsoListed := List.mem_of_getElem? there
      obtain ⟨_, other, rfl, overrides⟩ := (set_mem_arcs_iff sound arcsEnd alsoListed).mp set
      cases Slot.arc.inj same
      exact last later ((mem_pipsWithArcs_iff sound).mp alsoListed)
        ((lt_iff_compare_eq_lt ascending here there).mp beyond) other overrides

include cellsEnd in
/-- **What the cells put into a slot last** is the setting of the last cell. -/
theorem getLast?_cellEdits_iff {tile : String} {slot : Slot} {feature : Feature} :
    ((cellEdits db design).filterMap (·.feature? tile slot)).getLast? = some feature ↔
      feature.slot = slot ∧ IsLastSetting db design tile feature := by
  have once : ∀ cell ∈ design.cells.toList, SetsOnce (planCell db design cell).edits := by
    intro cell member tile first second firstIn secondIn same
    obtain ⟨fate, ended⟩ := cellsEnd cell (Array.mem_toList_iff.mp member)
    rcases encodes_of_makes_planCell ⟨rfl, ended⟩ with ⟨_, none⟩ | ⟨_, features, encodes, sets⟩
    · rw [none] at firstIn
      exact absurd firstIn List.not_mem_nil
    · exact sets.setsOnce encodes.slots_nodup tile first second firstIn secondIn same
  rw [cellEdits, getLast?_feature?_flatMap_iff once]
  simp only [Array.getElem?_toList]
  constructor
  · rintro ⟨index, cell, here, ⟨set, own⟩, after⟩
    obtain ⟨features, encodes, inside⟩ :=
      (set_mem_cell_iff cellsEnd (Array.mem_of_getElem? here)).mp set
    refine ⟨own, index, cell, features, here, encodes, inside, ?_⟩
    intro later other beyond there theirs others given member
    rw [own]
    refine after later other beyond there given ?_
    exact (set_mem_cell_iff cellsEnd (Array.mem_of_getElem? there)).mpr ⟨theirs, others, member⟩
  · rintro ⟨own, index, cell, features, here, encodes, inside, last⟩
    refine ⟨index, cell, here, ⟨?_, own⟩, ?_⟩
    · exact (set_mem_cell_iff cellsEnd (Array.mem_of_getElem? here)).mpr ⟨features, encodes, inside⟩
    · intro later other beyond there given set
      obtain ⟨theirs, others, member⟩ :=
        (set_mem_cell_iff cellsEnd (Array.mem_of_getElem? there)).mp set
      rw [← own]
      exact last later other beyond there theirs others given member

theorem IsLastSetting.slot_ne {tile : String} {feature : Feature}
    (last : IsLastSetting db design tile feature) :
    (∀ sink, feature.slot ≠ .arc sink) ∧ ∀ bit, feature.slot ≠ .raw bit := by
  obtain ⟨_, _, features, _, encodes, inside, _⟩ := last
  rcases encodes.isSetting.2 feature inside with ⟨_, _, rfl⟩ | ⟨_, _, rfl⟩
  · exact ⟨nofun, nofun⟩
  · exact ⟨nofun, nofun⟩

include sound arcsEnd cellsEnd in
/-- **What a slot of a generated document holds**: an arc of the last PIP, a setting of the last
cell, or a raw bit of the base configuration. -/
theorem feature?_generated_iff {variant : Variant} (registered : variant.baseEdits? = some base)
    {tile : String} {slot : Slot} {feature : Feature} :
    (((baseDocument db base).applyAll (arcEdits db design ++ cellEdits db design)).settings
        tile).feature? slot = some feature ↔
      (feature.slot = slot ∧ IsLastSetting db design tile feature) ∨
        (∃ sink source, feature = .arc sink source ∧ slot = .arc sink ∧
          IsLastArc db design tile sink source) ∨
        ∃ bit, feature = .raw bit ∧ slot = .raw bit ∧ Edit.set tile (.raw bit) ∈ base := by
  rw [feature?_generated, ← getLast?_cellEdits_iff cellsEnd, ← getLast?_arcEdits_iff sound arcsEnd,
    ← getLast?_baseEdits_iff registered, Option.or_assoc, Option.or_eq_some_iff,
    Option.or_eq_some_iff]
  -- The three lots fill slots of different kinds, so at most one of them fills this one.
  have arcOnly {given : Feature}
      (put : ((arcEdits db design).filterMap (·.feature? tile slot)).getLast? = some given) :
      ∃ sink, slot = .arc sink := by
    obtain ⟨sink, _, _, same, _⟩ := (getLast?_arcEdits_iff sound arcsEnd).mp put
    exact ⟨sink, same⟩
  have rawOnly {given : Feature}
      (put : (base.filterMap (·.feature? tile slot)).getLast? = some given) :
      ∃ bit, slot = .raw bit := by
    obtain ⟨bit, _, same, _⟩ := (getLast?_baseEdits_iff registered).mp put
    exact ⟨bit, same⟩
  have noCell (other : (∃ sink, slot = .arc sink) ∨ ∃ bit, slot = .raw bit) :
      ((cellEdits db design).filterMap (·.feature? tile slot)).getLast? = none := by
    refine Option.eq_none_iff_forall_ne_some.mpr fun given put => ?_
    obtain ⟨own, last⟩ := (getLast?_cellEdits_iff cellsEnd).mp put
    rcases other with ⟨sink, same⟩ | ⟨bit, same⟩
    · exact last.slot_ne.1 sink (own.trans same)
    · exact last.slot_ne.2 bit (own.trans same)
  have noArc (other : ∃ bit, slot = .raw bit) :
      ((arcEdits db design).filterMap (·.feature? tile slot)).getLast? = none := by
    refine Option.eq_none_iff_forall_ne_some.mpr fun given put => ?_
    obtain ⟨sink, same⟩ := arcOnly put
    obtain ⟨bit, equal⟩ := other
    rw [same] at equal
    cases equal
  constructor
  · rintro (cell | ⟨_, arc | ⟨_, raw⟩⟩)
    · exact .inl cell
    · exact .inr (.inl arc)
    · exact .inr (.inr raw)
  · rintro (cell | arc | raw)
    · exact .inl cell
    · exact .inr ⟨noCell (.inl (arcOnly arc)), .inl arc⟩
    · exact .inr ⟨noCell (.inr (rawOnly raw)), .inr ⟨noArc (rawOnly raw), raw⟩⟩

include sound arcsEnd cellsEnd in
theorem exists_set_of_mem_edits (registered : db.variant.baseEdits? = some base) {edit : Edit}
    (member : edit ∈ base ++ (arcEdits db design ++ cellEdits db design)) :
    ∃ feature, .set edit.tile feature ∈ base ++ (arcEdits db design ++ cellEdits db design) := by
  rw [List.mem_append, List.mem_append] at member
  rcases member with inBase | inArcs | inCells
  · obtain ⟨tile, bit, rfl⟩ := raw_of_mem_baseEdits registered inBase
    exact ⟨.raw bit, List.mem_append_left _ inBase⟩
  · obtain ⟨pip, listed, made⟩ := List.mem_flatMap.mp inArcs
    obtain ⟨entry, found, _⟩ := ((mem_pipsWithArcs_iff sound).mp listed).2
    obtain ⟨tile, sink, source, _, only⟩ :=
      (makes_planArc_iff sound found).mp ⟨rfl, arcsEnd pip listed⟩
    rw [only] at made
    cases List.mem_singleton.mp made
    exact ⟨.arc sink source, List.mem_append_right _ (List.mem_append_left _ inArcs)⟩
  · obtain ⟨cell, listed, made⟩ := List.mem_flatMap.mp inCells
    obtain ⟨fate, ended⟩ := cellsEnd cell (Array.mem_toList_iff.mp listed)
    rcases encodes_of_makes_planCell ⟨rfl, ended⟩ with ⟨_, none⟩ | ⟨tile, features, encodes, sets⟩
    · rw [none] at made
      exact absurd made List.not_mem_nil
    · obtain ⟨feature, inside⟩ := List.exists_mem_of_ne_nil _ encodes.isSetting.1
      refine ⟨feature, List.mem_append_right _ (List.mem_append_right _ ?_)⟩
      refine List.mem_flatMap.mpr ⟨cell, listed, sets.set_mem_iff.mpr ⟨?_, inside⟩⟩
      exact sets.tile_eq made

include sound arcsEnd cellsEnd in
/-- **The stages make the configuration of the design.** -/
theorem isConfiguration_applyAll (registered : db.variant.baseEdits? = some base) :
    IsConfiguration db design
      ((baseDocument db base).applyAll (arcEdits db design ++ cellEdits db design)) where
  deviceName := by
    rw [baseDocument_applyAll, Document.deviceName_applyAll]
  metadata := by
    rw [baseDocument_applyAll, Document.metadata_applyAll]
  arc tile sink source := by
    rw [TileSettings.getElem?_arcs_iff, feature?_generated_iff sound arcsEnd cellsEnd registered]
    constructor
    · rintro (⟨_, last⟩ | ⟨_, _, same, _, last⟩ | ⟨_, same, _⟩)
      · exact absurd rfl (last.slot_ne.1 sink)
      · cases same
        exact last
      · cases same
    · intro last
      exact .inr (.inl ⟨sink, source, rfl, rfl, last⟩)
  word tile name bits := by
    rw [TileSettings.getElem?_words_iff, feature?_generated_iff sound arcsEnd cellsEnd registered]
    constructor
    · rintro (⟨_, last⟩ | ⟨_, _, same, _⟩ | ⟨_, same, _⟩)
      · exact last
      · cases same
      · cases same
    · intro last
      exact .inl ⟨rfl, last⟩
  enum tile name value := by
    rw [TileSettings.getElem?_enums_iff, feature?_generated_iff sound arcsEnd cellsEnd registered]
    constructor
    · rintro (⟨_, last⟩ | ⟨_, _, same, _⟩ | ⟨_, same, _⟩)
      · exact last
      · cases same
      · cases same
    · intro last
      exact .inl ⟨rfl, last⟩
  raw tile bit := by
    rw [TileSettings.mem_raws_iff, feature?_generated_iff sound arcsEnd cellsEnd registered]
    constructor
    · rintro (⟨_, last⟩ | ⟨_, _, same, _⟩ | ⟨_, same, _, set⟩)
      · exact absurd rfl (last.slot_ne.2 bit)
      · cases same
      · cases same
        exact ⟨base, registered, set⟩
    · rintro ⟨_, found, set⟩
      rw [registered] at found
      cases found
      exact .inr (.inr ⟨bit, rfl, rfl, set⟩)
  tiles tile := by
    rw [baseDocument_applyAll]
    exact Document.mem_tiles_iff_of_sets rfl fun edit member =>
      exists_set_of_mem_edits sound arcsEnd cellsEnd registered member

end Contents

/-! ### The result -/

theorem isConfiguration_of_generate (sound : db.IsSound)
    (made : (generate db design).2 = .ok document) : IsConfiguration db design document := by
  obtain ⟨base, edits, registered, stages, rfl⟩ := generate_eq_ok_iff_exists.mp made
  obtain ⟨arcsEnd, cellsEnd, rfl⟩ := exists_makes_planDesign_iff.mp stages
  exact isConfiguration_applyAll sound arcsEnd cellsEnd registered

theorem exists_generate_iff_isEncodable (sound : db.IsSound) (designSound : design.IsSound db) :
    (∃ document, (generate db design).2 = .ok document) ↔ IsEncodable db design := by
  have stages := exists_makes_planDesign_iff_isEncodable sound designSound
  constructor
  · rintro ⟨document, made⟩
    obtain ⟨base, edits, registered, ended, _⟩ := generate_eq_ok_iff_exists.mp made
    obtain ⟨pips, cells⟩ := stages.mp ⟨edits, ended⟩
    exact ⟨Option.isSome_iff_exists.mpr ⟨base, registered⟩, pips, cells⟩
  · rintro ⟨supported, pips, cells⟩
    obtain ⟨base, registered⟩ := Option.isSome_iff_exists.mp supported
    obtain ⟨edits, ended⟩ := stages.mpr ⟨pips, cells⟩
    exact ⟨_, generate_eq_ok_iff_exists.mpr ⟨base, edits, registered, ended, rfl⟩⟩

/-- **Generation is exact.** For a database and a design that are loaded, a document is generated
just when all that is needed is there, and then it is the one configuration of the design. -/
theorem generate_iff_isEncodable_and_isConfiguration {description listing : String}
    (described : Database.load description = .ok db) (listed : Design.load db listing = .ok design) :
    ((∃ document, (generate db design).2 = .ok document) ↔ IsEncodable db design) ∧
      ∀ document, (generate db design).2 = .ok document ↔
        IsEncodable db design ∧ IsConfiguration db design document := by
  have sound := Database.isSound_of_load described
  have encodable := exists_generate_iff_isEncodable sound (Design.isSound_of_load listed)
  refine ⟨encodable, fun document => ⟨fun made => ?_, fun ⟨needed, contents⟩ => ?_⟩⟩
  · exact ⟨encodable.mp ⟨document, made⟩, isConfiguration_of_generate sound made⟩
  · obtain ⟨other, made⟩ := encodable.mpr needed
    rw [made, contents.unique (isConfiguration_of_generate sound made)]

theorem isConfiguration_routedSlice :
    ∃ db design document, Database.load twoRows.render = .ok db ∧
      Design.load db routedSlice.render = .ok design ∧
      (generate db design).2 = .ok document ∧
      IsEncodable db design ∧ IsConfiguration db design document ∧
      (document.settings "R2C1:PLC").arcs["A0"]? = some "S1_F0" := by
  have made : ((loadRendered twoRows routedSlice).bind fun (db, design) =>
      (generate db design).2.toOption.bind fun document =>
        (document.settings "R2C1:PLC").arcs["A0"]?) = some "S1_F0" := by decide +kernel
  obtain ⟨⟨db, design⟩, found, rest⟩ := Option.bind_eq_some_iff.mp made
  obtain ⟨document, ended, arc⟩ := Option.bind_eq_some_iff.mp rest
  obtain ⟨described, listed⟩ := load_of_loadRendered found
  have generated := eq_ok_of_toOption ended
  obtain ⟨_, one⟩ := generate_iff_isEncodable_and_isConfiguration described listed
  obtain ⟨needed, contents⟩ := (one document).mp generated
  exact ⟨db, design, document, described, listed, generated, needed, contents, arc⟩

end FabricConfig
