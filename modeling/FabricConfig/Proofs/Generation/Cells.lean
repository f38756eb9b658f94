import FabricConfig.Generation.Cells
import FabricConfig.Proofs.Design.Soundness
import FabricConfig.Proofs.Document.LastEdit
import FabricConfig.Proofs.Generation.Plan
import FabricConfig.Proofs.Generation.Setting
import Mathlib.Data.List.Nodup
/-!
# What cells give

The tile and the settings that a placed cell gives, stated by themselves for each kind, and that the
plan of a cell makes just these.

* `Encodes`: a cell's tile and settings, one rule for each encoder.
* `Encodes.exists_makes`, `encodes_of_makes_planCell`: the plan of a cell comes to its end when the
  cell gives something, and sets that.
* `Encodes.slots_nodup`: the settings of a cell have different slots.
-/

namespace FabricConfig

variable {db : Database} {design : Design} {cell : Cell} {bel : BelId} {edits : List Edit}

open Plan

/-! ### Settings -/

/-- The settings of a slice with a site of this name and index, and these tables. -/
def Slice.features (design : Design) (cell : Cell) (site : String) (index : Nat)
    (low high : Bits) : List Feature :=
  .word (site ++ ".K0.INIT") low :: .word (site ++ ".K1.INIT") high ::
    Slice.enums.map fun setting => .enum (setting.name.render site index)
      (design.textOr cell.parameters setting.key setting.default)

/-- The tile and the settings that a placed cell with an encoder gives. -/
inductive Encodes (db : Database) (design : Design) (cell : Cell) : String → List Feature → Prop
  | slice {bel : BelId} {tile site : String} {index low high : Nat} (placed : cell.bel = some bel)
      (kind : design.name cell.kind = .ok "FACADE_SLICE")
      (inTile : db.tileAt bel.location "PLC" = .ok tile) (named : db.belName bel = .ok site)
      (isSite : IsSite "SLICE" site index)
      (lowTable : design.Gives cell.parameters "LUT0_INITVAL" low) (lowFits : low < 2 ^ 16)
      (highTable : design.Gives cell.parameters "LUT1_INITVAL" high) (highFits : high < 2 ^ 16) :
      Encodes db design cell tile
        (Slice.features design cell site index (Bits.ofNat low 16) (Bits.ofNat high 16))
  | pad {bel : BelId} {tile site border : String} {index : Nat} (placed : cell.bel = some bel)
      (kind : design.name cell.kind = .ok "FACADE_IO") (named : db.belName bel = .ok site)
      (isSite : IsSite "PIO" site index) (atBorder : Pad.edgeKind? db bel.location = some border)
      (inTile : db.tileAt bel.location border = .ok tile) :
      Encodes db design cell tile
        [.enum (site ++ ".BASE_TYPE") (design.textOr cell.parameters "DIR" "INPUT" ++ "_" ++
          design.textOr cell.attributes "IO_TYPE" "LVCMOS33")]
  | oscillator {bel : BelId} {tile : String} (placed : cell.bel = some bel)
      (kind : design.name cell.kind = .ok "OSCH") (inTile : db.tileOfKind "CFG1" = .ok tile) :
      Encodes db design cell tile
        [.enum "OSCH.MODE" "OSCH",
          .enum "OSCH.NOM_FREQ" (design.textOr cell.parameters "NOM_FREQ" "2.08")]

/-- A slice that is placed on a site of this name and index, in this tile. -/
structure Cell.IsSliceAt (db : Database) (design : Design) (cell : Cell) (bel : BelId)
    (tile site : String) (index : Nat) : Prop where
  placed : cell.bel = some bel
  kind : design.name cell.kind = .ok "FACADE_SLICE"
  inTile : db.tileAt bel.location "PLC" = .ok tile
  named : db.belName bel = .ok site
  isSite : IsSite "SLICE" site index

/-- Whether a cell is placed and of a kind that has an encoder. -/
def Cell.IsHandled (design : Design) (cell : Cell) : Prop :=
  (∃ bel, cell.bel = some bel) ∧
    ∃ kind ∈ ["FACADE_SLICE", "FACADE_IO", "OSCH"], design.name cell.kind = .ok kind

theorem Slice.makes_planWord_iff {tile site : String} {word : String × String} {result : Unit} :
    (Slice.planWord design cell tile site word).Makes edits result ↔
      ∃ value, (design.Gives cell.parameters word.1 value ∧ value < 2 ^ 16) ∧
        edits = [.set tile (.word (site ++ word.2) (Bits.ofNat value 16))] := by
  unfold Slice.planWord
  rw [makes_ofResult_bind_iff]
  simp only [makes_edit_iff, Design.wordOrZero_eq_ok_iff, Slice.tableWidth]
  constructor
  · rintro ⟨bits, ⟨value, gives, fits, rfl⟩, rfl⟩
    exact ⟨value, ⟨gives, fits⟩, rfl⟩
  · rintro ⟨value, ⟨gives, fits⟩, rfl⟩
    exact ⟨_, ⟨value, gives, fits, rfl⟩, rfl⟩

/-- The words of both tables, and then another plan. -/
theorem Slice.makes_words_bind_iff {tile site : String} {next : List Unit → Plan Unit} :
    (Plan.all (Slice.words.map (Slice.planWord design cell tile site)) >>= next).Makes edits () ↔
      ∃ low high rest, (design.Gives cell.parameters "LUT0_INITVAL" low ∧ low < 2 ^ 16) ∧
        (design.Gives cell.parameters "LUT1_INITVAL" high ∧ high < 2 ^ 16) ∧
        (next [(), ()]).Makes rest () ∧
        edits = .set tile (.word (site ++ ".K0.INIT") (Bits.ofNat low 16)) ::
          .set tile (.word (site ++ ".K1.INIT") (Bits.ofNat high 16)) :: rest := by
  simp only [Slice.words, List.map_cons, List.map_nil, all_cons, all_nil, makes_bind_iff,
    makes_map_iff, makes_pure_iff, Slice.makes_planWord_iff]
  constructor
  · rintro ⟨_, _, rest, ⟨_, _, _, ⟨low, lowGives, rfl⟩, ⟨_, ⟨_, _, _, ⟨high, highGives, rfl⟩,
      ⟨_, ⟨rfl, rfl⟩, rfl⟩, rfl⟩, rfl⟩, rfl⟩, ended, rfl⟩
    exact ⟨low, high, rest, lowGives, highGives, ended, rfl⟩
  · rintro ⟨low, high, rest, lowGives, highGives, ended, rfl⟩
    exact ⟨_, _, rest, ⟨_, _, _, ⟨low, lowGives, rfl⟩, ⟨_, ⟨_, _, _, ⟨high, highGives, rfl⟩,
      ⟨_, ⟨rfl, rfl⟩, rfl⟩, rfl⟩, rfl⟩, rfl⟩, ended, rfl⟩

/-- **The plan of a slice** needs its tile, its site and both its tables, and makes its settings. -/
theorem Slice.makes_plan_iff :
    (Slice.encoder.plan db design cell bel).Makes edits () ↔
      ∃ tile site index low high, db.tileAt bel.location "PLC" = .ok tile ∧
        db.belName bel = .ok site ∧ IsSite "SLICE" site index ∧
        (design.Gives cell.parameters "LUT0_INITVAL" low ∧ low < 2 ^ 16) ∧
        (design.Gives cell.parameters "LUT1_INITVAL" high ∧ high < 2 ^ 16) ∧
        edits = .create tile :: (Slice.features design cell site index
          (Bits.ofNat low 16) (Bits.ofNat high 16)).map (.set tile) := by
  have listed (tile site : String) (index : Nat) (low high : Bits) :
      (Slice.features design cell site index low high).map (Edit.set tile) =
        .set tile (.word (site ++ ".K0.INIT") low) :: .set tile (.word (site ++ ".K1.INIT") high) ::
          (Slice.enums.map (Slice.enumEdit design cell tile site index) ++ []) := by
    rw [List.append_nil, Slice.features, List.map_cons, List.map_cons, List.map_map]
    rfl
  simp only [Slice.encoder, makes_ofTile_bind_iff, makes_ofLookup_bind_iff, makes_ofResult_bind_iff,
    makes_edit_bind_iff, siteIndex_eq_ok_iff, Slice.makes_words_bind_iff, makes_all_edit_bind_iff,
    makes_pure_iff, listed]
  constructor
  · rintro ⟨tile, inTile, site, named, index, isSite, _, ⟨low, high, _, lowGives, highGives,
      ⟨_, ⟨rfl, _⟩, rfl⟩, rfl⟩, rfl⟩
    exact ⟨tile, site, index, low, high, inTile, named, isSite, lowGives, highGives, rfl⟩
  · rintro ⟨tile, site, index, low, high, inTile, named, isSite, lowGives, highGives, rfl⟩
    exact ⟨tile, inTile, site, named, index, isSite, _, ⟨low, high, _, lowGives, highGives,
      ⟨[], ⟨rfl, trivial⟩, rfl⟩, rfl⟩, rfl⟩

theorem Pad.edgeKind_eq_ok_iff {site border : String} {location : Location} :
    Pad.edgeKind db site location = .ok border ↔ Pad.edgeKind? db location = some border := by
  unfold Pad.edgeKind
  cases Pad.edgeKind? db location with
  | none => exact iff_of_false nofun nofun
  | some kind => rw [Except.ok.injEq, Option.some.injEq]

theorem Pad.edgeKind_eq_error {site : String} {location : Location} {error : GenerationError}
    (failed : Pad.edgeKind db site location = .error error) : error = .notOnEdge site location := by
  unfold Pad.edgeKind at failed
  split at failed
  · cases failed
  · exact (Except.error.inj failed).symm

/-- **The plan of a pad** needs its site at the border and the tile there. -/
theorem Pad.makes_plan_iff :
    (Pad.encoder.plan db design cell bel).Makes edits () ↔
      ∃ tile site index border, db.belName bel = .ok site ∧ IsSite "PIO" site index ∧
        Pad.edgeKind? db bel.location = some border ∧ db.tileAt bel.location border = .ok tile ∧
        edits = [.set tile (.enum (site ++ ".BASE_TYPE")
          (design.textOr cell.parameters "DIR" "INPUT" ++ "_" ++
            design.textOr cell.attributes "IO_TYPE" "LVCMOS33"))] := by
  simp only [Pad.encoder, makes_ofTile_bind_iff, makes_ofLookup_bind_iff, makes_ofResult_bind_iff,
    makes_edit_iff, siteIndex_eq_ok_iff, Pad.edgeKind_eq_ok_iff]
  constructor
  · rintro ⟨site, named, index, isSite, border, atBorder, tile, inTile, rfl⟩
    exact ⟨tile, site, index, border, named, isSite, atBorder, inTile, rfl⟩
  · rintro ⟨tile, site, index, border, named, isSite, atBorder, inTile, rfl⟩
    exact ⟨site, named, index, isSite, border, atBorder, tile, inTile, rfl⟩

/-- **The plan of the oscillator** needs only a tile for it. -/
theorem Oscillator.makes_plan_iff :
    (Oscillator.encoder.plan db design cell bel).Makes edits () ↔
      ∃ tile, db.tileOfKind "CFG1" = .ok tile ∧
        edits = [.set tile (.enum "OSCH.MODE" "OSCH"), .set tile (.enum "OSCH.NOM_FREQ"
          (design.textOr cell.parameters "NOM_FREQ" "2.08"))] := by
  simp only [Oscillator.encoder, makes_ofTile_bind_iff, makes_edit_bind_iff, makes_edit_iff]
  constructor
  · rintro ⟨tile, inTile, _, rfl, rfl⟩
    exact ⟨tile, inTile, rfl⟩
  · rintro ⟨tile, inTile, rfl⟩
    exact ⟨tile, inTile, _, rfl, rfl⟩

/-! ### Cells -/

/-- Edits that set these features in a tile, which they may create first. -/
def SetsAll (tile : String) (features : List Feature) (edits : List Edit) : Prop :=
  edits = features.map (.set tile) ∨ edits = .create tile :: features.map (.set tile)

theorem mem_map_set_iff {tile other : String} {features : List Feature} {feature : Feature} :
    .set other feature ∈ features.map (Edit.set tile) ↔ other = tile ∧ feature ∈ features := by
  rw [List.mem_map]
  constructor
  · rintro ⟨inside, member, same⟩
    cases same
    exact ⟨rfl, member⟩
  · rintro ⟨rfl, member⟩
    exact ⟨feature, member, rfl⟩

theorem SetsAll.set_mem_iff {tile other : String} {features : List Feature} {feature : Feature}
    (sets : SetsAll tile features edits) :
    .set other feature ∈ edits ↔ other = tile ∧ feature ∈ features := by
  rcases sets with rfl | rfl
  · exact mem_map_set_iff
  · rw [List.mem_cons, or_iff_right nofun, mem_map_set_iff]

theorem SetsAll.tile_eq {tile : String} {features : List Feature} {edit : Edit}
    (sets : SetsAll tile features edits) (member : edit ∈ edits) : edit.tile = tile := by
  cases edit with
  | set other feature => exact (sets.set_mem_iff.mp member).1
  | create other =>
    rcases sets with rfl | rfl
    · obtain ⟨_, _, same⟩ := List.mem_map.mp member
      cases same
    · rcases List.mem_cons.mp member with same | set
      · cases same
        rfl
      · obtain ⟨_, _, same⟩ := List.mem_map.mp set
        cases same

/-- A lot of features of different slots sets no two features of one slot. -/
theorem SetsAll.setsOnce {tile : String} {features : List Feature}
    (sets : SetsAll tile features edits) (different : (features.map Feature.slot).Nodup) :
    SetsOnce edits := by
  intro other first second firstIn secondIn same
  obtain ⟨_, firstGiven⟩ := sets.set_mem_iff.mp firstIn
  obtain ⟨_, secondGiven⟩ := sets.set_mem_iff.mp secondIn
  exact List.inj_on_of_nodup_map different firstGiven secondGiven same

/-- **A document is changed by just the features** that are set, if their slots are different. -/
theorem SetsAll.putsOnly {tile : String} {features : List Feature}
    (sets : SetsAll tile features edits) (nonempty : features ≠ [])
    (different : (features.map Feature.slot).Nodup) (document : Document) :
    document.PutsOnly tile features (document.applyAll edits) := by
  refine Document.putsOnly_applyAll (sets.setsOnce different) (fun _ _ => sets.set_mem_iff)
    (fun other => ⟨?_, ?_⟩) document
  · rintro ⟨edit, member, rfl⟩
    exact sets.tile_eq member
  · rintro rfl
    obtain ⟨feature, given⟩ := List.exists_mem_of_ne_nil _ nonempty
    exact ⟨.set other feature, sets.set_mem_iff.mpr ⟨rfl, given⟩, rfl⟩

theorem Encoder.forKind?_eq (kind : String) :
    Encoder.forKind? kind =
      if kind = "FACADE_SLICE" then some Slice.encoder
      else if kind = "FACADE_IO" then some Pad.encoder
      else if kind = "OSCH" then some Oscillator.encoder
      else none := by
  have tested (encoder : Encoder) (encoders : List Encoder) :
      (encoder :: encoders).find? (·.kind == kind) =
        if kind = encoder.kind then some encoder else encoders.find? (·.kind == kind) := by
    rw [List.find?_cons]
    by_cases same : kind = encoder.kind
    · rw [if_pos same, same, beq_self_eq_true]
    · rw [if_neg same, beq_eq_false_iff_ne.mpr (Ne.symm same)]
  rw [Encoder.forKind?, Encoder.registered, tested, tested, tested]
  rfl

theorem makes_planCell_of_bel (placed : cell.bel = some bel) {fate : CellFate} :
    (planCell db design cell).Makes edits fate ↔ ∃ kind, design.name cell.kind = .ok kind ∧
      match Encoder.forKind? kind with
      | some encoder => (encoder.plan db design cell bel).Makes edits () ∧ fate = .encoded
      | none => edits = [] ∧ fate = .unhandled kind := by
  unfold planCell
  rw [placed]
  dsimp only
  rw [makes_ofLookup_bind_iff]
  refine exists_congr fun kind => and_congr_right fun _ => ?_
  cases Encoder.forKind? kind with
  | none => exact makes_pure_iff
  | some encoder =>
    dsimp only
    rw [makes_bind_iff]
    constructor
    · rintro ⟨_, front, rest, made, ended, rfl⟩
      obtain ⟨rfl, rfl⟩ := makes_pure_iff.mp ended
      rw [List.append_nil]
      exact ⟨made, rfl⟩
    · rintro ⟨made, rfl⟩
      exact ⟨(), edits, [], made, makes_pure_iff.mpr ⟨rfl, rfl⟩, (List.append_nil edits).symm⟩

/-- **What a cell gives is what its plan sets.** -/
theorem Encodes.exists_makes {tile : String} {features : List Feature}
    (encodes : Encodes db design cell tile features) :
    ∃ edits, (planCell db design cell).Makes edits .encoded ∧ SetsAll tile features edits := by
  cases encodes with
  | slice placed kind inTile named isSite lowTable lowFits highTable highFits =>
    refine ⟨_, (makes_planCell_of_bel placed).mpr ⟨_, kind, ?_⟩, .inr rfl⟩
    rw [Encoder.forKind?_eq, if_pos rfl]
    exact ⟨Slice.makes_plan_iff.mpr ⟨_, _, _, _, _, inTile, named, isSite, ⟨lowTable, lowFits⟩,
      ⟨highTable, highFits⟩, rfl⟩, rfl⟩
  | pad placed kind named isSite atBorder inTile =>
    refine ⟨_, (makes_planCell_of_bel placed).mpr ⟨_, kind, ?_⟩, .inl rfl⟩
    rw [Encoder.forKind?_eq, if_neg (by decide), if_pos rfl]
    exact ⟨Pad.makes_plan_iff.mpr ⟨_, _, _, _, named, isSite, atBorder, inTile, rfl⟩, rfl⟩
  | oscillator placed kind inTile =>
    refine ⟨_, (makes_planCell_of_bel placed).mpr ⟨_, kind, ?_⟩, .inl rfl⟩
    rw [Encoder.forKind?_eq, if_neg (by decide), if_neg (by decide), if_pos rfl]
    exact ⟨Oscillator.makes_plan_iff.mpr ⟨_, inTile, rfl⟩, rfl⟩

/-- **The plan of a cell sets what the cell gives**, or nothing if no encoder handles the cell. -/
theorem encodes_of_makes_planCell {fate : CellFate}
    (made : (planCell db design cell).Makes edits fate) :
    (¬cell.IsHandled design ∧ edits = []) ∨
      ∃ tile features, Encodes db design cell tile features ∧ SetsAll tile features edits := by
  cases placed : cell.bel with
  | none =>
    left
    refine ⟨fun handled => ?_, ?_⟩
    · obtain ⟨bel, found⟩ := handled.1
      rw [placed] at found
      cases found
    · unfold planCell at made
      rw [placed] at made
      dsimp only at made
      obtain ⟨_, _, rest⟩ := makes_ofLookup_bind_iff.mp made
      obtain ⟨_, front, last, reported, ended, rfl⟩ := makes_bind_iff.mp rest
      rw [makes_report_iff.mp reported, (makes_pure_iff.mp ended).1, List.append_nil]
  | some bel =>
    obtain ⟨kind, kindNamed, made⟩ := (makes_planCell_of_bel placed).mp made
    rw [Encoder.forKind?_eq] at made
    by_cases slice : kind = "FACADE_SLICE"
    · subst slice
      rw [if_pos rfl] at made
      obtain ⟨tile, site, index, low, high, inTile, named, isSite, lowGives, highGives, rfl⟩ :=
        Slice.makes_plan_iff.mp made.1
      exact .inr ⟨tile, _, .slice placed kindNamed inTile named isSite lowGives.1 lowGives.2
        highGives.1 highGives.2, .inr rfl⟩
    rw [if_neg slice] at made
    by_cases pad : kind = "FACADE_IO"
    · subst pad
      rw [if_pos rfl] at made
      obtain ⟨tile, site, index, border, named, isSite, atBorder, inTile, rfl⟩ :=
        Pad.makes_plan_iff.mp made.1
      exact .inr ⟨tile, _, .pad placed kindNamed named isSite atBorder inTile, .inl rfl⟩
    rw [if_neg pad] at made
    by_cases oscillator : kind = "OSCH"
    · subst oscillator
      rw [if_pos rfl] at made
      obtain ⟨tile, inTile, rfl⟩ := Oscillator.makes_plan_iff.mp made.1
      exact .inr ⟨tile, _, .oscillator placed kindNamed inTile, .inl rfl⟩
    · rw [if_neg oscillator] at made
      refine .inl ⟨fun handled => ?_, made.1⟩
      obtain ⟨_, other, listed, same⟩ := handled
      rw [kindNamed] at same
      cases same
      simp [slice, pad, oscillator] at listed

/-- A cell that no encoder handles has a plan that sets nothing. -/
theorem exists_makes_of_not_isHandled (sound : cell.IsSound db design.names)
    (idle : ¬cell.IsHandled design) : ∃ fate, (planCell db design cell).Makes [] fate := by
  obtain ⟨kind, found⟩ := sound.kind
  obtain ⟨name, called⟩ := sound.name
  have kindNamed : design.name cell.kind = .ok kind := by rw [Design.name, found]
  have cellNamed : design.name cell.name = .ok name := by rw [Design.name, called]
  cases placed : cell.bel with
  | none =>
    refine ⟨.unplaced, ?_⟩
    unfold planCell
    rw [placed]
    exact makes_ofLookup_bind_iff.mpr ⟨name, cellNamed, makes_bind_iff.mpr
      ⟨(), [], [], makes_report_iff.mpr rfl, makes_pure_iff.mpr ⟨rfl, rfl⟩, rfl⟩⟩
  | some bel =>
    refine ⟨.unhandled kind, (makes_planCell_of_bel placed).mpr ⟨kind, kindNamed, ?_⟩⟩
    have unlisted : kind ∉ ["FACADE_SLICE", "FACADE_IO", "OSCH"] := fun listed =>
      idle ⟨⟨bel, placed⟩, kind, listed, kindNamed⟩
    simp only [List.mem_cons, List.not_mem_nil, or_false, not_or] at unlisted
    rw [Encoder.forKind?_eq, if_neg unlisted.1, if_neg unlisted.2.1, if_neg unlisted.2.2]
    exact ⟨rfl, rfl⟩

theorem exists_makes_planCell_iff (sound : cell.IsSound db design.names) :
    (∃ edits fate, (planCell db design cell).Makes edits fate) ↔
      (cell.IsHandled design → ∃ tile features, Encodes db design cell tile features) := by
  constructor
  · rintro ⟨edits, fate, made⟩ handled
    rcases encodes_of_makes_planCell made with ⟨idle, _⟩ | ⟨tile, features, encodes, _⟩
    · exact absurd handled idle
    · exact ⟨tile, features, encodes⟩
  · intro gives
    by_cases handled : cell.IsHandled design
    · obtain ⟨tile, features, encodes⟩ := gives handled
      obtain ⟨edits, made, _⟩ := encodes.exists_makes
      exact ⟨edits, .encoded, made⟩
    · obtain ⟨fate, made⟩ := exists_makes_of_not_isHandled sound handled
      exact ⟨[], fate, made⟩

/-- What the plan of a cell sets is what the cell gives. -/
theorem set_mem_planCell_iff {fate : CellFate} (made : (planCell db design cell).Makes edits fate)
    {tile : String} {feature : Feature} :
    .set tile feature ∈ edits ↔
      ∃ features, Encodes db design cell tile features ∧ feature ∈ features := by
  constructor
  · intro member
    rcases encodes_of_makes_planCell made with ⟨_, rfl⟩ | ⟨other, features, encodes, sets⟩
    · exact absurd member List.not_mem_nil
    · obtain ⟨rfl, inside⟩ := sets.set_mem_iff.mp member
      exact ⟨features, encodes, inside⟩
  · rintro ⟨features, encodes, inside⟩
    obtain ⟨others, same, sets⟩ := encodes.exists_makes
    rw [← made.edits, same.edits]
    exact sets.set_mem_iff.mpr ⟨rfl, inside⟩

/-! ### Slots of a cell -/

/-- What names of settings shared by a tile start with. -/
def Slice.FeatureName.IsKnown : Slice.FeatureName → Prop
  | .ofSite _ => True
  | .ofGroup group _ => group = "LSR" ∨ group = "CLK"

instance : DecidablePred Slice.FeatureName.IsKnown := fun name => by
  cases name <;> unfold Slice.FeatureName.IsKnown <;> infer_instance

namespace Slice.FeatureName

variable {name other : FeatureName} {site otherSite : String} {index place : Nat}

/-- What the name of a setting starts with: the lead of all sites of slices, or the group. -/
def initial? : FeatureName → Option Char
  | .ofSite _ => some 'S'
  | .ofGroup group _ => group.toList.head?

theorem head?_render (isSite : IsSite "SLICE" site index) (known : name.IsKnown) :
    (name.render site index).toList.head? = name.initial? := by
  cases name with
  | ofSite suffix =>
    obtain ⟨letter, rest, starts, _⟩ := isSite
    rw [render, String.toList_append, starts]
    rfl
  | ofGroup group suffix =>
    rw [render, String.toList_append, String.toList_append]
    rcases known with rfl | rfl
    · rfl
    · rfl

/-- **Equal names are formed alike**: both of their sites, or both of one group. -/
theorem alike_of_render_eq (isSite : IsSite "SLICE" site index)
    (otherIsSite : IsSite "SLICE" otherSite place) (known : name.IsKnown)
    (otherKnown : other.IsKnown) (same : name.render site index = other.render otherSite place) :
    (∃ own theirs, name = .ofSite own ∧ other = .ofSite theirs) ∨
      ∃ group own theirs, (group = "LSR" ∨ group = "CLK") ∧
        name = .ofGroup group own ∧ other = .ofGroup group theirs := by
  have initials : name.initial? = other.initial? := by
    rw [← head?_render isSite known, same, head?_render otherIsSite otherKnown]
  cases name with
  | ofSite own =>
    cases other with
    | ofSite theirs => exact .inl ⟨own, theirs, rfl, rfl⟩
    | ofGroup group theirs =>
      rcases otherKnown with rfl | rfl
      · exact absurd (show some 'S' = some 'L' from initials) (by decide)
      · exact absurd (show some 'S' = some 'C' from initials) (by decide)
  | ofGroup group own =>
    cases other with
    | ofSite theirs =>
      rcases known with rfl | rfl
      · exact absurd (show some 'L' = some 'S' from initials) (by decide)
      · exact absurd (show some 'C' = some 'S' from initials) (by decide)
    | ofGroup otherGroup theirs =>
      refine .inr ⟨group, own, theirs, known, rfl, ?_⟩
      rcases known with rfl | rfl <;> rcases otherKnown with rfl | rfl
      · rfl
      · exact absurd (show some 'L' = some 'C' from initials) (by decide)
      · exact absurd (show some 'C' = some 'L' from initials) (by decide)
      · rfl

/-- Settings of one site are told apart by their names. -/
theorem eq_of_render_eq (isSite : IsSite "SLICE" site index) (known : name.IsKnown)
    (otherKnown : other.IsKnown) (same : name.render site index = other.render site index) :
    name = other := by
  rcases alike_of_render_eq isSite isSite known otherKnown same with
    ⟨own, theirs, rfl, rfl⟩ | ⟨group, own, theirs, _, rfl, rfl⟩
  · rw [(String.append_right_inj site).mp same]
  · rw [(String.append_right_inj _).mp same]

end Slice.FeatureName

/-- The settings of a slice have different slots. -/
theorem Slice.slots_nodup {site : String} {index : Nat} (isSite : IsSite "SLICE" site index)
    (low high : Bits) :
    ((Slice.features design cell site index low high).map Feature.slot).Nodup := by
  have known : ∀ setting ∈ Slice.enums, setting.name.IsKnown := by decide
  have different : Slice.enums.Pairwise fun first second => first.name ≠ second.name := by decide
  have tables : site ++ ".K0.INIT" ≠ site ++ ".K1.INIT" := fun same =>
    absurd ((String.append_right_inj site).mp same) (by decide)
  rw [Slice.features, List.map_cons, List.map_cons, List.map_map, List.nodup_cons, List.nodup_cons]
  refine ⟨fun member => ?_, fun member => ?_, ?_⟩
  · rcases List.mem_cons.mp member with same | member
    · exact tables (Slot.word.inj same)
    · obtain ⟨_, _, same⟩ := List.mem_map.mp member
      cases same
  · obtain ⟨_, _, same⟩ := List.mem_map.mp member
    cases same
  · rw [List.Nodup, List.pairwise_map]
    refine different.imp_of_mem fun firstIn secondIn apart same => apart ?_
    exact Slice.FeatureName.eq_of_render_eq isSite (known _ firstIn) (known _ secondIn)
      (Slot.enum.inj same)

/-- **The settings of a cell have different slots.** -/
theorem Encodes.slots_nodup {tile : String} {features : List Feature}
    (encodes : Encodes db design cell tile features) : (features.map Feature.slot).Nodup := by
  cases encodes with
  | slice placed kind inTile named isSite lowTable lowFits highTable highFits =>
    exact Slice.slots_nodup isSite _ _
  | pad placed kind named isSite atBorder inTile => exact List.nodup_singleton _
  | oscillator placed kind inTile =>
    refine List.nodup_cons.mpr ⟨fun member => ?_, List.nodup_singleton _⟩
    exact absurd (Slot.enum.inj (List.mem_singleton.mp member)) (by decide)

/-- A cell gives words and enumerated settings only, and some. -/
theorem Encodes.isSetting {tile : String} {features : List Feature}
    (encodes : Encodes db design cell tile features) :
    features ≠ [] ∧ ∀ feature ∈ features,
      (∃ name bits, feature = .word name bits) ∨ ∃ name value, feature = .enum name value := by
  cases encodes with
  | slice placed kind inTile named isSite lowTable lowFits highTable highFits =>
    refine ⟨List.cons_ne_nil _ _, fun feature member => ?_⟩
    rcases List.mem_cons.mp member with rfl | member
    · exact .inl ⟨_, _, rfl⟩
    rcases List.mem_cons.mp member with rfl | member
    · exact .inl ⟨_, _, rfl⟩
    · obtain ⟨setting, _, rfl⟩ := List.mem_map.mp member
      exact .inr ⟨_, _, rfl⟩
  | pad placed kind named isSite atBorder inTile =>
    refine ⟨List.cons_ne_nil _ _, fun feature member => ?_⟩
    rw [List.mem_singleton.mp member]
    exact .inr ⟨_, _, rfl⟩
  | oscillator placed kind inTile =>
    refine ⟨List.cons_ne_nil _ _, fun feature member => ?_⟩
    rcases List.mem_cons.mp member with rfl | member
    · exact .inr ⟨_, _, rfl⟩
    · rw [List.mem_singleton.mp member]
      exact .inr ⟨_, _, rfl⟩

end FabricConfig
