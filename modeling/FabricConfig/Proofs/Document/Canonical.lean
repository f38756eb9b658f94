import FabricConfig.Proofs.Document.LastEdit
import FabricConfig.Proofs.Document.Writable
import FabricConfig.Proofs.Maps
/-!
# One text for one content

A document is written in one order, whatever the order in which it was made. What is written is a
listing of what the edits put into each slot last; there is one such listing, so edits that put the
same into all slots in the end lead to the same text.

* `Slot.Precedes`: the order of a tile's features.
* `TileSettings.pairwise_features`: features are written in this order.
* `IsListing`: the tiles with features and what was set in them last, in order.
* `IsListing.unique`, `isListing_listed`: there is one listing, and it is what is written.
* `toText_applyAll_canonical`: the text of all edits.
-/

namespace FabricConfig

/-! ### The order of features -/

namespace Slot

variable {first second : Slot}

/-- The place of a slot's kind among the kinds. -/
def rank : Slot → Nat
  | .arc _ => 0
  | .word _ => 1
  | .enum _ => 2
  | .raw _ => 3

/-- The order of slots: arcs, words, enumerated settings and raw bits. Names are ordered by code
points, raw bits by frame and then by bit. -/
inductive Precedes : Slot → Slot → Prop
  | kind {first second : Slot} (less : first.rank < second.rank) : Precedes first second
  | arc {sink later : String} (less : sink < later) : Precedes (.arc sink) (.arc later)
  | word {name later : String} (less : name < later) : Precedes (.word name) (.word later)
  | enum {name later : String} (less : name < later) : Precedes (.enum name) (.enum later)
  | frame {bit later : RawBit} (less : bit.frame < later.frame) : Precedes (.raw bit) (.raw later)
  | bit {bit later : RawBit} (same : bit.frame = later.frame) (less : bit.bit < later.bit) :
      Precedes (.raw bit) (.raw later)

theorem Precedes.asymm (before : first.Precedes second) : ¬second.Precedes first := by
  intro after
  cases before with
  | kind less =>
    cases after with
    | kind more => exact Nat.lt_asymm less more
    | _ => exact Nat.lt_irrefl _ less
  | arc less =>
    cases after with
    | kind more => exact Nat.lt_irrefl _ more
    | arc more => exact String.lt_asymm less more
  | word less =>
    cases after with
    | kind more => exact Nat.lt_irrefl _ more
    | word more => exact String.lt_asymm less more
  | enum less =>
    cases after with
    | kind more => exact Nat.lt_irrefl _ more
    | enum more => exact String.lt_asymm less more
  | frame less =>
    cases after with
    | kind more => exact Nat.lt_irrefl _ more
    | frame more => exact UInt32.lt_asymm less more
    | bit same _ => exact UInt32.lt_irrefl _ (same ▸ less)
  | bit same less =>
    cases after with
    | kind more => exact Nat.lt_irrefl _ more
    | frame more => exact UInt32.lt_irrefl _ (same ▸ more)
    | bit _ more => exact UInt32.lt_asymm less more

end Slot

/-- The order of features is that of their slots. -/
def Feature.Precedes (first second : Feature) : Prop := first.slot.Precedes second.slot

theorem RawBit.compare_eq_lt_iff {first second : RawBit} :
    compare first second = .lt ↔
      first.frame < second.frame ∨ first.frame = second.frame ∧ first.bit < second.bit := by
  show (compare first.frame second.frame).then (compare first.bit second.bit) = .lt ↔ _
  rw [Ordering.then_eq_lt, Std.compare_eq_lt, Std.compare_eq_lt,
    Std.LawfulEqOrd.compare_eq_iff_eq]

/-- Groups of features of one kind each are in order if they are one by one, the kinds ascending. -/
theorem pairwise_append_of_rank {first second : List Feature} (rank : Nat)
    (below : ∀ feature ∈ first, feature.slot.rank < rank)
    (above : ∀ feature ∈ second, feature.slot.rank = rank) (ordered : first.Pairwise Feature.Precedes)
    (otherOrdered : second.Pairwise Feature.Precedes) :
    (first ++ second).Pairwise Feature.Precedes :=
  List.pairwise_append.mpr ⟨ordered, otherOrdered, fun feature here other there =>
    .kind (above other there ▸ below feature here)⟩

/-- **Features are written in strictly ascending order**, so no slot is written twice. -/
theorem TileSettings.pairwise_features (settings : TileSettings) :
    settings.features.Pairwise Feature.Precedes := by
  rw [features]
  refine pairwise_append_of_rank 3 ?_ ?_ (pairwise_append_of_rank 2 ?_ ?_
    (pairwise_append_of_rank 1 ?_ ?_ ?arcs ?words) ?enums) ?raws
  case arcs => exact List.pairwise_map.mpr ((ascending_toList settings.arcs).imp .arc)
  case words => exact List.pairwise_map.mpr ((ascending_toList settings.words).imp .word)
  case enums => exact List.pairwise_map.mpr ((ascending_toList settings.enums).imp .enum)
  case raws =>
    refine List.pairwise_map.mpr (Std.ExtTreeSet.ordered_toList.imp fun less => ?_)
    rcases RawBit.compare_eq_lt_iff.mp less with frame | ⟨same, bit⟩
    · exact .frame frame
    · exact .bit same bit
  all_goals
    simp only [List.forall_mem_append, List.forall_mem_map]
    simp [Feature.slot, Slot.rank]

/-! ### Listings -/

/-- The feature that edits set last in a slot of a tile. -/
def lastFeature? (edits : List Edit) (tile : String) (slot : Slot) : Option Feature :=
  (edits.filterMap (·.feature? tile slot)).getLast?

/-- The slot that an edit fills, if any. -/
def Edit.slot? : Edit → Option Slot
  | .create _ => none
  | .set _ feature => some feature.slot

/-- A listing of what edits have set last, tile by tile. -/
structure IsListing (edits : List Edit) (blocks : List (String × List Feature)) : Prop where
  /-- Tiles are in strictly ascending order of their names, so none is listed twice. -/
  ascending : blocks.Pairwise fun first second => first.1 < second.1
  /-- They are the tiles in which some feature is set. -/
  tiles : ∀ tile, (∃ features, (tile, features) ∈ blocks) ↔ ∃ feature, .set tile feature ∈ edits
  /-- Their features are in strictly ascending order, so no slot is listed twice. -/
  ordered : ∀ tile features, (tile, features) ∈ blocks → features.Pairwise Feature.Precedes
  /-- Each slot is listed with what was set there last. -/
  last : ∀ tile features, (tile, features) ∈ blocks → ∀ feature,
    feature ∈ features ↔ lastFeature? edits tile feature.slot = some feature

section Listings

variable {edits others : List Edit} {blocks : List (String × List Feature)}

/-- A tile has a feature in the end if one was set in it at all. -/
theorem exists_set_iff {tile : String} :
    (∃ feature, .set tile feature ∈ edits) ↔
      ∃ slot feature, lastFeature? edits tile slot = some feature := by
  constructor
  · rintro ⟨feature, set⟩
    refine ⟨feature.slot, ?_⟩
    cases last : lastFeature? edits tile feature.slot with
    | none =>
      have unset := filterMap_feature?_eq_nil_iff.mp (List.getLast?_eq_none_iff.mp last)
      exact absurd rfl (unset feature set)
    | some other => exact ⟨other, rfl⟩
  · rintro ⟨slot, feature, last⟩
    exact ⟨feature, (mem_filterMap_feature?_iff.mp (List.mem_of_getLast? last)).1⟩

/-- Whether edits set the same features last shows in the slots that they fill. -/
theorem lastFeature?_congr
    (same : ∀ edit ∈ others ++ edits, ∀ slot ∈ edit.slot?,
      lastFeature? others edit.tile slot = lastFeature? edits edit.tile slot)
    (tile : String) (slot : Slot) : lastFeature? others tile slot = lastFeature? edits tile slot := by
  by_cases filled : ∃ feature, .set tile feature ∈ others ++ edits ∧ feature.slot = slot
  · obtain ⟨feature, set, rfl⟩ := filled
    exact same _ set feature.slot rfl
  · have unset (some : List Edit) (part : some ⊆ others ++ edits) :
        lastFeature? some tile slot = none :=
      List.getLast?_eq_none_iff.mpr (filterMap_feature?_eq_nil_iff.mpr fun feature set own =>
        filled ⟨feature, part set, own⟩)
    rw [unset others (List.subset_append_left _ _), unset edits (List.subset_append_right _ _)]

/-- A listing of edits is one of all edits that set the same features last. -/
theorem IsListing.congr (listing : IsListing edits blocks)
    (same : ∀ tile slot, lastFeature? others tile slot = lastFeature? edits tile slot) :
    IsListing others blocks where
  ascending := listing.ascending
  tiles tile := by
    rw [listing.tiles, exists_set_iff, exists_set_iff]
    simp only [same]
  ordered := listing.ordered
  last tile features member feature := by rw [listing.last tile features member, same]

/-- What one listing has, every other one has, too. -/
theorem IsListing.subset {more : List (String × List Feature)} (listing : IsListing edits blocks)
    (other : IsListing edits more) : blocks ⊆ more := by
  rintro ⟨tile, features⟩ member
  obtain ⟨given, there⟩ := (other.tiles tile).mpr ((listing.tiles tile).mp ⟨features, member⟩)
  have same : features = given :=
    eq_of_mem_iff_of_pairwise (fun _ _ before => before.asymm)
      (listing.ordered tile features member) (other.ordered tile given there) fun feature =>
        (listing.last tile features member feature).trans
          (other.last tile given there feature).symm
  rw [same]
  exact there

/-- **There is only one listing.** -/
theorem IsListing.unique {more : List (String × List Feature)} (listing : IsListing edits blocks)
    (other : IsListing edits more) : blocks = more :=
  eq_of_mem_iff_of_pairwise (fun _ _ before => String.lt_asymm before) listing.ascending
    other.ascending fun _ => ⟨fun here => listing.subset other here,
      fun there => other.subset listing there⟩

end Listings

/-! ### The text of edits -/

namespace Document

variable {edits : List Edit}

/-- A document without tiles. -/
def untiled (deviceName : String) (metadata : List String) : Document := ⟨deviceName, metadata, ∅⟩

/-- The lines of one tile and its features. -/
def blockLines (block : String × List Feature) : List (List Char) :=
  (".tile ".toList ++ block.1.toList) :: block.2.map Feature.line ++ [[]]

/-- What is written for the tiles of a document. -/
def listed (document : Document) : List (String × List Feature) :=
  document.settledTiles.map fun entry => (entry.1, entry.2.features)

theorem lines_eq_listed (document : Document) :
    document.lines = document.headLines ++ document.listed.flatMap blockLines := by
  rw [lines, listed, List.flatMap_map]
  rfl

theorem feature?_untiled (deviceName : String) (metadata : List String) (tile : String)
    (slot : Slot) :
    (((untiled deviceName metadata).applyAll edits).settings tile).feature? slot =
      lastFeature? edits tile slot := by
  rw [feature?_applyAll, lastFeature?, settings, untiled, Std.ExtTreeMap.getElem?_empty,
    Option.getD_none, TileSettings.feature?_empty, Option.or_none]

/-- A tile is written if it has some feature. -/
theorem exists_mem_listed_iff {document : Document} {tile : String} :
    (∃ features, (tile, features) ∈ document.listed) ↔
      ∃ slot feature, (document.settings tile).feature? slot = some feature := by
  constructor
  · rintro ⟨_, member⟩
    obtain ⟨⟨_, given⟩, inside, same⟩ := List.mem_map.mp member
    cases same
    obtain ⟨rfl, filled⟩ := settings_of_mem_settledTiles inside
    rw [← Bool.not_eq_true, TileSettings.isEmpty_iff, not_forall] at filled
    exact filled.imp fun slot some => Option.ne_none_iff_exists'.mp some
  · rintro ⟨slot, feature, found⟩
    refine ⟨(document.settings tile).features, List.mem_map.mpr ⟨(tile, document.settings tile),
      mem_settledTiles_iff.mpr ⟨?_, ?_⟩, rfl⟩⟩
    · cases held : document.tiles[tile]? with
      | none =>
        rw [settings, held, Option.getD_none, TileSettings.feature?_empty] at found
        cases found
      | some given => rw [settings, held, Option.getD_some]
    · refine Bool.eq_false_iff.mpr fun empty => ?_
      rw [TileSettings.isEmpty_iff.mp empty slot] at found
      cases found

/-- **What is written is a listing of the edits.** -/
theorem isListing_listed (deviceName : String) (metadata : List String) (edits : List Edit) :
    IsListing edits ((untiled deviceName metadata).applyAll edits).listed where
  ascending := by
    rw [listed, settledTiles_eq]
    exact List.pairwise_map.mpr (ascending_toList _)
  tiles tile := by
    rw [exists_mem_listed_iff, exists_set_iff]
    simp only [feature?_untiled]
  ordered tile features member := by
    obtain ⟨⟨_, settings⟩, _, same⟩ := List.mem_map.mp member
    cases same
    exact settings.pairwise_features
  last tile features member feature := by
    obtain ⟨⟨_, settings⟩, inside, same⟩ := List.mem_map.mp member
    cases same
    rw [TileSettings.mem_features_iff, ← (settings_of_mem_settledTiles inside).1, feature?_untiled]

/-- **One content has one text.** Whatever edits make a document, in any order and with any
repetitions, its text lists the tiles with features in strictly ascending order, in each of them
arcs, words, enumerated settings and raw bits, each in strictly ascending order, and each slot once
with what was put there last. Edits that put the same into all slots in the end lead to the same
text, whatever their order and whatever other tiles they create. -/
theorem toText_applyAll_canonical (deviceName : String) (metadata : List String)
    (edits : List Edit) :
    (∃ blocks, IsListing edits blocks ∧
        ((untiled deviceName metadata).applyAll edits).toText =
          String.ofList (Text.unlines
            ((untiled deviceName metadata).headLines ++ blocks.flatMap blockLines))) ∧
      ∀ others, (∀ tile slot, lastFeature? others tile slot = lastFeature? edits tile slot) →
        ((untiled deviceName metadata).applyAll others).toText =
          ((untiled deviceName metadata).applyAll edits).toText := by
  have text (edits : List Edit) : ((untiled deviceName metadata).applyAll edits).toText =
      String.ofList (Text.unlines ((untiled deviceName metadata).headLines ++
        ((untiled deviceName metadata).applyAll edits).listed.flatMap blockLines)) := by
    rw [toText, lines_eq_listed, headLines, headLines, deviceName_applyAll, metadata_applyAll]
  refine ⟨⟨_, isListing_listed deviceName metadata edits, text edits⟩, fun others same => ?_⟩
  have listing := (isListing_listed deviceName metadata edits).congr same
  rw [text others, text edits, listing.unique (isListing_listed deviceName metadata others)]

/-- Edits of two tiles, back and forth, that set a sink and a word again and leave a third tile
empty. -/
def tangled : List Edit :=
  [.create "R3C1:PLC", .set "R2C1:PLC" (.enum "MODE" "LOGIC"), .set "R1C1:PLC" (.raw ⟨10, 1⟩),
    .set "R1C1:PLC" (.arc "A0" "F1"), .set "R1C1:PLC" (.word "K" [true]),
    .set "R1C1:PLC" (.arc "A0" "F0"), .set "R1C1:PLC" (.raw ⟨2, 7⟩),
    .set "R1C1:PLC" (.word "K" [true, false])]

/-- Edits that set the same features once. -/
def straight : List Edit :=
  [.set "R1C1:PLC" (.arc "A0" "F0"), .set "R1C1:PLC" (.word "K" [true, false]),
    .set "R1C1:PLC" (.raw ⟨2, 7⟩), .set "R1C1:PLC" (.raw ⟨10, 1⟩),
    .set "R2C1:PLC" (.enum "MODE" "LOGIC")]

theorem toText_applyAll_tangled :
    ((untiled "chip" []).applyAll tangled).toText = ((untiled "chip" []).applyAll straight).toText ∧
      ((untiled "chip" []).applyAll straight).toText = ".device chip\n\n\n" ++
        ".tile R1C1:PLC\narc: A0 F0\nword: K 01\nunknown: F2B7\nunknown: F10B1\n\n" ++
          ".tile R2C1:PLC\nenum: MODE LOGIC\n\n" := by
  have same : ∀ edit ∈ tangled ++ straight, ∀ slot ∈ edit.slot?,
      lastFeature? tangled edit.tile slot = lastFeature? straight edit.tile slot := by
    decide +kernel
  exact ⟨(toText_applyAll_canonical "chip" [] straight).2 tangled (lastFeature?_congr same),
    by decide +kernel⟩

end Document

end FabricConfig
