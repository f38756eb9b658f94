import FabricConfig.Document.Basic
import FabricConfig.Document.Writer
/-!
# Documents as maps

A feature is known in its tile by its kind and its key, together its slot. Seen so, the settings of
a tile are one map from slots to features, and a document is a map from tiles and slots.

* `feature?_set`: setting a feature fills its slot and no other.
* `ext_feature?`: settings are known by their slots.
* `mem_features_iff`: the features that are written are those in the slots.
* `feature?_applyAll`: after edits, a slot holds what was put there last.
* `mem_tiles_applyAll`: edits create the tiles they name and remove none.
-/

namespace FabricConfig

/-- What a feature is known by in its tile. A raw bit is its own key. -/
inductive Slot where
  | arc (sink : String)
  | word (name : String)
  | enum (name : String)
  | raw (bit : RawBit)
deriving DecidableEq

/-- The slot of a feature. -/
def Feature.slot : Feature → Slot
  | .arc sink _ => .arc sink
  | .word name _ => .word name
  | .enum name _ => .enum name
  | .raw bit => .raw bit

/-! ### The settings of a tile -/

namespace TileSettings

variable {settings other : TileSettings} {slot : Slot} {feature : Feature}

/-- The feature in a slot. -/
def feature? (settings : TileSettings) : Slot → Option Feature
  | .arc sink => settings.arcs[sink]?.map (.arc sink)
  | .word name => settings.words[name]?.map (.word name)
  | .enum name => settings.enums[name]?.map (.enum name)
  | .raw bit => if bit ∈ settings.raws then some (.raw bit) else none

theorem slot_of_feature?_eq_some (found : settings.feature? slot = some feature) :
    feature.slot = slot := by
  cases slot with
  | raw bit =>
    simp only [feature?, Option.ite_none_right_eq_some, Option.some.injEq] at found
    rw [← found.2]
    rfl
  | _ =>
    obtain ⟨_, _, rfl⟩ := Option.map_eq_some_iff.mp found
    rfl

theorem feature?_empty (slot : Slot) : ({} : TileSettings).feature? slot = none := by
  cases slot with
  | raw bit => simp [feature?]
  | _ => simp [feature?]

/-- **Setting a feature fills its slot and no other.** -/
theorem feature?_set (settings : TileSettings) (feature : Feature) (slot : Slot) :
    (settings.set feature).feature? slot =
      if feature.slot = slot then some feature else settings.feature? slot := by
  cases feature with
  | arc sink source =>
    cases slot with
    | arc other =>
      by_cases same : sink = other <;>
        simp [set, feature?, Feature.slot, Std.ExtTreeMap.getElem?_insert, same]
    | _ => exact (if_neg fun same => by cases same).symm
  | word name bits =>
    cases slot with
    | word other =>
      by_cases same : name = other <;>
        simp [set, feature?, Feature.slot, Std.ExtTreeMap.getElem?_insert, same]
    | _ => exact (if_neg fun same => by cases same).symm
  | enum name value =>
    cases slot with
    | enum other =>
      by_cases same : name = other <;>
        simp [set, feature?, Feature.slot, Std.ExtTreeMap.getElem?_insert, same]
    | _ => exact (if_neg fun same => by cases same).symm
  | raw bit =>
    cases slot with
    | raw other => by_cases same : bit = other <;> simp [set, feature?, Feature.slot, same]
    | _ => exact (if_neg fun same => by cases same).symm

theorem arcs_eq_of_feature?
    (same : ∀ sink, settings.feature? (.arc sink) = other.feature? (.arc sink)) :
    settings.arcs = other.arcs :=
  Std.ExtTreeMap.ext_getElem? fun sink =>
    Option.map_injective (fun _ _ equal => (Feature.arc.inj equal).2) (same sink)

theorem words_eq_of_feature?
    (same : ∀ name, settings.feature? (.word name) = other.feature? (.word name)) :
    settings.words = other.words :=
  Std.ExtTreeMap.ext_getElem? fun name =>
    Option.map_injective (fun _ _ equal => (Feature.word.inj equal).2) (same name)

theorem enums_eq_of_feature?
    (same : ∀ name, settings.feature? (.enum name) = other.feature? (.enum name)) :
    settings.enums = other.enums :=
  Std.ExtTreeMap.ext_getElem? fun name =>
    Option.map_injective (fun _ _ equal => (Feature.enum.inj equal).2) (same name)

theorem raws_eq_of_feature?
    (same : ∀ bit, settings.feature? (.raw bit) = other.feature? (.raw bit)) :
    settings.raws = other.raws :=
  Std.ExtTreeSet.ext_mem fun bit => by
    have both := same bit
    by_cases here : bit ∈ settings.raws <;> by_cases there : bit ∈ other.raws <;>
      simp_all [feature?]

/-- Settings with the same features in their slots are equal. -/
theorem ext_feature? (same : ∀ slot, settings.feature? slot = other.feature? slot) :
    settings = other := by
  have arcs := arcs_eq_of_feature? fun sink => same (.arc sink)
  have words := words_eq_of_feature? fun name => same (.word name)
  have enums := enums_eq_of_feature? fun name => same (.enum name)
  have raws := raws_eq_of_feature? fun bit => same (.raw bit)
  cases settings
  cases other
  simp only at arcs words enums raws
  rw [arcs, words, enums, raws]

theorem getElem?_arcs_iff {sink source : String} :
    settings.arcs[sink]? = some source ↔
      settings.feature? (.arc sink) = some (.arc sink source) := by
  simp [feature?]

theorem getElem?_words_iff {name : String} {bits : Bits} :
    settings.words[name]? = some bits ↔ settings.feature? (.word name) = some (.word name bits) := by
  simp [feature?]

theorem getElem?_enums_iff {name value : String} :
    settings.enums[name]? = some value ↔
      settings.feature? (.enum name) = some (.enum name value) := by
  simp [feature?]

theorem mem_raws_iff {bit : RawBit} :
    bit ∈ settings.raws ↔ settings.feature? (.raw bit) = some (.raw bit) := by
  simp [feature?]

/-- The features that are written are those in the slots. -/
theorem mem_features_iff :
    feature ∈ settings.features ↔ settings.feature? feature.slot = some feature := by
  cases feature <;>
    simp [features, feature?, Feature.slot, Std.ExtTreeMap.mem_toList_iff_getElem?_eq_some]

theorem isEmpty_iff_features : settings.isEmpty = true ↔ settings.features = [] := by
  simp [isEmpty, features, and_assoc]

theorem isEmpty_iff : settings.isEmpty = true ↔ ∀ slot, settings.feature? slot = none := by
  rw [isEmpty_iff_features, List.eq_nil_iff_forall_not_mem]
  constructor
  · intro none slot
    cases found : settings.feature? slot with
    | none => rfl
    | some feature =>
      rw [← slot_of_feature?_eq_some found] at found
      exact absurd (mem_features_iff.mpr found) (none feature)
  · intro none feature member
    rw [mem_features_iff, none] at member
    cases member

end TileSettings

/-! ### Edits -/

namespace Edit

/-- The tile that an edit creates or changes. -/
def tile : Edit → String
  | create tile => tile
  | set tile _ => tile

/-- What an edit puts into a slot of a tile. -/
def feature? (tile : String) (slot : Slot) : Edit → Option Feature
  | create _ => none
  | set other feature => if other = tile ∧ feature.slot = slot then some feature else none

/-- What an edit does to the settings of its tile. -/
def change : Edit → TileSettings → TileSettings
  | create _ => id
  | set _ feature => (·.set feature)

/-- What is put into a slot is a feature of that slot, set in the tile. -/
theorem feature?_eq_some_iff {edit : Edit} {tile : String} {slot : Slot} {feature : Feature} :
    edit.feature? tile slot = some feature ↔ edit = .set tile feature ∧ feature.slot = slot := by
  cases edit with
  | create other => exact ⟨nofun, nofun⟩
  | set other given =>
    simp only [feature?, Option.ite_none_right_eq_some, Option.some.injEq, set.injEq]
    constructor
    · rintro ⟨⟨rfl, rfl⟩, rfl⟩
      exact ⟨⟨rfl, rfl⟩, rfl⟩
    · rintro ⟨⟨rfl, rfl⟩, rfl⟩
      exact ⟨⟨rfl, rfl⟩, rfl⟩

end Edit

/-! ### Documents -/

namespace Document

variable {document other : Document} {tile : String} {slot : Slot} {feature : Feature}

/-- The settings of a tile, empty if the document does not have it. -/
def settings (document : Document) (tile : String) : TileSettings :=
  (document.tiles[tile]?).getD {}

theorem apply_eq (document : Document) (edit : Edit) :
    document.apply edit = document.modifyTile edit.tile edit.change := by
  cases edit <;> rfl

/-- An edit fills a slot of its tile at most. -/
theorem feature?_apply (document : Document) (edit : Edit) (tile : String) (slot : Slot) :
    ((document.apply edit).settings tile).feature? slot =
      (edit.feature? tile slot).or ((document.settings tile).feature? slot) := by
  rw [apply_eq, settings]
  by_cases same : edit.tile = tile
  · subst same
    rw [getElem?_modifyTile_self, Option.getD_some]
    cases edit with
    | create tile => rfl
    | set tile feature =>
      rw [Edit.change, TileSettings.feature?_set]
      by_cases here : feature.slot = slot <;> simp [Edit.feature?, Edit.tile, settings, here]
  · rw [getElem?_modifyTile_of_ne _ _ same]
    cases edit with
    | create tile => rfl
    | set other feature =>
      rw [Edit.feature?, if_neg fun both => same both.1]
      rfl

/-- **After edits, a slot holds what was put there last.** -/
theorem feature?_applyAll (document : Document) (edits : List Edit) (tile : String) (slot : Slot) :
    ((document.applyAll edits).settings tile).feature? slot =
      (edits.filterMap (·.feature? tile slot)).getLast?.or
        ((document.settings tile).feature? slot) := by
  induction edits generalizing document with
  | nil => rfl
  | cons edit edits ih =>
    rw [applyAll, List.foldl_cons, ← applyAll, ih, feature?_apply, ← Option.or_assoc]
    congr 1
    cases put : edit.feature? tile slot with
    | none => rw [List.filterMap_cons_none put, Option.or_none]
    | some feature =>
      rw [List.filterMap_cons_some put, List.getLast?_cons]
      cases (edits.filterMap (·.feature? tile slot)).getLast? <;> rfl

theorem mem_tiles_apply (document : Document) (edit : Edit) (tile : String) :
    tile ∈ (document.apply edit).tiles ↔ edit.tile = tile ∨ tile ∈ document.tiles := by
  rw [apply_eq, Std.ExtTreeMap.mem_iff_isSome_getElem?, Std.ExtTreeMap.mem_iff_isSome_getElem?]
  by_cases same : edit.tile = tile
  · subst same
    simp [getElem?_modifyTile_self]
  · rw [getElem?_modifyTile_of_ne _ _ same]
    simp [same]

/-- **Edits create the tiles they name and remove none.** -/
theorem mem_tiles_applyAll (document : Document) (edits : List Edit) (tile : String) :
    tile ∈ (document.applyAll edits).tiles ↔
      (∃ edit ∈ edits, edit.tile = tile) ∨ tile ∈ document.tiles := by
  induction edits generalizing document with
  | nil => simp [applyAll]
  | cons edit edits ih =>
    rw [applyAll, List.foldl_cons, ← applyAll, ih, mem_tiles_apply]
    rw [← or_assoc, or_comm (a := ∃ other ∈ edits, _)]
    simp only [List.mem_cons, exists_eq_or_imp]

theorem deviceName_applyAll (document : Document) (edits : List Edit) :
    (document.applyAll edits).deviceName = document.deviceName := by
  induction edits generalizing document with
  | nil => rfl
  | cons edit edits ih =>
    rw [applyAll, List.foldl_cons, ← applyAll, ih, apply_eq]
    rfl

theorem metadata_applyAll (document : Document) (edits : List Edit) :
    (document.applyAll edits).metadata = document.metadata := by
  induction edits generalizing document with
  | nil => rfl
  | cons edit edits ih =>
    rw [applyAll, List.foldl_cons, ← applyAll, ih, apply_eq]
    rfl

/-- A comment may as well be added before the edits. -/
theorem comment_applyAll (document : Document) (edits : List Edit) (line : String) :
    (document.applyAll edits).comment line = (document.comment line).applyAll edits := by
  induction edits generalizing document with
  | nil => rfl
  | cons edit edits ih =>
    rw [applyAll, List.foldl_cons, ← applyAll, ih, applyAll, applyAll, List.foldl_cons, apply_eq,
      apply_eq]
    rfl

/-- Tile maps with the same tiles and the same features in their slots are equal. -/
theorem ext_tiles (present : ∀ tile, tile ∈ document.tiles ↔ tile ∈ other.tiles)
    (same : ∀ tile slot,
      (document.settings tile).feature? slot = (other.settings tile).feature? slot) :
    document.tiles = other.tiles := by
  refine Std.ExtTreeMap.ext_getElem? fun tile => ?_
  have equal := TileSettings.ext_feature? (same tile)
  have both := present tile
  rw [Std.ExtTreeMap.mem_iff_isSome_getElem?, Std.ExtTreeMap.mem_iff_isSome_getElem?] at both
  unfold settings at equal
  cases here : document.tiles[tile]? with
  | none =>
    cases there : other.tiles[tile]? with
    | none => rfl
    | some _ => simp [here, there] at both
  | some _ =>
    cases there : other.tiles[tile]? with
    | none => simp [here, there] at both
    | some _ => simpa [here, there] using equal

/-- Documents with the same tiles and the same features in their slots, under one heading, are
equal. -/
theorem ext_feature? (deviceName : document.deviceName = other.deviceName)
    (metadata : document.metadata = other.metadata)
    (present : ∀ tile, tile ∈ document.tiles ↔ tile ∈ other.tiles)
    (same : ∀ tile slot,
      (document.settings tile).feature? slot = (other.settings tile).feature? slot) :
    document = other := by
  have tiles := ext_tiles present same
  cases document
  cases other
  simp only at deviceName metadata tiles
  rw [deviceName, metadata, tiles]

end Document

end FabricConfig
