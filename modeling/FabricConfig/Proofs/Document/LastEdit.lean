import FabricConfig.Proofs.Document.Slots
/-!
# The last edit of a slot

Edits come in lots, such as those of one PIP or cell. What a slot holds after all of them was put
there by the last lot that puts something there.

* `getLast?_feature?_iff`: one lot, which sets no two features of one slot.
* `getLast?_feature?_flatMap_iff`: many such lots.
* `mem_tiles_iff_of_sets`: the tiles of a document are those with features, if every tile that the
  edits name has one.
* `Document.PutsOnly`: what a lot of one tile makes of a document, and nothing else.
-/

namespace FabricConfig

variable {edits : List Edit} {tile : String} {slot : Slot} {feature : Feature}

/-! ### One lot -/

/-- Whether no two features that edits set have one tile and one slot. -/
def SetsOnce (edits : List Edit) : Prop :=
  ∀ tile first second, .set tile first ∈ edits → .set tile second ∈ edits →
    first.slot = second.slot → first = second

theorem mem_filterMap_feature?_iff :
    feature ∈ edits.filterMap (·.feature? tile slot) ↔
      .set tile feature ∈ edits ∧ feature.slot = slot := by
  rw [List.mem_filterMap]
  constructor
  · rintro ⟨edit, member, put⟩
    obtain ⟨rfl, own⟩ := Edit.feature?_eq_some_iff.mp put
    exact ⟨member, own⟩
  · rintro ⟨member, own⟩
    exact ⟨_, member, Edit.feature?_eq_some_iff.mpr ⟨rfl, own⟩⟩

theorem filterMap_feature?_eq_nil_iff :
    edits.filterMap (·.feature? tile slot) = [] ↔
      ∀ feature, .set tile feature ∈ edits → feature.slot ≠ slot := by
  rw [List.eq_nil_iff_forall_not_mem]
  refine forall_congr' fun feature => ?_
  rw [mem_filterMap_feature?_iff, not_and]

/-- **A lot puts into a slot the one feature that it sets there.** -/
theorem getLast?_feature?_iff (once : SetsOnce edits) :
    (edits.filterMap (·.feature? tile slot)).getLast? = some feature ↔
      .set tile feature ∈ edits ∧ feature.slot = slot := by
  rw [← mem_filterMap_feature?_iff]
  constructor
  · exact List.mem_of_getLast?
  · intro member
    cases last : (edits.filterMap (·.feature? tile slot)).getLast? with
    | none =>
      rw [List.getLast?_eq_none_iff.mp last] at member
      exact absurd member List.not_mem_nil
    | some other =>
      obtain ⟨otherIn, otherSlot⟩ := mem_filterMap_feature?_iff.mp (List.mem_of_getLast? last)
      obtain ⟨featureIn, featureSlot⟩ := mem_filterMap_feature?_iff.mp member
      rw [once tile other feature otherIn featureIn (otherSlot.trans featureSlot.symm)]

/-! ### Many lots -/

section Lots

variable {α β γ : Type} {items : List α} {lots : α → List β} {pick : β → Option γ} {value : γ}

theorem filterMap_flatMap_eq_nil_iff :
    (items.flatMap lots).filterMap pick = [] ↔
      ∀ (later : Nat) (other : α), items[later]? = some other →
        (lots other).filterMap pick = [] := by
  rw [List.filterMap_flatMap, List.flatMap_eq_nil_iff]
  constructor
  · intro none later other found
    exact none other (List.mem_of_getElem? found)
  · intro none other member
    obtain ⟨later, found⟩ := List.mem_iff_getElem?.mp member
    exact none later other found

/-- **What is picked last out of many lots** comes from the last lot that anything is picked from. -/
theorem getLast?_filterMap_flatMap_iff :
    ((items.flatMap lots).filterMap pick).getLast? = some value ↔
      ∃ (index : Nat) (item : α), items[index]? = some item ∧
        ((lots item).filterMap pick).getLast? = some value ∧
        ∀ (later : Nat) (other : α), index < later → items[later]? = some other →
          (lots other).filterMap pick = [] := by
  induction items with
  | nil => simp
  | cons first rest ih =>
    rw [List.flatMap_cons, List.filterMap_append, List.getLast?_append]
    -- The first lot counts only if nothing is picked from the rest.
    cases last : ((rest.flatMap lots).filterMap pick).getLast? with
    | none =>
      have none := filterMap_flatMap_eq_nil_iff.mp (List.getLast?_eq_none_iff.mp last)
      rw [Option.none_or]
      constructor
      · intro found
        refine ⟨0, first, rfl, found, fun later other after there => ?_⟩
        cases later with
        | zero => exact absurd after (Nat.lt_irrefl 0)
        | succ later => exact none later other there
      · rintro ⟨index, item, there, found, _⟩
        cases index with
        | zero =>
          cases there
          exact found
        | succ index =>
          rw [none index item there] at found
          cases found
    | some given =>
      rw [Option.some_or, ← last, ih]
      constructor
      · rintro ⟨index, item, there, found, after⟩
        refine ⟨index + 1, item, there, found, fun later other beyond place => ?_⟩
        cases later with
        | zero => exact absurd beyond (Nat.not_lt_zero _)
        | succ later => exact after later other (Nat.lt_of_succ_lt_succ beyond) place
      · rintro ⟨index, item, there, found, after⟩
        cases index with
        | zero =>
          have none := filterMap_flatMap_eq_nil_iff.mpr fun later other place =>
            after (later + 1) other (Nat.succ_pos later) place
          rw [none] at last
          cases last
        | succ index =>
          refine ⟨index, item, there, found, fun later other beyond place => ?_⟩
          exact after (later + 1) other (Nat.succ_lt_succ beyond) place

end Lots

/-- **What a slot holds after many lots** was set by the last lot that sets something there. -/
theorem getLast?_feature?_flatMap_iff {α : Type} {items : List α} {lots : α → List Edit}
    (once : ∀ item ∈ items, SetsOnce (lots item)) :
    ((items.flatMap lots).filterMap (·.feature? tile slot)).getLast? = some feature ↔
      ∃ (index : Nat) (item : α), items[index]? = some item ∧
        (.set tile feature ∈ lots item ∧ feature.slot = slot) ∧
        ∀ (later : Nat) (other : α), index < later → items[later]? = some other →
          ∀ given, .set tile given ∈ lots other → given.slot ≠ slot := by
  rw [getLast?_filterMap_flatMap_iff]
  refine exists_congr fun index => exists_congr fun item => and_congr_right fun there => ?_
  rw [getLast?_feature?_iff (once item (List.mem_of_getElem? there))]
  simp only [filterMap_feature?_eq_nil_iff]

/-! ### Tiles -/

/-- **The tiles of a document are those with features**, if every tile that the edits name has
one. -/
theorem Document.mem_tiles_iff_of_sets {document : Document} (bare : document.tiles = ∅)
    (sets : ∀ edit ∈ edits, ∃ feature, .set edit.tile feature ∈ edits) :
    tile ∈ (document.applyAll edits).tiles ↔
      ((document.applyAll edits).settings tile).isEmpty = false := by
  rw [mem_tiles_applyAll, ← Bool.not_eq_true, TileSettings.isEmpty_iff]
  have absent : tile ∉ document.tiles := by
    rw [bare]
    exact Std.ExtTreeMap.not_mem_empty
  have empty (slot : Slot) : (document.settings tile).feature? slot = none := by
    rw [settings, bare, Std.ExtTreeMap.getElem?_empty]
    exact TileSettings.feature?_empty slot
  constructor
  · rintro (⟨edit, member, rfl⟩ | present) none
    · obtain ⟨feature, set⟩ := sets edit member
      have unfilled := none feature.slot
      rw [feature?_applyAll, empty, Option.or_none, List.getLast?_eq_none_iff,
        filterMap_feature?_eq_nil_iff] at unfilled
      exact unfilled feature set rfl
    · exact absent present
  · intro filled
    refine .inl ?_
    refine Decidable.byContradiction fun unnamed => ?_
    refine filled fun slot => ?_
    rw [feature?_applyAll, empty, Option.or_none, List.getLast?_eq_none_iff,
      filterMap_feature?_eq_nil_iff]
    intro feature set
    exact absurd ⟨.set tile feature, set, rfl⟩ unnamed

/-! ### One lot in one tile -/

namespace Document

variable {features : List Feature} {before after : Document}

/-- A document has been changed by setting just these features in a tile. -/
structure PutsOnly (tile : String) (features : List Feature) (before after : Document) : Prop where
  deviceName : after.deviceName = before.deviceName
  metadata : after.metadata = before.metadata
  /-- The tile is there, and no other tile is new or gone. -/
  tiles : ∀ other, other ∈ after.tiles ↔ other = tile ∨ other ∈ before.tiles
  set : ∀ feature ∈ features, (after.settings tile).feature? feature.slot = some feature
  /-- All other slots of the tile, and all slots of other tiles, hold what they held. -/
  kept : ∀ other slot, (other = tile → ∀ feature ∈ features, feature.slot ≠ slot) →
    (after.settings other).feature? slot = (before.settings other).feature? slot

/-- **There is only one document that has been changed so.** -/
theorem PutsOnly.unique {other : Document} (first : before.PutsOnly tile features after)
    (second : before.PutsOnly tile features other) : after = other := by
  refine ext_feature? (first.deviceName.trans second.deviceName.symm)
    (first.metadata.trans second.metadata.symm)
    (fun place => (first.tiles place).trans (second.tiles place).symm) fun place slot => ?_
  by_cases set : place = tile ∧ ∃ feature ∈ features, feature.slot = slot
  · obtain ⟨rfl, feature, member, rfl⟩ := set
    rw [first.set feature member, second.set feature member]
  · have foreign (here : place = tile) (feature : Feature) (member : feature ∈ features) :
        feature.slot ≠ slot := fun same => set ⟨here, feature, member, same⟩
    rw [first.kept place slot foreign, second.kept place slot foreign]

/-- **A lot that sets features of different slots in a tile** changes a document by just these. -/
theorem putsOnly_applyAll (once : SetsOnce edits)
    (sets : ∀ other feature, .set other feature ∈ edits ↔ other = tile ∧ feature ∈ features)
    (names : ∀ other, (∃ edit ∈ edits, edit.tile = other) ↔ other = tile) (document : Document) :
    document.PutsOnly tile features (document.applyAll edits) where
  deviceName := deviceName_applyAll document edits
  metadata := metadata_applyAll document edits
  tiles other := by rw [mem_tiles_applyAll, names]
  set feature member := by
    have last := (getLast?_feature?_iff once).mpr ⟨(sets tile feature).mpr ⟨rfl, member⟩, rfl⟩
    rw [feature?_applyAll, last, Option.some_or]
  kept other slot foreign := by
    rw [feature?_applyAll, filterMap_feature?_eq_nil_iff.mpr, List.getLast?_nil, Option.none_or]
    intro feature set
    obtain ⟨here, member⟩ := (sets other feature).mp set
    exact foreign here feature member

end Document

end FabricConfig
