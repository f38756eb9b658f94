import FabricConfig.Document.Reader
import FabricConfig.Proofs.Document.Slots
import FabricConfig.Proofs.Text.Lines
/-!
# Writable documents

The text of a document has no escapes, so its names and values must leave the layout of the text
alone: what stands between blanks holds none, and what stands alone in a line fits one line.

* `Document.IsWritable`: the conditions, each for one place in the text.
* `Document.settled`: a document without its empty tiles, which are not written.
* `isLine_of_mem_lines`: every line written is one line of the text.
* `applyAll_tileEdits`: the tiles that are written, made anew, are those of the settled document.
-/

namespace FabricConfig

open Text

/-! ### The conditions -/

/-- A feature whose names and values are fields. -/
def Feature.IsWritable : Feature → Prop
  | .arc sink source => IsField sink.toList ∧ IsField source.toList
  | .word name _ => IsField name.toList
  | .enum name value => IsField name.toList ∧ IsField value.toList
  | .raw _ => True

instance : DecidablePred Feature.IsWritable := fun feature => by
  cases feature <;> unfold Feature.IsWritable <;> infer_instance

/-- A name that can stand alone after a directive. -/
def IsPlainName (name : String) : Prop := '\n' ∉ name.toList ∧ IsTrimmed name.toList

instance : DecidablePred IsPlainName := fun _ => inferInstanceAs (Decidable (_ ∧ _))

namespace Document

/-- A document whose names and values leave the layout of its text alone. -/
structure IsWritable (document : Document) : Prop where
  deviceName : IsPlainName document.deviceName
  comment : ∀ line ∈ document.metadata, IsLine line.toList
  /-- The name of a tile in which some feature is set. -/
  tile : ∀ tile, (document.settings tile).isEmpty = false → tile ≠ "" ∧ IsPlainName tile
  feature : ∀ tile, ∀ feature ∈ (document.settings tile).features, feature.IsWritable

/-- It is enough to look at the tiles that the document has. -/
theorem isWritable_iff {document : Document} :
    document.IsWritable ↔ IsPlainName document.deviceName ∧
      (∀ line ∈ document.metadata, IsLine line.toList) ∧
      ∀ entry ∈ document.tiles.toList,
        (entry.2.isEmpty = false → entry.1 ≠ "" ∧ IsPlainName entry.1) ∧
        ∀ feature ∈ entry.2.features, feature.IsWritable := by
  constructor
  · intro writable
    refine ⟨writable.deviceName, writable.comment, fun ⟨tile, settings⟩ member => ?_⟩
    rw [Std.ExtTreeMap.mem_toList_iff_getElem?_eq_some] at member
    have same : document.settings tile = settings := by
      rw [Document.settings, member, Option.getD_some]
    exact ⟨fun filled => writable.tile tile (same ▸ filled),
      fun feature inside => writable.feature tile feature (same ▸ inside)⟩
  · rintro ⟨deviceName, comment, each⟩
    have settled : ∀ tile, document.settings tile = {} ∨
        (tile, document.settings tile) ∈ document.tiles.toList := by
      intro tile
      rw [Std.ExtTreeMap.mem_toList_iff_getElem?_eq_some, Document.settings]
      cases document.tiles[tile]? with
      | none => exact .inl rfl
      | some settings => exact .inr rfl
    refine ⟨deviceName, comment, fun tile filled => ?_, fun tile feature inside => ?_⟩
    · rcases settled tile with empty | member
      · rw [empty] at filled
        exact absurd filled (by decide)
      · exact (each _ member).1 filled
    · rcases settled tile with empty | member
      · rw [empty, TileSettings.mem_features_iff, TileSettings.feature?_empty] at inside
        cases inside
      · exact (each _ member).2 feature inside

instance : DecidablePred IsWritable := fun _ => decidable_of_iff' _ isWritable_iff

/-- A document without its empty tiles. -/
def settled (document : Document) : Document :=
  { document with tiles := document.tiles.filter fun _ settings => !settings.isEmpty }

end Document

/-! ### The parts of a feature's line -/

namespace Feature

/-- The word that names the kind of a feature. -/
def kind : Feature → String
  | .arc _ _ => "arc"
  | .word _ _ => "word"
  | .enum _ _ => "enum"
  | .raw _ => "unknown"

/-- The fields after the kind of a feature. A word without bits has only its name. -/
def texts : Feature → List (List Char)
  | .arc sink source => [sink.toList, source.toList]
  | .word name [] => [name.toList]
  | .word name (bit :: bits) => [name.toList, (Bits.digits (bit :: bits)).reverse]
  | .enum name value => [name.toList, value.toList]
  | .raw bit => [bit.text]

/-- A feature's line is its kind, a colon and its fields, each after a blank. -/
theorem line_eq (feature : Feature) :
    feature.line = feature.kind.toList ++ ':' :: feature.texts.flatMap (' ' :: ·) := by
  match feature with
  | .arc sink source =>
    show "arc: ".toList ++ sink.toList ++ ' ' :: source.toList =
      "arc".toList ++ ':' :: ([sink.toList, source.toList].flatMap (' ' :: ·))
    rw [List.flatMap_cons, List.flatMap_singleton, List.append_assoc]
    rfl
  | .word name [] =>
    show "word: ".toList ++ name.toList = "word".toList ++ ':' :: ([name.toList].flatMap (' ' :: ·))
    rw [List.flatMap_singleton]
    rfl
  | .word name (bit :: bits) =>
    show "word: ".toList ++ name.toList ++ ' ' :: (Bits.digits (bit :: bits)).reverse =
      "word".toList ++ ':' ::
        ([name.toList, (Bits.digits (bit :: bits)).reverse].flatMap (' ' :: ·))
    rw [List.flatMap_cons, List.flatMap_singleton, List.append_assoc]
    rfl
  | .enum name value =>
    show "enum: ".toList ++ name.toList ++ ' ' :: value.toList =
      "enum".toList ++ ':' :: ([name.toList, value.toList].flatMap (' ' :: ·))
    rw [List.flatMap_cons, List.flatMap_singleton, List.append_assoc]
    rfl
  | .raw bit =>
    show "unknown: ".toList ++ bit.text = "unknown".toList ++ ':' :: ([bit.text].flatMap (' ' :: ·))
    rw [List.flatMap_singleton]
    rfl

/-- The digits of a word make a field, unless there are none. -/
theorem isField_digits (bit : Bool) (bits : Bits) :
    IsField (Bits.digits (bit :: bits)).reverse := by
  refine ⟨by simp [Bits.digits], fun c member => ?_⟩
  obtain ⟨value, _, rfl⟩ := List.mem_map.mp (List.mem_reverse.mp member)
  cases value <;> decide

theorem isField_rawText (bit : RawBit) : IsField bit.text := by
  refine ⟨by simp [RawBit.text], fun c member => ?_⟩
  simp only [RawBit.text, List.mem_cons, List.mem_append, List.cons_append] at member
  rcases member with rfl | frame | rfl | place
  · decide
  · exact (isField_decimal _).2 c frame
  · decide
  · exact (isField_decimal _).2 c place

/-- The fields of a writable feature are fields. -/
theorem IsWritable.isField {feature : Feature} (writable : feature.IsWritable) :
    ∀ text ∈ feature.texts, IsField text := by
  match feature, writable with
  | .arc sink source, both => exact List.forall_mem_cons.mpr ⟨both.1, by simpa using both.2⟩
  | .word name [], field => exact List.forall_mem_singleton.mpr field
  | .word name (bit :: bits), field =>
    exact List.forall_mem_cons.mpr ⟨field, by simpa using isField_digits bit bits⟩
  | .enum name value, both => exact List.forall_mem_cons.mpr ⟨both.1, by simpa using both.2⟩
  | .raw bit, _ => exact List.forall_mem_singleton.mpr (isField_rawText bit)

theorem texts_ne_nil (feature : Feature) : feature.texts ≠ [] := by
  match feature with
  | .arc _ _ | .word _ [] | .word _ (_ :: _) | .enum _ _ | .raw _ => exact List.cons_ne_nil _ _

theorem kind_mem_kinds (feature : Feature) : feature.kind ∈ kinds := by
  cases feature <;> simp [kind, kinds]

/-- The kind of a feature with its colon is a field. -/
theorem isField_kind (feature : Feature) : IsField (feature.kind.toList ++ [':']) :=
  (show ∀ kind ∈ kinds, IsField (kind.toList ++ [':']) by decide) _ feature.kind_mem_kinds

/-- A field that follows others ends a trimmed text that starts with a field. -/
theorem isTrimmed_flatMap {first : List Char} (field : IsField first) {words : List (List Char)}
    (some : words ≠ []) (each : ∀ word ∈ words, IsField word) :
    IsTrimmed (first ++ words.flatMap (' ' :: ·)) := by
  obtain ⟨early, last, rfl⟩ : ∃ early last, words = early ++ [last] :=
    ⟨_, _, (List.dropLast_concat_getLast some).symm⟩
  have final := each last (by simp)
  rw [List.flatMap_append, ← List.append_assoc, List.flatMap_singleton]
  rw [show ' ' :: last = [' '] ++ last from rfl, ← List.append_assoc, List.append_assoc first]
  exact IsTrimmed.append field.isTrimmed final.isTrimmed field.1 final.1 _

/-- The line of a writable feature has no blanks at its ends. -/
theorem IsWritable.isTrimmed_line {feature : Feature} (writable : feature.IsWritable) :
    IsTrimmed feature.line := by
  have line := isTrimmed_flatMap feature.isField_kind feature.texts_ne_nil writable.isField
  rw [line_eq]
  simpa using line

/-- The line of a writable feature is one line. -/
theorem IsWritable.isLine {feature : Feature} (writable : feature.IsWritable) :
    IsLine feature.line := by
  refine writable.isTrimmed_line.isLine fun member => ?_
  rw [line_eq, List.mem_append, List.mem_cons] at member
  rcases member with kind | colon | text
  · exact feature.isField_kind.notMem (c := '\n') (by decide) (List.mem_append_left _ kind)
  · revert colon
    decide
  · obtain ⟨text, inside, feed⟩ := List.mem_flatMap.mp text
    rcases List.mem_cons.mp feed with blank | feed
    · revert blank
      decide
    · exact (writable.isField text inside).notMem (by decide) feed

end Feature

/-! ### The lines of a document -/

namespace Document

variable {document : Document}

theorem getElem?_settled (document : Document) (tile : String) :
    document.settled.tiles[tile]? = document.tiles[tile]?.filter (!·.isEmpty) :=
  Std.ExtTreeMap.getElem?_filter'

theorem settled_settled (document : Document) : document.settled.settled = document.settled := by
  have tiles : document.settled.settled.tiles = document.settled.tiles :=
    Std.ExtTreeMap.ext_getElem? fun tile => by
      rw [getElem?_settled, getElem?_settled, Option.filter_filter]
      simp only [Bool.and_self]
  rw [settled, settled] at tiles ⊢
  simp only at tiles ⊢
  rw [tiles]

/-- The tiles that are written are those of the settled document. -/
theorem settledTiles_eq (document : Document) :
    document.settledTiles = document.settled.tiles.toList := by
  rw [settled, Std.ExtTreeMap.toList_filter]
  rfl

/-- **Empty tiles are not written.** -/
theorem toText_settled (document : Document) : document.settled.toText = document.toText := by
  have tiles : document.settled.settledTiles = document.settledTiles := by
    rw [settledTiles_eq, settled_settled, settledTiles_eq]
  rw [toText, toText, lines, lines, tiles]
  rfl

/-- A tile that is written is one of the document in which some feature is set. -/
theorem mem_settledTiles_iff {tile : String} {settings : TileSettings} :
    (tile, settings) ∈ document.settledTiles ↔
      document.tiles[tile]? = some settings ∧ settings.isEmpty = false := by
  rw [settledTiles_eq, Std.ExtTreeMap.mem_toList_iff_getElem?_eq_some, getElem?_settled,
    Option.filter_eq_some_iff]
  simp

theorem settings_of_mem_settledTiles {tile : String} {settings : TileSettings}
    (member : (tile, settings) ∈ document.settledTiles) :
    document.settings tile = settings ∧ settings.isEmpty = false := by
  obtain ⟨found, filled⟩ := mem_settledTiles_iff.mp member
  exact ⟨by rw [Document.settings, found, Option.getD_some], filled⟩

/-- The lines of a tile are lines. -/
theorem isLine_of_mem_tileLines {tile : String} {settings : TileSettings}
    (name : IsPlainName tile) (features : ∀ feature ∈ settings.features, feature.IsWritable) :
    ∀ line ∈ tileLines tile settings, IsLine line := by
  intro line member
  simp only [tileLines, List.mem_cons, List.mem_append, List.cons_append, List.not_mem_nil,
    or_false] at member
  rcases member with rfl | inside | rfl
  · exact (name.2.isLine name.1).append (by decide) (by decide)
  · obtain ⟨feature, feature_, rfl⟩ := List.mem_map.mp inside
    exact (features feature feature_).isLine
  · decide

/-- **Every line that is written is one line of the text.** -/
theorem isLine_of_mem_lines (writable : document.IsWritable) :
    ∀ line ∈ document.lines, IsLine line := by
  intro line member
  rw [lines, List.mem_append] at member
  rcases member with head | tiles
  · simp only [headLines, List.mem_cons, List.mem_append, List.cons_append, List.not_mem_nil,
      or_false, List.mem_map] at head
    rcases head with rfl | rfl | ⟨comment, inside, rfl⟩ | rfl
    · exact (writable.deviceName.2.isLine writable.deviceName.1).append (by decide) (by decide)
    · decide
    · exact (writable.comment comment inside).append (by decide) (by decide)
    · decide
  · obtain ⟨⟨tile, settings⟩, inside, here⟩ := List.mem_flatMap.mp tiles
    obtain ⟨rfl, filled⟩ := settings_of_mem_settledTiles inside
    exact isLine_of_mem_tileLines (writable.tile tile filled).2 (writable.feature tile) line here

/-! ### Making the tiles anew -/

/-- The edits that make a tile anew. -/
def tileEdits (tile : String) (settings : TileSettings) : List Edit :=
  .create tile :: settings.features.map (.set tile)

theorem tile_of_mem_tileEdits {tile : String} {settings : TileSettings} {edit : Edit}
    (member : edit ∈ tileEdits tile settings) : edit.tile = tile := by
  rcases List.mem_cons.mp member with rfl | inside
  · rfl
  · obtain ⟨feature, _, rfl⟩ := List.mem_map.mp inside
    rfl

/-- Values that are all the same one are ended by it. -/
theorem getLast?_eq_of_forall_mem {α : Type} {values : List α} {only : Option α}
    (sound : ∀ value ∈ values, only = some value)
    (complete : ∀ value, only = some value → value ∈ values) : values.getLast? = only := by
  cases last : values.getLast? with
  | some value => exact (sound value (List.mem_of_mem_getLast? last)).symm
  | none =>
    rw [List.getLast?_eq_none_iff.mp last] at complete
    cases only with
    | none => rfl
    | some value => exact absurd (complete value rfl) List.not_mem_nil

/-- **The tiles that are written, made anew, are those of the settled document.** No two of the
edits fill the same slot, so what is put into a slot last is what is put there at all. -/
theorem applyAll_tileEdits (document : Document) :
    ({ document with tiles := ∅ } : Document).applyAll
        (document.settledTiles.flatMap fun (tile, settings) => tileEdits tile settings) =
      document.settled := by
  generalize made : (document.settledTiles.flatMap fun (tile, settings) =>
    tileEdits tile settings) = edits
  have tiles : (({ document with tiles := ∅ } : Document).applyAll edits).tiles =
      document.settled.tiles := by
    refine ext_tiles (fun tile => ?_) fun tile slot => ?_
    · rw [mem_tiles_applyAll]
      simp only [Std.ExtTreeMap.not_mem_empty, or_false]
      constructor
      · rintro ⟨edit, member, rfl⟩
        rw [← made] at member
        obtain ⟨⟨tile, settings⟩, inside, here⟩ := List.mem_flatMap.mp member
        rw [tile_of_mem_tileEdits here]
        rw [settledTiles_eq, Std.ExtTreeMap.mem_toList_iff_getElem?_eq_some] at inside
        exact Std.ExtTreeMap.mem_iff_isSome_getElem?.mpr (Option.isSome_of_eq_some inside)
      · intro present
        rw [Std.ExtTreeMap.mem_iff_isSome_getElem?, Option.isSome_iff_exists] at present
        obtain ⟨settings, found⟩ := present
        rw [← Std.ExtTreeMap.mem_toList_iff_getElem?_eq_some, ← settledTiles_eq] at found
        refine ⟨.create tile, ?_, rfl⟩
        rw [← made]
        exact List.mem_flatMap.mpr ⟨_, found, List.mem_cons_self⟩
    · rw [feature?_applyAll]
      have before : ((({ document with tiles := ∅ } : Document).settings tile).feature? slot) =
          none := by
        simp [settings, TileSettings.feature?_empty]
      rw [before, Option.or_none]
      refine getLast?_eq_of_forall_mem (fun feature member => ?_) fun feature found => ?_
      · obtain ⟨edit, inside, put⟩ := List.mem_filterMap.mp member
        obtain ⟨rfl, rfl⟩ := Edit.feature?_eq_some_iff.mp put
        rw [← made] at inside
        obtain ⟨⟨other, settings⟩, written, here⟩ := List.mem_flatMap.mp inside
        have own : tile = other := tile_of_mem_tileEdits here
        subst own
        rw [settledTiles_eq, Std.ExtTreeMap.mem_toList_iff_getElem?_eq_some] at written
        rw [Document.settings, written, Option.getD_some]
        simpa [tileEdits, TileSettings.mem_features_iff] using here
      · have own := TileSettings.slot_of_feature?_eq_some found
        refine List.mem_filterMap.mpr ⟨.set tile feature, ?_, Edit.feature?_eq_some_iff.mpr
          ⟨rfl, own⟩⟩
        cases present : document.settled.tiles[tile]? with
        | none => simp [Document.settings, present, TileSettings.feature?_empty] at found
        | some settings =>
          rw [Document.settings, present, Option.getD_some, ← own,
            ← TileSettings.mem_features_iff] at found
          rw [← Std.ExtTreeMap.mem_toList_iff_getElem?_eq_some, ← settledTiles_eq] at present
          rw [← made]
          exact List.mem_flatMap.mpr ⟨_, present,
            List.mem_cons_of_mem _ (List.mem_map_of_mem found)⟩
  have names := deviceName_applyAll { document with tiles := ∅ } edits
  have comments := metadata_applyAll { document with tiles := ∅ } edits
  rcases whole : ({ document with tiles := ∅ } : Document).applyAll edits with ⟨name, lines, map⟩
  rw [whole] at tiles names comments
  simp only at tiles names comments
  rw [tiles, names, comments]
  rfl

end Document

end FabricConfig
