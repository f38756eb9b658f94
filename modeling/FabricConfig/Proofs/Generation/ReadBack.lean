import FabricConfig.Proofs.Document.Reading
import FabricConfig.Proofs.Generation.Exactness
/-!
# Reading back what is generated

Names and values go from a database and a design into the text of a configuration as they are. The
text is read back as the configuration when they leave its layout alone, and only then.

* `IsReadable`: what the names and values of a configuration must be.
* `isWritable_iff_isReadable`: nothing else of a configuration can break the layout.
* `ofText_toText_generated_iff`: a generated configuration is read back just when they are so.
* `ofText_toText_ne_emptyMode`: an empty value is one that is not read back.
-/

namespace FabricConfig

open Text

variable {db : Database} {design : Design} {document : Document}

/-- The names and values that a database and a design put into a configuration leave the layout of
its text alone. -/
structure IsReadable (db : Database) (design : Design) : Prop where
  /-- The speed grade and the package stand in a comment. -/
  part : '\n' ∉ db.speed.toList ∧ '\n' ∉ db.package.toList
  arc : ∀ tile sink source, IsLastArc db design tile sink source →
    IsTileName tile ∧ IsField sink.toList ∧ IsField source.toList
  setting : ∀ tile feature, IsLastSetting db design tile feature →
    IsTileName tile ∧ feature.IsWritable

/-! ### The parts of a configuration -/

theorem isPlainName_variant (variant : Variant) : IsPlainName variant.name := by
  cases variant <;> decide

theorem isTileName_of_mem_hc1200Base : ∀ entry ∈ hc1200Base, IsTileName entry.1 := by decide

theorem isTileName_of_mem_baseEdits {variant : Variant} {base : List Edit}
    (registered : variant.baseEdits? = some base) {edit : Edit} (member : edit ∈ base) :
    IsTileName edit.tile := by
  cases variant with
  | hc1200 =>
    cases registered
    obtain ⟨entry, listed, rfl⟩ := List.mem_map.mp member
    exact isTileName_of_mem_hc1200Base entry listed
  | _ => cases registered

/-- The comment with the name of the part ends in a letter, so only line feeds can break it. -/
theorem isLine_part_iff :
    IsLine ("Part: " ++ db.partName).toList ↔
      '\n' ∉ db.speed.toList ∧ '\n' ∉ db.package.toList := by
  have lead : '\n' ∉ "Part: ".toList ∧ '\n' ∉ "-".toList ∧ '\n' ∉ "C".toList := by decide
  have name := (isPlainName_variant db.variant).1
  have ending : ("Part: " ++ db.partName).toList.getLast? = some 'C' := by
    rw [Database.partName, Variant.partName, String.toList_append, String.toList_append,
      ← List.append_assoc, List.getLast?_append]
    rfl
  rw [IsLine, ending, and_iff_left (by decide)]
  simp only [Database.partName, Variant.partName, String.toList_append, List.mem_append, not_or]
  constructor
  · intro ⟨_, ⟨⟨_, speed⟩, package⟩, _⟩
    exact ⟨speed, package⟩
  · intro ⟨speed, package⟩
    exact ⟨lead.1, ⟨⟨⟨name, lead.2.1⟩, speed⟩, package⟩, lead.2.2⟩

/-! ### Whole configurations -/

theorem IsConfiguration.settled_eq (contents : IsConfiguration db design document) :
    document.settled = document := by
  have tiles : document.settled.tiles = document.tiles := by
    refine Std.ExtTreeMap.ext_getElem? fun tile => ?_
    rw [Document.getElem?_settled]
    cases found : document.tiles[tile]? with
    | none => rfl
    | some settings =>
      have present : tile ∈ document.tiles :=
        Std.ExtTreeMap.mem_iff_isSome_getElem?.mpr (Option.isSome_of_eq_some found)
      have filled := (contents.tiles tile).mp present
      rw [Document.settings, found, Option.getD_some] at filled
      rw [Option.filter_some, filled]
      rfl
  cases document
  exact congrArg (Document.mk _ _) tiles

/-- **Nothing else of a configuration can break the layout** of its text. -/
theorem isWritable_iff_isReadable (contents : IsConfiguration db design document) :
    document.IsWritable ↔ IsReadable db design := by
  have comments : (∀ line ∈ document.metadata, IsLine line.toList) ↔
      '\n' ∉ db.speed.toList ∧ '\n' ∉ db.package.toList := by
    rw [contents.metadata, List.forall_mem_singleton, isLine_part_iff]
  rw [Document.isWritable_iff_feature?, comments]
  constructor
  · rintro ⟨_, part, each⟩
    refine ⟨part, fun tile sink source last => ?_, fun tile feature last => ?_⟩
    · have found := (contents.arc tile sink source).mpr last
      exact each tile _ _ (TileSettings.getElem?_arcs_iff.mp found)
    · have found : ((document.settings tile).feature? feature.slot) = some feature := by
        obtain ⟨_, _, features, _, encodes, inside, _⟩ := id last
        rcases encodes.isSetting.2 feature inside with ⟨name, bits, rfl⟩ | ⟨name, value, rfl⟩
        · exact TileSettings.getElem?_words_iff.mp ((contents.word tile name bits).mpr last)
        · exact TileSettings.getElem?_enums_iff.mp ((contents.enum tile name value).mpr last)
      exact each tile _ _ found
  · intro readable
    have deviceName : IsPlainName document.deviceName := by
      rw [contents.deviceName]
      exact isPlainName_variant db.variant
    refine ⟨deviceName, readable.part, fun tile slot feature found => ?_⟩
    have own := TileSettings.slot_of_feature?_eq_some found
    subst own
    cases feature with
    | arc sink source =>
      have last := (contents.arc tile sink source).mp (TileSettings.getElem?_arcs_iff.mpr found)
      exact readable.arc tile sink source last
    | word name bits =>
      have last := (contents.word tile name bits).mp (TileSettings.getElem?_words_iff.mpr found)
      exact readable.setting tile _ last
    | enum name value =>
      have last := (contents.enum tile name value).mp (TileSettings.getElem?_enums_iff.mpr found)
      exact readable.setting tile _ last
    | raw bit =>
      obtain ⟨base, registered, set⟩ :=
        (contents.raw tile bit).mp (TileSettings.mem_raws_iff.mpr found)
      exact ⟨isTileName_of_mem_baseEdits registered set, trivial⟩

/-- **A generated configuration is read back just when its names and values leave the layout of
the text alone.** -/
theorem ofText_toText_generated_iff {description : String}
    (described : Database.load description = .ok db) (made : (generate db design).2 = .ok document) :
    Document.ofText document.toText = .ok document ↔ IsReadable db design := by
  have contents := isConfiguration_of_generate (Database.isSound_of_load described) made
  rw [Document.ofText_toText_eq_self_iff, and_iff_left contents.settled_eq,
    isWritable_iff_isReadable contents]

theorem ofText_toText_routedSlice :
    ∃ db design document, Database.load twoRows.render = .ok db ∧
      Design.load db routedSlice.render = .ok design ∧
      (generate db design).2 = .ok document ∧ IsReadable db design ∧
      Document.ofText document.toText = .ok document := by
  have made : ((loadRendered twoRows routedSlice).bind fun (db, design) =>
      (generate db design).2.toOption.map fun document =>
        decide document.IsWritable) = some true := by decide +kernel
  obtain ⟨⟨db, design⟩, found, rest⟩ := Option.bind_eq_some_iff.mp made
  obtain ⟨document, ended, writable⟩ := Option.map_eq_some_iff.mp rest
  obtain ⟨described, listed⟩ := load_of_loadRendered found
  have generated := eq_ok_of_toOption ended
  have contents := isConfiguration_of_generate (Database.isSound_of_load described) generated
  have readable := (isWritable_iff_isReadable contents).mp (of_decide_eq_true writable)
  exact ⟨db, design, document, described, listed, generated, readable,
    (ofText_toText_generated_iff described generated).mpr readable⟩

/-- A design with a slice whose mode is the empty text. -/
def emptyMode : Json :=
  let bel := Json.object [("row", .integer 1), ("col", .integer 0), ("name", .text "SLICEA")]
  .object [("cells", .array [.object [("name", .text "lut"), ("type", .text "FACADE_SLICE"),
    ("bel", bel), ("params", .object [("MODE", .text "")])]])]

/-- **An empty value is not read back**: its line has a field too few. -/
theorem ofText_toText_ne_emptyMode :
    ∃ db design document, Database.load twoRows.render = .ok db ∧
      Design.load db emptyMode.render = .ok design ∧ (generate db design).2 = .ok document ∧
      Document.ofText document.toText ≠ .ok document := by
  have made : ((loadRendered twoRows emptyMode).bind fun (db, design) =>
      (generate db design).2.toOption.map fun document =>
        decide document.IsWritable) = some false := by decide +kernel
  obtain ⟨⟨db, design⟩, found, rest⟩ := Option.bind_eq_some_iff.mp made
  obtain ⟨document, ended, unwritable⟩ := Option.map_eq_some_iff.mp rest
  obtain ⟨described, listed⟩ := load_of_loadRendered found
  refine ⟨db, design, document, described, listed, eq_ok_of_toOption ended, fun read => ?_⟩
  exact of_decide_eq_false unwritable (Document.isWritable_of_ofText read)

end FabricConfig
