import FabricConfig.Design.Property
import FabricConfig.Device.Location
import FabricConfig.Document.Json
import FabricConfig.Proofs.Json.Codec
import FabricConfig.Proofs.Maps
/-!
# Documents read back from JSON

Each type that stands in a document has a codec, made of the codecs of its fields.

* `IsCodec.map`: a map, whose keys are texts.
* `Document.isCodec`, `Property.isCodec`, `PipId.isCodec`: the types that are kept as JSON.
* `parse?_render_toJson`: each of their values is read from the text that is written for it.
-/

namespace FabricConfig

open Json

theorem Json.IsCodec.map {α : Type} {encode : α → Json} {decode : Json → Option α}
    (codec : IsCodec encode decode) : IsCodec (ofMap encode) (asMap? decode) := by
  refine ⟨fun map => .object ?_, fun map => ?_⟩
  · exact List.forall_mem_map.mpr fun entry _ => codec.plain entry.2
  · have pairs : (ofMap encode map).asPairs? decode = some map.toList :=
      mapM_map_eq_some (fun entry : String × α => (entry.1, encode entry.2))
        (fun field => (decode field.2).map (field.1, ·))
        (fun entry => by rw [codec.inverts]; rfl) map.toList
    rw [asMap?, pairs, Option.map_some, ofList_toList]

theorem RawBit.isCodec : IsCodec RawBit.toJson RawBit.ofJson? := by
  refine ⟨fun raw => .object ?_, fun raw => ?_⟩
  · simp only [List.forall_mem_cons]
    exact ⟨.integer _, .integer _, nofun⟩
  · refine (bind_of_eq_some rfl).trans ?_
    refine (Record.required?_bind rfl (asUInt32?_toNat raw.frame)).trans ?_
    exact Record.required?_bind rfl (asUInt32?_toNat raw.bit)

theorem TileSettings.isCodec : IsCodec TileSettings.toJson TileSettings.ofJson? := by
  have texts := isCodec_text.map
  have words := isCodec_bool.list.map
  have raws := RawBit.isCodec.list
  refine ⟨fun settings => .object ?_, fun settings => ?_⟩
  · simp only [List.forall_mem_cons]
    exact ⟨texts.plain settings.arcs, words.plain settings.words, texts.plain settings.enums,
      raws.plain settings.raws.toList, nofun⟩
  · refine (bind_of_eq_some rfl).trans ?_
    refine (Record.required?_bind rfl (texts.inverts settings.arcs)).trans ?_
    refine (Record.required?_bind rfl (words.inverts settings.words)).trans ?_
    refine (Record.required?_bind rfl (texts.inverts settings.enums)).trans ?_
    refine (Record.required?_bind rfl (raws.inverts settings.raws.toList)).trans ?_
    rw [ofItems_toList]
    rfl

theorem Document.isCodec : IsCodec Document.toJson Document.ofJson? := by
  have lines := isCodec_text.list
  have tiles := TileSettings.isCodec.map
  refine ⟨fun document => .object ?_, fun document => ?_⟩
  · simp only [List.forall_mem_cons]
    exact ⟨.text _, lines.plain document.metadata, tiles.plain document.tiles, nofun⟩
  · refine (bind_of_eq_some rfl).trans ?_
    refine (Record.required?_bind rfl (isCodec_text.inverts document.deviceName)).trans ?_
    refine (Record.required?_bind rfl (lines.inverts document.metadata)).trans ?_
    exact Record.required?_bind rfl (tiles.inverts document.tiles)

theorem Property.isCodec : IsCodec Property.toJson Property.ofJson? := by
  refine ⟨fun property => ?_, fun property => ?_⟩
  · cases property with
    | integer value => exact .integer _
    | text value => exact .text value
  · cases property with
    | integer value => rw [toJson, ofJson?, asInt64?_toInt]
    | text value => rfl

theorem Location.isCodec : IsCodec Location.toJson Location.ofJson? := by
  refine ⟨fun location => .object ?_, fun location => ?_⟩
  · simp only [List.forall_mem_cons]
    exact ⟨.integer _, .integer _, nofun⟩
  · refine (bind_of_eq_some rfl).trans ?_
    refine (Record.required?_bind rfl (asUInt32?_toNat location.row)).trans ?_
    exact Record.required?_bind rfl (asUInt32?_toNat location.col)

theorem PipId.isCodec : IsCodec PipId.toJson PipId.ofJson? := by
  refine ⟨fun pip => .object ?_, fun pip => ?_⟩
  · simp only [List.forall_mem_cons]
    exact ⟨Location.isCodec.plain pip.location, .integer _, nofun⟩
  · refine (bind_of_eq_some rfl).trans ?_
    refine (Record.required?_bind rfl (Location.isCodec.inverts pip.location)).trans ?_
    exact Record.required?_bind rfl (asUInt32?_toNat pip.index)

/-- **Documents, properties and PIPs survive JSON**, whatever texts, numbers and bits they hold. A
property keeps its kind: a text of digits is not read as a number. -/
theorem parse?_render_toJson :
    (∀ document : Document,
        (parse? document.toJson.render).bind Document.ofJson? = some document) ∧
      (∀ property : Property,
        (parse? property.toJson.render).bind Property.ofJson? = some property) ∧
      ∀ pip : PipId, (parse? pip.toJson.render).bind PipId.ofJson? = some pip :=
  ⟨Document.isCodec.parse?_render, Property.isCodec.parse?_render, PipId.isCodec.parse?_render⟩

end FabricConfig
