import FabricConfig.Document.Basic
import FabricConfig.Json.Decode
import FabricConfig.Json.Printer
/-!
# Documents as JSON

Every field is written and must be given; maps are objects, a word is an array of truth values,
and the raw bits of a tile are an array in ascending order.
-/

namespace FabricConfig

/-- A map as an object, its keys in order. -/
def Json.ofMap {α : Type} (encode : α → Json) (map : Std.ExtTreeMap String α) : Json :=
  .object (map.toList.map fun (key, value) => (key, encode value))

/-- Reads a map from an object. -/
def Json.asMap? {α : Type} (decode : Json → Option α) (json : Json) :
    Option (Std.ExtTreeMap String α) :=
  (json.asPairs? decode).map fun pairs => Std.ExtTreeMap.ofList pairs

namespace RawBit

/-- A raw bit as JSON. -/
def toJson (raw : RawBit) : Json :=
  .object [("frame", .integer raw.frame.toNat), ("bit", .integer raw.bit.toNat)]

/-- Reads a raw bit from JSON. -/
def ofJson? (json : Json) : Option RawBit := do
  let given ← json.asRecord? ["frame", "bit"]
  let frame ← given.required? "frame" Json.asUInt32?
  let bit ← given.required? "bit" Json.asUInt32?
  return ⟨frame, bit⟩

end RawBit

namespace TileSettings

/-- The settings of a tile as JSON. -/
def toJson (settings : TileSettings) : Json :=
  .object
    [("arcs", .ofMap .text settings.arcs),
      ("words", .ofMap (fun bits => .array (bits.map .bool)) settings.words),
      ("enums", .ofMap .text settings.enums),
      ("unknowns", .array (settings.raws.toList.map RawBit.toJson))]

/-- Reads the settings of a tile from JSON. -/
def ofJson? (json : Json) : Option TileSettings := do
  let given ← json.asRecord? ["arcs", "words", "enums", "unknowns"]
  let arcs ← given.required? "arcs" (Json.asMap? Json.asText?)
  let words ← given.required? "words" (Json.asMap? (Json.asList? Json.asBool?))
  let enums ← given.required? "enums" (Json.asMap? Json.asText?)
  let raws ← given.required? "unknowns" (Json.asList? RawBit.ofJson?)
  return ⟨arcs, words, enums, Std.ExtTreeSet.ofList raws⟩

end TileSettings

namespace Document

/-- A document as JSON. -/
def toJson (document : Document) : Json :=
  .object
    [("device_name", .text document.deviceName),
      ("metadata", .array (document.metadata.map .text)),
      ("tiles", .ofMap TileSettings.toJson document.tiles)]

/-- Reads a document from JSON. -/
def ofJson? (json : Json) : Option Document := do
  let given ← json.asRecord? ["device_name", "metadata", "tiles"]
  let deviceName ← given.required? "device_name" Json.asText?
  let metadata ← given.required? "metadata" (Json.asList? Json.asText?)
  let tiles ← given.required? "tiles" (Json.asMap? TileSettings.ofJson?)
  return ⟨deviceName, metadata, tiles⟩

end Document

end FabricConfig
