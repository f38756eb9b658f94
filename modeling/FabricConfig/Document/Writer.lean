import FabricConfig.Document.Basic
import FabricConfig.Text.Lines
import FabricConfig.Text.Numeral
/-!
# Writing a document as text

The text has one line per entry: the device, the comments, then each tile in which some feature is
set, with its arcs, words, enumerated settings and raw bits. Words are written with the most
significant bit first. A blank line ends the device's line, the comments and each tile.
-/

namespace FabricConfig

/-- A raw bit, written as `F<frame>B<bit>`. -/
def RawBit.text (raw : RawBit) : List Char :=
  'F' :: Text.decimal raw.frame.toNat ++ 'B' :: Text.decimal raw.bit.toNat

/-- The line that sets a feature. -/
def Feature.line : Feature → List Char
  | .arc sink source => "arc: ".toList ++ sink.toList ++ ' ' :: source.toList
  | .word name [] => "word: ".toList ++ name.toList
  | .word name (bit :: bits) =>
    "word: ".toList ++ name.toList ++ ' ' :: (Bits.digits (bit :: bits)).reverse
  | .enum name value => "enum: ".toList ++ name.toList ++ ' ' :: value.toList
  | .raw bit => "unknown: ".toList ++ bit.text

/-- The features of a tile in the order in which they are written. -/
def TileSettings.features (settings : TileSettings) : List Feature :=
  settings.arcs.toList.map (fun (sink, source) => .arc sink source) ++
    settings.words.toList.map (fun (name, bits) => .word name bits) ++
    settings.enums.toList.map (fun (name, value) => .enum name value) ++
    settings.raws.toList.map .raw

/-- The lines of a tile's features. -/
def TileSettings.lines (settings : TileSettings) : List (List Char) :=
  settings.features.map Feature.line

/-- The text of a tile's features. -/
def TileSettings.toText (settings : TileSettings) : String :=
  String.ofList (Text.unlines settings.lines)

namespace Document

/-- The lines of one tile. -/
def tileLines (name : String) (settings : TileSettings) : List (List Char) :=
  (".tile ".toList ++ name.toList) :: settings.lines ++ [[]]

/-- The lines before the tiles. -/
def headLines (document : Document) : List (List Char) :=
  (".device ".toList ++ document.deviceName.toList) :: [] ::
    document.metadata.map (".comment ".toList ++ ·.toList) ++ [[]]

/-- The lines of a document. -/
def lines (document : Document) : List (List Char) :=
  document.headLines ++
    document.settledTiles.flatMap fun (name, settings) => tileLines name settings

/-- The text of a document. -/
def toText (document : Document) : String := String.ofList (Text.unlines document.lines)

end Document

end FabricConfig
