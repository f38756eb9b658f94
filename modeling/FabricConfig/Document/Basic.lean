import FabricConfig.Bits
import Std.Data.ExtTreeMap
import Std.Data.ExtTreeSet
/-!
# Configuration documents

A document names the device, carries comment lines, and lists for each tile the features set in it:
arcs by their sink, words and enumerated settings by their name, and raw bits. Everything is kept
in the order of its key, so that equal contents mean equal documents.

A document is changed by edits, each of which creates a tile or sets one feature in it.

* `getElem?_modifyTile_self`, `getElem?_modifyTile_of_ne`: an edit reaches one tile and no other.
* `applyAll_append`: edits made in two lots are made in turn.
-/

namespace FabricConfig

/-- A bit without a name, by its place in a tile. -/
structure RawBit where
  frame : UInt32
  bit : UInt32
deriving DecidableEq, Repr, Inhabited

namespace RawBit

instance : Ord RawBit := ⟨compareLex (compareOn RawBit.frame) (compareOn RawBit.bit)⟩

instance : Std.TransOrd RawBit :=
  inferInstanceAs (Std.TransCmp (compareLex (compareOn RawBit.frame) (compareOn RawBit.bit)))

instance : Std.LawfulEqOrd RawBit where
  eq_of_compare {first second} same := by
    have both := Ordering.then_eq_eq.mp
      (show (compare first.frame second.frame).then (compare first.bit second.bit) = .eq from same)
    rcases first with ⟨frame, bit⟩
    rcases second with ⟨frame', bit'⟩
    simp only [Std.LawfulEqOrd.compare_eq_iff_eq] at both
    simp [both]

end RawBit

/-- A feature that can be set in a tile. -/
inductive Feature where
  /-- The wire `sink` is driven by the wire `source`. -/
  | arc (sink source : String)
  | word (name : String) (bits : Bits)
  | enum (name value : String)
  | raw (bit : RawBit)
deriving DecidableEq

/-- The features set in one tile. -/
structure TileSettings where
  /-- The source of each driven sink. -/
  arcs : Std.ExtTreeMap String String := ∅
  words : Std.ExtTreeMap String Bits := ∅
  enums : Std.ExtTreeMap String String := ∅
  raws : Std.ExtTreeSet RawBit := ∅
deriving DecidableEq, Inhabited

namespace TileSettings

/-- Sets a feature, in the place of an earlier one with its key. -/
def set (settings : TileSettings) : Feature → TileSettings
  | .arc sink source => { settings with arcs := settings.arcs.insert sink source }
  | .word name bits => { settings with words := settings.words.insert name bits }
  | .enum name value => { settings with enums := settings.enums.insert name value }
  | .raw bit => { settings with raws := settings.raws.insert bit }

/-- Whether no feature is set. -/
def isEmpty (settings : TileSettings) : Bool :=
  settings.arcs.isEmpty && settings.words.isEmpty && settings.enums.isEmpty &&
    settings.raws.isEmpty

end TileSettings

/-- A change to a document. -/
inductive Edit where
  /-- Creates a tile, if there is none of the name. -/
  | create (tile : String)
  /-- Sets a feature in a tile, which is created if there is none of the name. -/
  | set (tile : String) (feature : Feature)
deriving DecidableEq

/-- A configuration document. -/
structure Document where
  deviceName : String := ""
  /-- The comment lines, in order. -/
  metadata : List String := []
  tiles : Std.ExtTreeMap String TileSettings := ∅
deriving DecidableEq, Inhabited

namespace Document

/-- Changes the settings of a tile, which are empty if there is no such tile. -/
def modifyTile (document : Document) (tile : String) (change : TileSettings → TileSettings) :
    Document :=
  { document with
    tiles := document.tiles.alter tile fun settings => some (change (settings.getD {})) }

/-- The tile whose settings are changed. -/
theorem getElem?_modifyTile_self (document : Document) (tile : String)
    (change : TileSettings → TileSettings) :
    (document.modifyTile tile change).tiles[tile]? =
      some (change ((document.tiles[tile]?).getD {})) := by
  simp [modifyTile]

/-- All other tiles stay as they are. -/
theorem getElem?_modifyTile_of_ne (document : Document) {tile other : String}
    (change : TileSettings → TileSettings) (different : tile ≠ other) :
    (document.modifyTile tile change).tiles[other]? = document.tiles[other]? := by
  rw [modifyTile, Std.ExtTreeMap.getElem?_alter,
    if_neg (mt Std.LawfulEqOrd.compare_eq_iff_eq.mp different)]

/-- Makes one edit. -/
def apply (document : Document) : Edit → Document
  | .create tile => document.modifyTile tile id
  | .set tile feature => document.modifyTile tile (·.set feature)

/-- Makes edits in turn. -/
def applyAll (document : Document) (edits : List Edit) : Document := edits.foldl apply document

/-- Edits made in two lots are made in turn. -/
theorem applyAll_append (document : Document) (first second : List Edit) :
    document.applyAll (first ++ second) = (document.applyAll first).applyAll second :=
  List.foldl_append

/-- Adds a comment line after the others. -/
def comment (document : Document) (line : String) : Document :=
  { document with metadata := document.metadata ++ [line] }

/-- The tiles in which some feature is set. -/
def settledTiles (document : Document) : List (String × TileSettings) :=
  document.tiles.toList.filter fun (_, settings) => !settings.isEmpty

/-- The number of tiles in which some feature is set. -/
def tileCount (document : Document) : Nat := document.settledTiles.length

/-- The number of arcs in all tiles. -/
def arcCount (document : Document) : Nat :=
  document.tiles.toList.foldr (fun (_, settings) count => settings.arcs.size + count) 0

/-- The number of words and enumerated settings in all tiles. -/
def settingCount (document : Document) : Nat :=
  document.tiles.toList.foldr
    (fun (_, settings) count => settings.words.size + settings.enums.size + count) 0

end Document

end FabricConfig
