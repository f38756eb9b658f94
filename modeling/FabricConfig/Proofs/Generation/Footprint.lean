import FabricConfig.Generation.Arcs
import FabricConfig.Generation.Cells
import FabricConfig.Proofs.Device.Entries
import FabricConfig.Proofs.Document.LastEdit
import FabricConfig.Proofs.Generation.Plan
/-!
# What a stage touches

However a stage ends, it only adds to a document. The arcs change nothing but arcs and the cells
nothing but words and enumerated settings, in tiles of the database.

* `makesOnly_planArcs`, `makesOnly_planCells`: the edits of a stage.
* `Document.accumulates_applyAll`: such edits add to a document and take nothing away.
* `Document.settings_applyAll_of_isArc`, `Document.settings_applyAll_of_isSetting`: what they
  leave as it was.
-/

namespace FabricConfig

variable {db : Database} {design : Design} {cell : Cell} {edits : List Edit}

open Plan

/-! ### Tiles of the database -/

/-- Whether the database has a tile of this name. -/
def Database.HasTile (db : Database) (name : String) : Prop :=
  ∃ contents ∈ db.grid, ∃ tile ∈ contents.tiles, tile.name = name

theorem Contents.mem_tiles_of_tileOfKind? {contents : Contents} {kind : String} {tile : Tile}
    (found : contents.tileOfKind? kind = some tile) : tile ∈ contents.tiles :=
  Array.mem_of_find?_eq_some found

theorem Database.hasTile_of_tileAt {location : Location} {kind name : String}
    (found : db.tileAt location kind = .ok name) : db.HasTile name := by
  obtain ⟨contents, tile, held, ofKind, same⟩ := Database.tileAt_eq_ok_iff.mp found
  exact ⟨contents, Database.mem_grid_of_contents? held, tile,
    Contents.mem_tiles_of_tileOfKind? ofKind, same⟩

theorem Database.hasTile_of_tileOfKind {kind name : String}
    (found : db.tileOfKind kind = .ok name) : db.HasTile name := by
  unfold Database.tileOfKind at found
  split at found
  · rename_i tile first
    cases found
    obtain ⟨contents, inside, ofKind⟩ := Array.exists_of_findSome?_eq_some first
    exact ⟨contents, inside, tile, Contents.mem_tiles_of_tileOfKind? ofKind, rfl⟩
  · cases found

theorem Database.hasTile_of_pipTile {pip : PipId} {name : String}
    (found : db.pipTile pip = .ok (.ok name)) : db.HasTile name := by
  obtain ⟨entry, _, same⟩ := bind_eq_ok_iff.mp found
  exact hasTile_of_tileAt (Except.ok.inj same)

/-! ### The edits of a stage -/

/-- The edits of arcs. -/
inductive Edit.IsArc (db : Database) : Edit → Prop
  | arc {tile sink source : String} (held : db.HasTile tile) : IsArc db (.set tile (.arc sink source))

/-- The edits of cells. -/
inductive Edit.IsSetting (db : Database) : Edit → Prop
  | create {tile : String} (held : db.HasTile tile) : IsSetting db (.create tile)
  | word {tile name : String} {bits : Bits} (held : db.HasTile tile) :
      IsSetting db (.set tile (.word name bits))
  | enum {tile name value : String} (held : db.HasTile tile) :
      IsSetting db (.set tile (.enum name value))

theorem Edit.IsArc.hasTile {edit : Edit} (arc : edit.IsArc db) : db.HasTile edit.tile := by
  cases arc with
  | arc held => exact held

theorem Edit.IsSetting.hasTile {edit : Edit} (setting : edit.IsSetting db) :
    db.HasTile edit.tile := by
  cases setting with
  | create held => exact held
  | word held => exact held
  | enum held => exact held

theorem makesOnly_planArc (db : Database) (pip : PipId) :
    (planArc db pip).MakesOnly (Edit.IsArc db) := by
  unfold planArc
  refine (asks_ofLookup _).makesOnly_bind fun lookup found => ?_
  refine (asks_ofTile lookup).makesOnly_bind fun tile inTile => ?_
  refine (asks_ofLookup _).makesOnly_bind fun source _ => ?_
  refine (asks_ofLookup _).makesOnly_bind fun sink _ => ?_
  exact makesOnly_edit (.arc (Database.hasTile_of_pipTile (inTile ▸ found)))

/-- **The arcs make only arcs**, however they end. -/
theorem makesOnly_planArcs (db : Database) (design : Design) :
    (planArcs db design).MakesOnly (Edit.IsArc db) :=
  makesOnly_map (makesOnly_all_map fun pip _ => makesOnly_planArc db pip) _

theorem Slice.makesOnly_planWord {tile site : String} (held : db.HasTile tile)
    (word : String × String) :
    (Slice.planWord design cell tile site word).MakesOnly (Edit.IsSetting db) :=
  (asks_ofResult _).makesOnly_bind fun _ _ => makesOnly_edit (.word held)

theorem Slice.makesOnly_plan (db : Database) (design : Design) (cell : Cell) (bel : BelId) :
    (Slice.encoder.plan db design cell bel).MakesOnly (Edit.IsSetting db) := by
  refine (asks_ofTile _).makesOnly_bind fun tile inTile => ?_
  have held := Database.hasTile_of_tileAt inTile
  refine (asks_ofLookup _).makesOnly_bind fun site _ => ?_
  refine (asks_ofResult _).makesOnly_bind fun index _ => ?_
  refine makesOnly_bind (makesOnly_edit (.create held)) fun _ _ => ?_
  refine makesOnly_bind (makesOnly_all_map fun word _ => Slice.makesOnly_planWord held word)
    fun _ _ => ?_
  refine makesOnly_bind (makesOnly_all_map fun setting _ => makesOnly_edit ?_)
    fun _ _ => makesOnly_pure _
  exact .enum held

theorem Pad.makesOnly_plan (db : Database) (design : Design) (cell : Cell) (bel : BelId) :
    (Pad.encoder.plan db design cell bel).MakesOnly (Edit.IsSetting db) := by
  refine (asks_ofLookup _).makesOnly_bind fun site _ => ?_
  refine (asks_ofResult _).makesOnly_bind fun index _ => ?_
  refine (asks_ofResult _).makesOnly_bind fun kind _ => ?_
  refine (asks_ofTile _).makesOnly_bind fun tile inTile => ?_
  exact makesOnly_edit (.enum (Database.hasTile_of_tileAt inTile))

theorem Oscillator.makesOnly_plan (db : Database) (design : Design) (cell : Cell) (bel : BelId) :
    (Oscillator.encoder.plan db design cell bel).MakesOnly (Edit.IsSetting db) := by
  refine (asks_ofTile _).makesOnly_bind fun tile inTile => ?_
  have held := Database.hasTile_of_tileOfKind inTile
  exact makesOnly_bind (makesOnly_edit (.enum held)) fun _ _ => makesOnly_edit (.enum held)

theorem Encoder.makesOnly_plan {encoder : Encoder} (registered : encoder ∈ Encoder.registered)
    (db : Database) (design : Design) (cell : Cell) (bel : BelId) :
    (encoder.plan db design cell bel).MakesOnly (Edit.IsSetting db) := by
  rcases Encoder.mem_registered_iff.mp registered with rfl | rfl | rfl
  · exact Slice.makesOnly_plan db design cell bel
  · exact Pad.makesOnly_plan db design cell bel
  · exact Oscillator.makesOnly_plan db design cell bel

theorem makesOnly_planCell (db : Database) (design : Design) (cell : Cell) :
    (planCell db design cell).MakesOnly (Edit.IsSetting db) := by
  unfold planCell
  cases cell.bel with
  | none =>
    refine (asks_ofLookup _).makesOnly_bind fun name _ => ?_
    exact makesOnly_bind (makesOnly_report _) fun _ _ => makesOnly_pure _
  | some bel =>
    refine (asks_ofLookup _).makesOnly_bind fun kind _ => ?_
    cases found : Encoder.forKind? kind with
    | none => exact makesOnly_pure _
    | some encoder =>
      have registered := (Encoder.forKind?_eq_some found).1
      exact makesOnly_bind (Encoder.makesOnly_plan registered db design cell bel)
        fun _ _ => makesOnly_pure _

/-- **The cells make only words and enumerated settings**, and tiles for them, however they end. -/
theorem makesOnly_planCells (db : Database) (design : Design) :
    (planCells db design).MakesOnly (Edit.IsSetting db) := by
  unfold planCells
  refine makesOnly_bind (makesOnly_all_map fun cell _ => makesOnly_planCell db design cell)
    fun fates _ => ?_
  exact makesOnly_bind (makesOnly_all_map fun kind _ => makesOnly_report _)
    fun _ _ => makesOnly_pure _

/-! ### What edits add to a document -/

namespace Document

variable {before after document : Document}

/-- A document has only been added to: all tiles and keys are still there, and new tiles are named
as tiles of the database are. -/
structure Accumulates (db : Database) (before after : Document) : Prop where
  deviceName : after.deviceName = before.deviceName
  metadata : after.metadata = before.metadata
  tiles : ∀ tile ∈ before.tiles, tile ∈ after.tiles
  keys : ∀ tile slot, ((before.settings tile).feature? slot).isSome →
    ((after.settings tile).feature? slot).isSome
  created : ∀ tile ∈ after.tiles, tile ∉ before.tiles → db.HasTile tile

/-- **Edits in tiles of the database only add to a document.** -/
theorem accumulates_applyAll (held : ∀ edit ∈ edits, db.HasTile edit.tile) (document : Document) :
    Accumulates db document (document.applyAll edits) where
  deviceName := deviceName_applyAll document edits
  metadata := metadata_applyAll document edits
  tiles tile member := (mem_tiles_applyAll document edits tile).mpr (.inr member)
  keys tile slot present := by
    rw [feature?_applyAll, Option.isSome_or, present, Bool.or_true]
  created tile member new := by
    rcases (mem_tiles_applyAll document edits tile).mp member with ⟨edit, made, rfl⟩ | old
    · exact held edit made
    · exact absurd old new

/-- A slot that no edit sets keeps what it holds. -/
theorem feature?_applyAll_of_foreign {slot : Slot} {tile : String}
    (foreign : ∀ feature, .set tile feature ∈ edits → feature.slot ≠ slot) (document : Document) :
    ((document.applyAll edits).settings tile).feature? slot =
      (document.settings tile).feature? slot := by
  rw [feature?_applyAll, filterMap_feature?_eq_nil_iff.mpr foreign, List.getLast?_nil,
    Option.none_or]

/-- Arcs leave the words, the enumerated settings and the raw bits of every tile as they are. -/
theorem settings_applyAll_of_isArc (only : ∀ edit ∈ edits, edit.IsArc db) (document : Document)
    (tile : String) :
    ((document.applyAll edits).settings tile).words = (document.settings tile).words ∧
      ((document.applyAll edits).settings tile).enums = (document.settings tile).enums ∧
      ((document.applyAll edits).settings tile).raws = (document.settings tile).raws := by
  have kept (slot : Slot) (other : ∀ sink, Slot.arc sink ≠ slot) :
      ((document.applyAll edits).settings tile).feature? slot =
        (document.settings tile).feature? slot := by
    refine feature?_applyAll_of_foreign (fun feature member => ?_) document
    cases only _ member with
    | arc held => exact other _
  exact ⟨TileSettings.words_eq_of_feature? fun name => kept (.word name) nofun,
    TileSettings.enums_eq_of_feature? fun name => kept (.enum name) nofun,
    TileSettings.raws_eq_of_feature? fun bit => kept (.raw bit) nofun⟩

/-- Settings leave the arcs and the raw bits of every tile as they are. -/
theorem settings_applyAll_of_isSetting (only : ∀ edit ∈ edits, edit.IsSetting db)
    (document : Document) (tile : String) :
    ((document.applyAll edits).settings tile).arcs = (document.settings tile).arcs ∧
      ((document.applyAll edits).settings tile).raws = (document.settings tile).raws := by
  have kept (slot : Slot) (noWord : ∀ name, Slot.word name ≠ slot)
      (noEnum : ∀ name, Slot.enum name ≠ slot) :
      ((document.applyAll edits).settings tile).feature? slot =
        (document.settings tile).feature? slot := by
    refine feature?_applyAll_of_foreign (fun feature member => ?_) document
    cases only _ member with
    | word held => exact noWord _
    | enum held => exact noEnum _
  exact ⟨TileSettings.arcs_eq_of_feature? fun sink => kept (.arc sink) nofun nofun,
    TileSettings.raws_eq_of_feature? fun bit => kept (.raw bit) nofun nofun⟩

end Document

end FabricConfig
