import FabricConfig.Generation.Basic
import FabricConfig.Json.Printer
import FabricConfig.Proofs.Design.Soundness
import FabricConfig.Proofs.Device.Soundness
import FabricConfig.Proofs.Generation.Plan
import FabricConfig.Proofs.Generation.Setting
import FabricConfig.Proofs.Generation.WireName
import Mathlib.Algebra.Group.Int.Defs
import Mathlib.Algebra.Group.Nat.Defs
/-!
# Safety of generation

For a database and a design that are loaded, generation meets no fault: every look-up finds
something, and coordinates are computed without a wrap.

* `isSafe_planArc`, `isSafe_planCell`: one PIP and one cell.
* `isSafe_planDesign`: a whole design.
* `generate_inRange_and_outcome`: all look-ups are in range, and the outcome is a document or an
  error.
-/

namespace FabricConfig

variable {db : Database} {design : Design}

/-! ### Looking up names -/

theorem Design.exists_name {id : NameId} (has : design.names.Has id) :
    ∃ name, design.name id = .ok name := by
  obtain ⟨name, found⟩ := has
  refine ⟨name, ?_⟩
  rw [Design.name, found]

/-- A wire of the grid has a name as seen from anywhere. -/
theorem Database.exists_relativeWireName {wire : WireId} (there : db.HasWire wire)
    (origin : Location) : ∃ name, db.relativeWireName origin wire = .ok name := by
  obtain ⟨base, named⟩ := hasWire_iff_exists_wireName.mp there
  refine ⟨relativeName origin wire.location base, ?_⟩
  rw [Database.relativeWireName, named]
  rfl

/-! ### Plans -/

/-- **The plan of a PIP's arc meets no fault.** -/
theorem isSafe_planArc (sound : db.IsSound) {pip : PipId} (present : db.hasPip pip = true) :
    (planArc db pip).IsSafe := by
  obtain ⟨entry, found⟩ := Database.hasPip_iff_exists_pip.mp present
  obtain ⟨source, sink, sourceThere, atSource, sinkThere, atSink⟩ := sound.exists_ends found
  have sourceWire := (Database.resolve?_eq_some_iff.mp sourceThere).2.2
  have sinkWire := (Database.resolve?_eq_some_iff.mp sinkThere).2.2
  unfold planArc
  refine Plan.isSafe_bind (Plan.isSafe_ofLookup ?_) fun _ _ => ?_
  · refine ⟨db.tileAt pip.location entry.tileKind, ?_⟩
    rw [Database.pipTile, found]
    rfl
  refine Plan.isSafe_bind (Plan.isSafe_ofTile _) fun _ _ => ?_
  refine Plan.isSafe_bind (Plan.isSafe_ofLookup ?_) fun _ _ => ?_
  · rw [atSource]
    exact Database.exists_relativeWireName sourceWire pip.location
  refine Plan.isSafe_bind (Plan.isSafe_ofLookup ?_) fun _ _ => ?_
  · rw [atSink]
    exact Database.exists_relativeWireName sinkWire pip.location
  exact Plan.isSafe_edit _

/-- The plan of a placed cell meets no fault, whichever encoder makes it. -/
theorem Encoder.isSafe_plan {encoder : Encoder} (registered : encoder ∈ Encoder.registered)
    {bel : BelId} (named : ∃ site, db.belName bel = .ok site) (cell : Cell) :
    (encoder.plan db design cell bel).IsSafe := by
  rcases Encoder.mem_registered_iff.mp registered with rfl | rfl | rfl
  · refine Plan.isSafe_bind (Plan.isSafe_ofTile _) fun _ _ => ?_
    refine Plan.isSafe_bind (Plan.isSafe_ofLookup named) fun _ _ => ?_
    refine Plan.isSafe_bind (Plan.isSafe_ofResult _) fun _ _ => ?_
    refine Plan.isSafe_bind (Plan.isSafe_edit _) fun _ _ => ?_
    refine Plan.isSafe_bind (Plan.isSafe_all fun plan member => ?_) fun _ _ => ?_
    · obtain ⟨word, _, rfl⟩ := List.mem_map.mp member
      exact Plan.isSafe_bind (Plan.isSafe_ofResult _) fun _ _ => Plan.isSafe_edit _
    refine Plan.isSafe_bind (Plan.isSafe_all fun plan member => ?_) fun _ _ => Plan.isSafe_pure _
    obtain ⟨setting, _, rfl⟩ := List.mem_map.mp member
    exact Plan.isSafe_edit _
  · refine Plan.isSafe_bind (Plan.isSafe_ofLookup named) fun site _ => ?_
    refine Plan.isSafe_bind (Plan.isSafe_ofResult _) fun _ _ => ?_
    refine Plan.isSafe_bind (Plan.isSafe_ofResult _) fun _ _ => ?_
    exact Plan.isSafe_bind (Plan.isSafe_ofTile _) fun _ _ => Plan.isSafe_edit _
  · refine Plan.isSafe_bind (Plan.isSafe_ofTile _) fun _ _ => ?_
    exact Plan.isSafe_bind (Plan.isSafe_edit _) fun _ _ => Plan.isSafe_edit _

/-- **The plan of a cell meets no fault.** -/
theorem isSafe_planCell {cell : Cell} (sound : cell.IsSound db design.names) :
    (planCell db design cell).IsSafe := by
  unfold planCell
  cases placed : cell.bel with
  | none =>
    refine Plan.isSafe_bind (Plan.isSafe_ofLookup (Design.exists_name sound.name)) fun _ _ => ?_
    exact Plan.isSafe_bind (Plan.isSafe_report _) fun _ _ => Plan.isSafe_pure _
  | some bel =>
    refine Plan.isSafe_bind (Plan.isSafe_ofLookup (Design.exists_name sound.kind)) fun kind _ => ?_
    cases known : Encoder.forKind? kind with
    | none => exact Plan.isSafe_pure _
    | some encoder =>
      have registered := (Encoder.forKind?_eq_some known).1
      exact Plan.isSafe_bind (Encoder.isSafe_plan registered (sound.bel bel placed) cell)
        fun _ _ => Plan.isSafe_pure _

/-- **The plan of a design meets no fault.** -/
theorem isSafe_planDesign (sound : db.IsSound) (designSound : design.IsSound db) :
    (planDesign db design).IsSafe := by
  refine Plan.isSafe_bind (Plan.isSafe_map (Plan.isSafe_all fun plan member => ?_) _) fun _ _ => ?_
  · obtain ⟨pip, needed, rfl⟩ := List.mem_map.mp member
    have listed := (List.mem_filter.mp needed).1
    exact isSafe_planArc sound ((Database.mem_pips_iff sound.small).mp listed)
  refine Plan.isSafe_bind ?_ fun _ _ => Plan.isSafe_pure _
  refine Plan.isSafe_bind (Plan.isSafe_all fun plan member => ?_) fun _ _ => ?_
  · obtain ⟨cell, inside, rfl⟩ := List.mem_map.mp member
    exact isSafe_planCell (designSound.cells cell (Array.mem_toList_iff.mp inside))
  refine Plan.isSafe_bind (Plan.isSafe_all fun plan member => ?_) fun _ _ => Plan.isSafe_pure _
  obtain ⟨pair, _, rfl⟩ := List.mem_map.mp member
  exact Plan.isSafe_report _

/-! ### Ranges -/

/-- A wire of the grid at the exact distance that a PIP names from its location. -/
structure Database.IsEnd (db : Database) (location : Location) (relative : RelativeWire)
    (wire : WireId) : Prop where
  row : (wire.location.row.toNat : Int) = location.row.toNat + relative.rows.toInt
  col : (wire.location.col.toNat : Int) = location.col.toNat + relative.cols.toInt
  index : wire.index = relative.index
  there : db.HasWire wire

theorem Database.isEnd_of_resolve? {location : Location} {relative : RelativeWire} {wire : WireId}
    (resolved : db.resolve? location relative = some wire) : db.IsEnd location relative wire := by
  obtain ⟨reached, sameIndex, there⟩ := resolve?_eq_some_iff.mp resolved
  obtain ⟨row, col⟩ := Location.offset?_eq_some_iff.mp reached
  exact ⟨row, col, sameIndex, there⟩

/-- What generation looks up is there, and what it computes is in the range of its numbers. -/
structure LookupsInRange (db : Database) (design : Design) : Prop where
  /-- A slot has 32 bits, and is divided by the columns only where there are some. -/
  slots : ∀ slot < db.grid.size, slot < UInt32.size ∧ 0 < db.cols.toNat
  listedPips : ∀ pip ∈ db.pips, ∃ entry, db.pip pip = .ok entry
  boundPips : ∀ pip net, design.boundNet? pip = some net →
    ∃ entry source sink, db.pip pip = .ok entry ∧
      db.pipSource pip = .ok source ∧ db.IsEnd pip.location entry.source source ∧
      db.pipSink pip = .ok sink ∧ db.IsEnd pip.location entry.sink sink
  /-- The site of a placed cell has a name, and both its coordinates have a successor. -/
  bels : ∀ cell ∈ design.cells, ∀ bel, cell.bel = some bel →
    (∃ site, db.belName bel = .ok site) ∧
      bel.location.row.toNat + 1 < UInt32.size ∧ bel.location.col.toNat + 1 < UInt32.size
  cellNames : ∀ cell ∈ design.cells, ∀ id, id = cell.name ∨ id = cell.kind ∨
    id ∈ cell.parameters ∨ id ∈ cell.attributes → ∃ name, design.name id = .ok name
  netNames : ∀ net ∈ design.nets, ∃ name, design.name net.name = .ok name
  /-- The lesser coordinate is subtracted from the greater one. -/
  distances : ∀ forward backward origin target,
    distanceText forward backward origin target =
      if origin.toNat < target.toNat then
        forward :: Text.decimal (target.toNat - origin.toNat)
      else if target.toNat < origin.toNat then
        backward :: Text.decimal (origin.toNat - target.toNat)
      else []
  /-- The distance of a letter from `A` has 32 bits and a sign. -/
  letters : ∀ site lead distance, siteIndex site lead = .error (.siteOutOfRange site distance) →
    -2 ^ 31 ≤ distance ∧ distance < 2 ^ 31

theorem siteOutOfRange_bounds {site lead : String} {distance : Int}
    (failed : siteIndex site lead = .error (.siteOutOfRange site distance)) :
    -2 ^ 31 ≤ distance ∧ distance < 2 ^ 31 := by
  cases siteIndex_eq_error_iff.mp failed with
  | foreign starts unlisted =>
    rename_i letter rest
    have scalar : letter.toNat < 1114112 := by
      rcases letter.valid with small | ⟨_, large⟩
      · exact Nat.lt_trans small (by decide)
      · exact large
    have first : 'A'.toNat = 65 := rfl
    omega

/-- **Sound data keep all look-ups in range.** -/
theorem lookupsInRange (sound : db.IsSound) (designSound : design.IsSound db) :
    LookupsInRange db design where
  slots slot within :=
    ⟨Nat.lt_of_lt_of_le within sound.small, (Database.div_mod_lt_of_slot_lt within).1⟩
  listedPips pip listed :=
    Database.hasPip_iff_exists_pip.mp ((Database.mem_pips_iff sound.small).mp listed)
  boundPips pip net bound := by
    obtain ⟨entry, found⟩ := Database.hasPip_iff_exists_pip.mp (designSound.bindings pip net bound)
    obtain ⟨source, sink, sourceThere, atSource, sinkThere, atSink⟩ := sound.exists_ends found
    exact ⟨entry, source, sink, found, atSource, Database.isEnd_of_resolve? sourceThere, atSink,
      Database.isEnd_of_resolve? sinkThere⟩
  bels cell member bel placed := by
    obtain ⟨site, named⟩ := (designSound.cells cell member).bel bel placed
    obtain ⟨contents, _, held, _⟩ := Database.belName_eq_ok_iff.mp named
    obtain ⟨row, col⟩ := (Database.contains_of_contents? held).toNat_lt
    exact ⟨⟨site, named⟩, Nat.lt_of_le_of_lt row db.rows.toNat_lt,
      Nat.lt_of_le_of_lt col db.cols.toNat_lt⟩
  cellNames cell member id used := by
    have cellSound := designSound.cells cell member
    refine Design.exists_name ?_
    rcases used with rfl | rfl | parameter | other
    · exact cellSound.name
    · exact cellSound.kind
    · exact cellSound.parameters id parameter
    · exact cellSound.attributes id other
  netNames net member := Design.exists_name (designSound.nets net member)
  distances := distanceText_eq
  letters _ _ _ := siteOutOfRange_bounds

theorem outcome_of_isSafe_planDesign (safe : (planDesign db design).IsSafe) :
    (∃ document, (generate db design).2 = .ok document) ∨
      ∃ error, (generate db design).2 = .error (.error error) := by
  unfold generate
  split
  · exact .inr ⟨_, rfl⟩
  · dsimp only
    split
    · rename_i failure failed
      cases failure with
      | fault fault => exact absurd failed (safe fault)
      | error error => exact .inr ⟨error, rfl⟩
    · exact .inl ⟨_, rfl⟩

/-- **Generation is safe for all that is loaded.** Whatever the grid, the distances and the names in
the two texts are, look-ups are in range, and the outcome is a document or an error. -/
theorem generate_inRange_and_outcome {description listing : String}
    (described : Database.load description = .ok db) (listed : Design.load db listing = .ok design) :
    LookupsInRange db design ∧
      ((∃ document, (generate db design).2 = .ok document) ∨
        ∃ error, (generate db design).2 = .error (.error error)) := by
  have sound := Database.isSound_of_load described
  have designSound := Design.isSound_of_load listed
  exact ⟨lookupsInRange sound designSound,
    outcome_of_isSafe_planDesign (isSafe_planDesign sound designSound)⟩

/-- A device of two locations, one above the other. The upper one has a slice and a PIP that is
driven from below. -/
def twoRows : Json :=
  let tile := Json.object [("name", .text "R2C1:PLC"), ("type", .text "PLC")]
  let bel := Json.object [("name", .text "SLICEA"), ("type", .text "FACADE_SLICE")]
  let wire (name : String) := Json.object [("name", .text name)]
  let away (rows : Int) :=
    Json.object [("rel_row", .integer rows), ("rel_col", .integer 0), ("index", .integer 0)]
  let pip := Json.object [("src", away (-1)), ("dst", away 0), ("tile_type", .text "PLC")]
  .object [("variant", .text "1200HC"), ("rows", .integer 2), ("cols", .integer 1),
    ("locations", .array [
      .object [("row", .integer 0), ("col", .integer 0), ("wires", .array [wire "F0"])],
      .object [("row", .integer 1), ("col", .integer 0), ("tiles", .array [tile]),
        ("wires", .array [wire "A0"]), ("bels", .array [bel]), ("pips", .array [pip])]])]

/-- A design on that device: a slice and a net through the PIP. -/
def routedSlice : Json :=
  let bel := Json.object [("row", .integer 1), ("col", .integer 0), ("name", .text "SLICEA")]
  let pip := Json.object [("row", .integer 1), ("col", .integer 0), ("index", .integer 0)]
  .object [
    ("cells", .array [.object [("name", .text "lut"), ("type", .text "FACADE_SLICE"),
      ("bel", bel), ("params", .object [("LUT0_INITVAL", .text "0b101")])]]),
    ("nets", .array [.object [("name", .text "net"), ("pips", .array [pip])]])]

/-- What is read from the text of a value. -/
def Json.readBack? (value : Json) : Option Json :=
  (Machine.start.run value.print).bind Machine.result?

theorem Json.parse?_render (value : Json) : parse? value.render = value.readBack? := by
  rw [parse?, render, String.toList_ofList, readBack?]

/-- Loads a device and a design from the texts of two values. -/
def loadRendered (description listing : Json) : Option (Database × Design) :=
  (description.readBack?.bind Description.ofJson?).bind fun described =>
    (Database.ofDescription described).toOption.bind fun db =>
      (listing.readBack?.bind Listing.ofJson?).bind fun listed =>
        (Design.ofListing db listed).toOption.map fun design => (db, design)

theorem load_of_loadRendered {description listing : Json}
    (loaded : loadRendered description listing = some (db, design)) :
    Database.load description.render = .ok db ∧ Design.load db listing.render = .ok design := by
  obtain ⟨described, decoded, rest⟩ := Option.bind_eq_some_iff.mp loaded
  obtain ⟨device, accepted, rest⟩ := Option.bind_eq_some_iff.mp rest
  obtain ⟨listed, listDecoded, rest⟩ := Option.bind_eq_some_iff.mp rest
  obtain ⟨built, fitted, same⟩ := Option.map_eq_some_iff.mp rest
  cases same
  rw [Database.load, Design.load, Json.parse?_render, Json.parse?_render, decoded, listDecoded]
  exact ⟨eq_ok_of_toOption accepted, eq_ok_of_toOption fitted⟩

theorem generate_inRange_of_routedSlice :
    ∃ db design, Database.load twoRows.render = .ok db ∧
      Design.load db routedSlice.render = .ok design ∧ LookupsInRange db design ∧
      ((∃ document, (generate db design).2 = .ok document) ∨
        ∃ error, (generate db design).2 = .error (.error error)) := by
  have loaded : (loadRendered twoRows routedSlice).isSome := by decide +kernel
  obtain ⟨⟨db, design⟩, found⟩ := Option.isSome_iff_exists.mp loaded
  obtain ⟨described, listed⟩ := load_of_loadRendered found
  exact ⟨db, design, described, listed, generate_inRange_and_outcome described listed⟩

end FabricConfig
