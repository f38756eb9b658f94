import FabricConfig.Proofs.Generation.Safety
/-!
# Names in arcs

A PIP names its wires by their distance from it, and an arc names them by their distance again. In
between the distance is made into a place on the grid, and that place into a distance. Where the
wires are there nothing is lost on the way, so the names follow from what the PIP stores and from
what its wires are called, and not from where the PIP lies.

* `legText`, `RelativeWire.nameOf`: a name from a stored distance.
* `IsEnd.relativeName_eq`: it is the name that is worked out from the two places.
* `NamesArc`, `Refers`: the names that are written for a PIP, and what its references lead to.
* `arcNames_eq_nameOf`: the names of all PIPs of a database that is loaded.
-/

namespace FabricConfig

variable {db : Database} {location : Location} {relative : RelativeWire} {wire : WireId} {pip : PipId}

/-! ### Names from distances -/

/-- A distance in writing: a letter for its direction and its length, or nothing at all for zero. -/
def legText (forward backward : Char) (distance : Int) : List Char :=
  if 0 < distance then forward :: Text.decimal distance.toNat
  else if distance < 0 then backward :: Text.decimal (-distance).toNat
  else []

/-- A distance is written in one way only. -/
theorem IsLeg.eq_legText {forward backward : Char} {distance : Int} {text : List Char}
    (leg : IsLeg forward backward distance text) : text = legText forward backward distance := by
  cases leg with
  | none => rfl
  | ahead positive => rw [legText, if_pos (Int.natCast_pos.mpr positive), Int.toNat_natCast]
  | behind positive =>
    rw [legText, if_neg (by omega), if_pos (by omega), Int.neg_neg, Int.toNat_natCast]

/-- The name of the wire `base` for who sees it at a distance: its own name if it is global or near,
and else with the distance in front, to the north or south and then to the east or west. -/
def RelativeWire.nameOf (relative : RelativeWire) (base : String) : String :=
  if isGlobalName base = true ∨ (relative.rows = 0 ∧ relative.cols = 0) then base
  else
    String.ofList (legText 'N' 'S' relative.rows.toInt ++ legText 'E' 'W' relative.cols.toInt ++
      '_' :: base.toList)

/-- A wire two rows to the south and one column to the east. -/
example : (⟨-2, 1, 0⟩ : RelativeWire).nameOf "H02W0701" = "S2E1_H02W0701" := by decide +kernel

namespace Database

/-- A wire is at the location that refers to it just when both distances are zero. -/
theorem IsEnd.location_eq_iff (isEnd : db.IsEnd location relative wire) :
    wire.location = location ↔ relative.rows = 0 ∧ relative.cols = 0 := by
  have row := isEnd.row
  have col := isEnd.col
  rw [Location.eq_iff, ← Int32.toInt_inj, ← Int32.toInt_inj, Int32.toInt_zero]
  omega

/-- **The name worked out from the two places is the name from the distance.** -/
theorem IsEnd.relativeName_eq (isEnd : db.IsEnd location relative wire) (base : String) :
    relativeName location wire.location base = relative.nameOf base := by
  have north : (wire.location.row.toNat - location.row.toNat : Int) = relative.rows.toInt := by
    rw [isEnd.row]
    omega
  have east : (wire.location.col.toNat - location.col.toNat : Int) = relative.cols.toInt := by
    rw [isEnd.col]
    omega
  have vertical := (isLeg_distanceText 'N' 'S' location.row wire.location.row).eq_legText
  have horizontal := (isLeg_distanceText 'E' 'W' location.col wire.location.col).eq_legText
  rw [north] at vertical
  rw [east] at horizontal
  rw [relativeName, RelativeWire.nameOf, vertical, horizontal]
  simp only [Bool.or_eq_true, decide_eq_true_eq, isEnd.location_eq_iff]

/-! ### The names of a PIP's wires -/

/-- What a reference leads to: a wire at the exact distance, of this name. -/
def Refers (db : Database) (location : Location) (relative : RelativeWire) (base : String) : Prop :=
  ∃ wire, db.IsEnd location relative wire ∧ db.wireName wire = .ok base

/-- The names that are written for a PIP, of the wire that drives it and of the wire that it drives,
both as seen from its location. -/
structure NamesArc (db : Database) (pip : PipId) (source sink : String) : Prop where
  source : (db.pipSource pip >>= db.relativeWireName pip.location) = .ok source
  sink : (db.pipSink pip >>= db.relativeWireName pip.location) = .ok sink

/-- A reference that leads to a wire is followed there, and the wire is named by its distance. -/
theorem Refers.relativeWireName_eq {base : String} (refers : db.Refers location relative base) :
    db.relativeWireName location (relative.target location) = .ok (relative.nameOf base) := by
  obtain ⟨wire, isEnd, named⟩ := refers
  have resolved : db.resolve? location relative = some wire := resolve?_eq_some_iff.mpr
    ⟨Location.offset?_eq_some_iff.mpr ⟨isEnd.row, isEnd.col⟩, isEnd.index, isEnd.there⟩
  rw [target_eq_of_resolve? resolved, Database.relativeWireName, named, ← isEnd.relativeName_eq base]
  rfl

/-- **What is written for a PIP** follows from its two references and the names of its wires. -/
theorem namesArc_iff {entry : Pip} {sourceBase sinkBase source sink : String}
    (found : db.pip pip = .ok entry) (drives : db.Refers pip.location entry.source sourceBase)
    (driven : db.Refers pip.location entry.sink sinkBase) :
    db.NamesArc pip source sink ↔
      source = entry.source.nameOf sourceBase ∧ sink = entry.sink.nameOf sinkBase := by
  have sourceLookup : (db.pipSource pip >>= db.relativeWireName pip.location) =
      .ok (entry.source.nameOf sourceBase) := by
    rw [pipSource, found, ← drives.relativeWireName_eq]
    rfl
  have sinkLookup : (db.pipSink pip >>= db.relativeWireName pip.location) =
      .ok (entry.sink.nameOf sinkBase) := by
    rw [pipSink, found, ← driven.relativeWireName_eq]
    rfl
  constructor
  · rintro ⟨ofSource, ofSink⟩
    exact ⟨(Except.ok.inj (sourceLookup.symm.trans ofSource)).symm,
      (Except.ok.inj (sinkLookup.symm.trans ofSink)).symm⟩
  · rintro ⟨rfl, rfl⟩
    exact ⟨sourceLookup, sinkLookup⟩

/-- In a sound database all references of PIPs lead to wires. -/
theorem IsSound.exists_refers (sound : db.IsSound) {entry : Pip} (found : db.pip pip = .ok entry) :
    (∃ base, db.Refers pip.location entry.source base) ∧
      ∃ base, db.Refers pip.location entry.sink base := by
  obtain ⟨source, sink, sourceThere, _, sinkThere, _⟩ := sound.exists_ends found
  have sourceEnd := isEnd_of_resolve? sourceThere
  have sinkEnd := isEnd_of_resolve? sinkThere
  obtain ⟨sourceBase, sourceNamed⟩ := hasWire_iff_exists_wireName.mp sourceEnd.there
  obtain ⟨sinkBase, sinkNamed⟩ := hasWire_iff_exists_wireName.mp sinkEnd.there
  exact ⟨⟨sourceBase, source, sourceEnd, sourceNamed⟩, sinkBase, sink, sinkEnd, sinkNamed⟩

/-- The arc of a PIP in its tile, by the names that are written for it. -/
theorem NamesArc.planArc_eq {entry : Pip} {tile source sink : String}
    (names : db.NamesArc pip source sink) (found : db.pip pip = .ok entry)
    (held : db.tileAt pip.location entry.tileKind = .ok tile) :
    planArc db pip = Plan.edit (.set tile (.arc sink source)) := by
  have inTile : db.pipTile pip = .ok (.ok tile) := by
    rw [pipTile, found, ← held]
    rfl
  rw [planArc, inTile, names.source, names.sink]
  rfl

end Database

/-- **The names in an arc follow the references that are stored.** In a database that is loaded, both
references of every PIP lead to wires, and the names that are written for the PIP, which are those in
its arc, are made of the stored distances and of the names of these wires alone. So two PIPs with the
same references to wires of the same names are written alike, wherever they lie. -/
theorem arcNames_eq_nameOf {text : String} (loaded : Database.load text = .ok db) :
    (∀ pip entry, db.pip pip = .ok entry → ∃ source sink,
      db.Refers pip.location entry.source source ∧ db.Refers pip.location entry.sink sink ∧
      db.NamesArc pip (entry.source.nameOf source) (entry.sink.nameOf sink) ∧
      ∀ tile, db.tileAt pip.location entry.tileKind = .ok tile → planArc db pip =
        Plan.edit (.set tile (.arc (entry.sink.nameOf sink) (entry.source.nameOf source)))) ∧
    ∀ (other : Database) (first second : PipId) (one two : Pip) (source sink : String),
      db.pip first = .ok one → other.pip second = .ok two →
      one.source = two.source → one.sink = two.sink →
      db.Refers first.location one.source source → other.Refers second.location two.source source →
      db.Refers first.location one.sink sink → other.Refers second.location two.sink sink →
      ∀ sourceName sinkName,
        db.NamesArc first sourceName sinkName ↔ other.NamesArc second sourceName sinkName := by
  have sound := Database.isSound_of_load loaded
  constructor
  · intro pip entry found
    obtain ⟨⟨source, drives⟩, sink, driven⟩ := sound.exists_refers found
    have names := (Database.namesArc_iff found drives driven).mpr ⟨rfl, rfl⟩
    exact ⟨source, sink, drives, driven, names, fun tile held => names.planArc_eq found held⟩
  · intro other first second one two source sink found there sameSource sameSink drives alsoDrives
      driven alsoDriven sourceName sinkName
    rw [Database.namesArc_iff found drives driven, Database.namesArc_iff there alsoDrives alsoDriven,
      sameSource, sameSink]

/-- A device of three rows and two columns, in which two PIPs are driven from the south east. -/
def stairs : Json :=
  let away (rows cols : Int) :=
    Json.object [("rel_row", .integer rows), ("rel_col", .integer cols), ("index", .integer 0)]
  let pip := Json.object [("src", away (-1) 1), ("dst", away 0 0), ("tile_type", .text "PLC")]
  let entry (row col : Int) (wire : String) (pips : List Json) :=
    Json.object [("row", .integer row), ("col", .integer col),
      ("wires", .array [.object [("name", .text wire)]]), ("pips", .array pips)]
  .object [("variant", .text "256HC"), ("rows", .integer 3), ("cols", .integer 2),
    ("locations", .array [entry 0 1 "H02" [], entry 1 1 "H02" [], entry 1 0 "A0" [pip],
      entry 2 0 "A0" [pip]])]

theorem arcNames_stairs :
    ∃ db entry, Database.load stairs.render = .ok db ∧ db.pip ⟨⟨1, 0⟩, 0⟩ = .ok entry ∧
      db.pip ⟨⟨2, 0⟩, 0⟩ = .ok entry ∧ db.NamesArc ⟨⟨1, 0⟩, 0⟩ "S1E1_H02" "A0" ∧
      db.NamesArc ⟨⟨2, 0⟩, 0⟩ "S1E1_H02" "A0" := by
  have ready : ((stairs.readBack?.bind Description.ofJson?).bind fun description =>
      (Database.ofDescription description).toOption.map fun db =>
        ([db.pip ⟨⟨1, 0⟩, 0⟩, db.pip ⟨⟨2, 0⟩, 0⟩].map (·.toOption),
          [db.wireName ⟨⟨0, 1⟩, 0⟩, db.wireName ⟨⟨1, 1⟩, 0⟩, db.wireName ⟨⟨1, 0⟩, 0⟩,
            db.wireName ⟨⟨2, 0⟩, 0⟩].map (·.toOption))) =
      some ([some ⟨⟨-1, 1, 0⟩, ⟨0, 0, 0⟩, "PLC", .configurable⟩,
          some ⟨⟨-1, 1, 0⟩, ⟨0, 0, 0⟩, "PLC", .configurable⟩],
        [some "H02", some "H02", some "A0", some "A0"]) := by decide +kernel
  obtain ⟨description, decoded, rest⟩ := Option.bind_eq_some_iff.mp ready
  obtain ⟨db, accepted, both⟩ := Option.map_eq_some_iff.mp rest
  simp only [List.map_cons, List.map_nil, Prod.mk.injEq, List.cons.injEq, and_true] at both
  obtain ⟨⟨atLower, atUpper⟩, southern, eastern, lowerSink, upperSink⟩ := both
  have refersTo (wire : WireId) (location : Location) (relative : RelativeWire) {base : String}
      (named : (db.wireName wire).toOption = some base)
      (row : (wire.location.row.toNat : Int) = location.row.toNat + relative.rows.toInt)
      (col : (wire.location.col.toNat : Int) = location.col.toNat + relative.cols.toInt)
      (index : wire.index = relative.index) : db.Refers location relative base :=
    have found := eq_ok_of_toOption named
    ⟨wire, ⟨row, col, index, Database.hasWire_iff_exists_wireName.mpr ⟨base, found⟩⟩, found⟩
  have loaded : Database.load stairs.render = .ok db := by
    rw [Database.load, Json.parse?_render, decoded]
    exact eq_ok_of_toOption accepted
  have lower := eq_ok_of_toOption atLower
  have upper := eq_ok_of_toOption atUpper
  have drives := refersTo ⟨⟨0, 1⟩, 0⟩ ⟨1, 0⟩ ⟨-1, 1, 0⟩ southern rfl rfl rfl
  have driven := refersTo ⟨⟨1, 0⟩, 0⟩ ⟨1, 0⟩ ⟨0, 0, 0⟩ lowerSink rfl rfl rfl
  have alike := (arcNames_eq_nameOf loaded).2 db _ _ _ _ "H02" "A0" lower upper rfl rfl drives
    (refersTo ⟨⟨1, 1⟩, 0⟩ ⟨2, 0⟩ ⟨-1, 1, 0⟩ eastern rfl rfl rfl) driven
    (refersTo ⟨⟨2, 0⟩, 0⟩ ⟨2, 0⟩ ⟨0, 0, 0⟩ upperSink rfl rfl rfl)
  have names : db.NamesArc ⟨⟨1, 0⟩, 0⟩ "S1E1_H02" "A0" :=
    (Database.namesArc_iff lower drives driven).mpr ⟨by decide +kernel, by decide +kernel⟩
  exact ⟨db, _, loaded, lower, upper, names, (alike _ _).mp names⟩

end FabricConfig
