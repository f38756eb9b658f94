import FabricConfig.Proofs.Device.Entries
import Mathlib.Data.List.Forall2
/-!
# Databases that grow

A database is built by adding tiles, wires, BELs and PIPs to the tables of its locations. A table
only grows at its end, so whatever is found in it stays what it is, and an identity that is given out
keeps its meaning for good.

* `GrowsTo`: the tables of one database start those of another. Look-ups that find something find
  the same later.
* `Addition.perform_eq_ok_iff`: what one addition does, whatever it adds.
* `RelativeWire.target_between`: a wire made relative to a location is found again from there.
* `Keeps`: what an identity means, by the addition that it was given for.
* `keeps_of_perform`, `not_reaches_of_perform`: it means that from the start, and it is new.
* `addAll_keeps_and_finds`: runs of additions.
-/

namespace FabricConfig

/-! ### Tables -/

/-- A table that starts with all of another one. -/
def Starts {α : Type} (before after : Array α) : Prop := ∃ rest, after = before ++ rest

namespace Starts

variable {α : Type} {before middle after : Array α}

theorem refl (table : Array α) : Starts table table := ⟨#[], Array.append_empty.symm⟩

theorem push (table : Array α) (entry : α) : Starts table (table.push entry) :=
  ⟨#[entry], Array.push_eq_append⟩

theorem trans (first : Starts before middle) (second : Starts middle after) :
    Starts before after := by
  obtain ⟨rest, rfl⟩ := first
  obtain ⟨more, rfl⟩ := second
  exact ⟨rest ++ more, Array.append_assoc⟩

theorem size_le (starts : Starts before after) : before.size ≤ after.size := by
  obtain ⟨rest, rfl⟩ := starts
  rw [Array.size_append]
  exact Nat.le_add_right _ _

theorem getElem?_eq_some {index : Nat} {entry : α} (starts : Starts before after)
    (found : before[index]? = some entry) : after[index]? = some entry := by
  obtain ⟨rest, rfl⟩ := starts
  rw [Array.getElem?_append_left (Array.getElem?_eq_some_iff.mp found).1, found]

theorem find?_eq_some {test : α → Bool} {entry : α} (starts : Starts before after)
    (found : before.find? test = some entry) : after.find? test = some entry := by
  obtain ⟨rest, rfl⟩ := starts
  rw [Array.find?_append, found, Option.some_or]

theorem findIdx?_eq_some {test : α → Bool} {index : Nat} (starts : Starts before after)
    (found : before.findIdx? test = some index) : after.findIdx? test = some index := by
  obtain ⟨rest, rfl⟩ := starts
  rw [Array.findIdx?_append, found, Option.some_or]

end Starts

/-- Contents whose tables all start with those of others. -/
structure Contents.GrowsTo (before after : Contents) : Prop where
  tiles : Starts before.tiles after.tiles
  wires : Starts before.wires after.wires
  bels : Starts before.bels after.bels
  pips : Starts before.pips after.pips

theorem Contents.GrowsTo.refl (contents : Contents) : contents.GrowsTo contents :=
  ⟨.refl _, .refl _, .refl _, .refl _⟩

theorem Contents.GrowsTo.trans {before middle after : Contents} (first : before.GrowsTo middle)
    (second : middle.GrowsTo after) : before.GrowsTo after :=
  ⟨first.tiles.trans second.tiles, first.wires.trans second.wires, first.bels.trans second.bels,
    first.pips.trans second.pips⟩

/-! ### Databases -/

namespace Database

variable {db middle later : Database} {location : Location} {name : String}

/-- All tables of a database start those of another at the same location. -/
def GrowsTo (db later : Database) : Prop :=
  ∀ location contents, db.contents? location = some contents →
    ∃ more, later.contents? location = some more ∧ contents.GrowsTo more

namespace GrowsTo

theorem refl (db : Database) : db.GrowsTo db :=
  fun _ contents held => ⟨contents, held, .refl contents⟩

theorem trans (first : db.GrowsTo middle) (second : middle.GrowsTo later) : db.GrowsTo later := by
  intro location contents held
  obtain ⟨more, there, grown⟩ := first location contents held
  obtain ⟨most, last, whole⟩ := second location more there
  exact ⟨most, last, grown.trans whole⟩

variable (grows : db.GrowsTo later)

include grows

theorem wireName {wire : WireId} (found : db.wireName wire = .ok name) :
    later.wireName wire = .ok name := by
  obtain ⟨contents, held, entry⟩ := wireName_eq_ok_iff.mp found
  obtain ⟨more, there, grown⟩ := grows _ _ held
  exact wireName_eq_ok_iff.mpr ⟨more, there, grown.wires.getElem?_eq_some entry⟩

theorem belName {bel : BelId} (found : db.belName bel = .ok name) :
    later.belName bel = .ok name := by
  obtain ⟨contents, entry, held, atIndex, named⟩ := belName_eq_ok_iff.mp found
  obtain ⟨more, there, grown⟩ := grows _ _ held
  exact belName_eq_ok_iff.mpr ⟨more, entry, there, grown.bels.getElem?_eq_some atIndex, named⟩

theorem pip {id : PipId} {entry : Pip} (found : db.pip id = .ok entry) :
    later.pip id = .ok entry := by
  obtain ⟨contents, held, atIndex⟩ := pip_eq_ok_iff.mp found
  obtain ⟨more, there, grown⟩ := grows _ _ held
  exact pip_eq_ok_iff.mpr ⟨more, there, grown.pips.getElem?_eq_some atIndex⟩

theorem pipWire {id : PipId} {wire : WireId} {side : Pip → RelativeWire}
    (found : (do return (side (← db.pip id)).target id.location) = Except.ok (ε := Fault) wire) :
    (do return (side (← later.pip id)).target id.location) = Except.ok (ε := Fault) wire := by
  obtain ⟨entry, atIndex, reached⟩ := bind_eq_ok_iff.mp found
  exact bind_eq_ok_iff.mpr ⟨entry, grows.pip atIndex, reached⟩

theorem tileAt {kind : String} (found : db.tileAt location kind = .ok name) :
    later.tileAt location kind = .ok name := by
  obtain ⟨contents, tile, held, first, named⟩ := tileAt_eq_ok_iff.mp found
  obtain ⟨more, there, grown⟩ := grows _ _ held
  exact tileAt_eq_ok_iff.mpr ⟨more, tile, there, grown.tiles.find?_eq_some first, named⟩

theorem pipTile {id : PipId} (found : db.pipTile id = .ok (.ok name)) :
    later.pipTile id = .ok (.ok name) := by
  obtain ⟨entry, atIndex, kept⟩ := bind_eq_ok_iff.mp found
  refine bind_eq_ok_iff.mpr ⟨entry, grows.pip atIndex, ?_⟩
  exact congrArg Except.ok (grows.tileAt (Except.ok.inj kept))

theorem belNamed? {bel : BelId} (found : db.belNamed? location name = some bel) :
    later.belNamed? location name = some bel := by
  obtain ⟨contents, held, index⟩ := Option.bind_eq_some_iff.mp found
  obtain ⟨place, first, same⟩ := Option.map_eq_some_iff.mp index
  obtain ⟨more, there, grown⟩ := grows _ _ held
  rw [Database.belNamed?, there, Option.bind_some, grown.bels.findIdx?_eq_some first, ← same]
  rfl

theorem covers {kind : String} (covered : db.Covers location kind) :
    later.Covers location kind := by
  rw [← exists_tileAt_iff_covers] at covered ⊢
  exact covered.imp fun _ => grows.tileAt

end GrowsTo

end Database

/-! ### Additions -/

/-- One addition to a database. -/
inductive Addition where
  | tile (location : Location) (name kind : String)
  | wire (location : Location) (name : String)
  | bel (location : Location) (name kind : String)
  | pip (location : Location) (source sink : WireId) (tileKind : String) (pipClass : PipClass)
deriving DecidableEq, Repr

/-- An identity that is given out for an addition. Tiles have none. -/
inductive Identity where
  | wire (wire : WireId)
  | bel (bel : BelId)
  | pip (pip : PipId)
deriving DecidableEq, Repr

namespace Identity

def location : Identity → Location
  | .wire id => id.location
  | .bel id => id.location
  | .pip id => id.location

def index : Identity → UInt32
  | .wire id => id.index
  | .bel id => id.index
  | .pip id => id.index

/-- The size of the table that an identity belongs to. -/
def tableSize (contents : Contents) : Identity → Nat
  | .wire _ => contents.wires.size
  | .bel _ => contents.bels.size
  | .pip _ => contents.pips.size

end Identity

namespace Addition

variable {db after : Database} {before : Contents} {given : Option Identity}

def location : Addition → Location
  | .tile location _ _ => location
  | .wire location _ => location
  | .bel location _ _ => location
  | .pip location _ _ _ _ => location

/-- What a location holds after an addition. -/
def change (addition : Addition) (before : Contents) : Contents :=
  match addition with
  | .tile _ name kind => { before with tiles := before.tiles.push ⟨name, kind⟩ }
  | .wire _ name => { before with wires := before.wires.push name }
  | .bel _ name kind => { before with bels := before.bels.push ⟨name, kind⟩ }
  | .pip location source sink tileKind pipClass =>
    { before with
      pips := before.pips.push
        ⟨.between location source, .between location sink, tileKind, pipClass⟩ }

/-- The identity given out for an addition to a location that holds this. -/
def identity? (addition : Addition) (before : Contents) : Option Identity :=
  match addition with
  | .tile _ _ _ => none
  | .wire location _ => some (.wire ⟨location, UInt32.ofNat before.wires.size⟩)
  | .bel location _ _ => some (.bel ⟨location, UInt32.ofNat before.bels.size⟩)
  | .pip location _ _ _ _ => some (.pip ⟨location, UInt32.ofNat before.pips.size⟩)

/-- Makes an addition, and tells the identity that is given out for it. -/
def perform (db : Database) : Addition → Except Fault (Option Identity × Database)
  | .tile location name kind => (db.addTile location name kind).map fun after => (none, after)
  | .wire location name =>
    (db.addWire location name).map fun added => (some (.wire added.1), added.2)
  | .bel location name kind =>
    (db.addBel location name kind).map fun added => (some (.bel added.1), added.2)
  | .pip location source sink tileKind pipClass =>
    (db.addPip location source sink tileKind pipClass).map fun added =>
      (some (.pip added.1), added.2)

/-- Looking at a location and then changing it tells what was there. -/
theorem map_contents_modify_eq_ok_iff {α : Type} {location : Location}
    {change : Contents → Contents} {index : Contents → α} {kind : α → Identity} :
    Except.map (fun added : α × Database => (some (kind added.1), added.2))
        (do let before ← db.contents location
            let after ← db.modify location change
            return (index before, after)) = Except.ok (given, after) ↔
      ∃ before, db.contents? location = some before ∧ db.modify location change = .ok after ∧
        some (kind (index before)) = given := by
  simp only [map_eq_ok_iff, bind_eq_ok_iff, Database.contents_eq_ok_iff]
  constructor
  · rintro ⟨_, ⟨before, held, _, changed, returned⟩, same⟩
    cases returned
    cases same
    exact ⟨before, held, changed, rfl⟩
  · rintro ⟨before, held, changed, rfl⟩
    exact ⟨(index before, after), ⟨before, held, after, changed, rfl⟩, rfl⟩

/-- **An addition changes its location**, and gives out the next place of a table there. -/
theorem perform_eq_ok_iff {addition : Addition} :
    addition.perform db = .ok (given, after) ↔
      ∃ before, db.contents? addition.location = some before ∧
        db.modify addition.location addition.change = .ok after ∧
        addition.identity? before = given := by
  cases addition with
  | tile location name kind =>
    simp only [perform, Database.addTile, map_eq_ok_iff, identity?, Addition.location]
    constructor
    · rintro ⟨_, changed, same⟩
      cases same
      obtain ⟨before, held⟩ := Option.isSome_iff_exists.mp
        (Database.isSome_contents?_iff.mpr (Database.modify_eq_ok changed).1)
      exact ⟨before, held, changed, rfl⟩
    · rintro ⟨before, held, changed, rfl⟩
      exact ⟨after, changed, rfl⟩
  | wire location name => exact map_contents_modify_eq_ok_iff
  | bel location name kind => exact map_contents_modify_eq_ok_iff
  | pip location source sink tileKind pipClass => exact map_contents_modify_eq_ok_iff

/-- An addition succeeds on the grid, whatever it adds. -/
theorem exists_perform_iff {addition : Addition} :
    (∃ made, addition.perform db = .ok made) ↔ db.Contains addition.location := by
  constructor
  · rintro ⟨made, performed⟩
    obtain ⟨before, held, _⟩ := perform_eq_ok_iff.mp performed
    exact Database.contains_of_contents? held
  · intro inside
    obtain ⟨before, held⟩ := Option.isSome_iff_exists.mp (Database.isSome_contents?_iff.mpr inside)
    exact ⟨(addition.identity? before, _), perform_eq_ok_iff.mpr ⟨before, held, if_pos inside, rfl⟩⟩

variable {addition : Addition}

theorem growsTo_change (addition : Addition) (before : Contents) :
    before.GrowsTo (addition.change before) := by
  cases addition with
  | tile _ _ _ => exact ⟨.push _ _, .refl _, .refl _, .refl _⟩
  | wire _ _ => exact ⟨.refl _, .push _ _, .refl _, .refl _⟩
  | bel _ _ _ => exact ⟨.refl _, .refl _, .push _ _, .refl _⟩
  | pip _ _ _ _ _ => exact ⟨.refl _, .refl _, .refl _, .push _ _⟩

/-- **An addition only lets tables grow**, and the grid stays as it is. -/
theorem growsTo_of_perform (performed : addition.perform db = .ok (given, after)) :
    db.GrowsTo after ∧ ∀ other, after.Contains other ↔ db.Contains other := by
  obtain ⟨before, held, changed, _⟩ := perform_eq_ok_iff.mp performed
  refine ⟨fun location contents there => ?_, (Database.modify_eq_ok changed).2.1⟩
  by_cases here : location = addition.location
  · subst here
    rw [Database.contents?_modify_self changed, there]
    exact ⟨addition.change contents, rfl, addition.growsTo_change contents⟩
  · rw [Database.contents?_modify_of_ne changed here]
    exact ⟨contents, there, .refl contents⟩

end Addition

/-! ### Identities -/

/-- A wire made relative to a location is found again from there, however far away it is. -/
theorem RelativeWire.target_between (location : Location) (wire : WireId) :
    (RelativeWire.between location wire).target location = wire := by
  have back : ∀ coordinate reached : UInt32,
      coordinate + (reached.toInt32 - coordinate.toInt32).toUInt32 = reached := fun _ _ => by
    rw [← UInt32.toInt32_sub, UInt32.toUInt32_toInt32, UInt32.add_comm, UInt32.sub_add_cancel]
  rw [RelativeWire.target, RelativeWire.between, Location.wrapOffset, back, back]

theorem Addition.identity?_eq_some {addition : Addition} {before : Contents} {identity : Identity}
    (given : addition.identity? before = some identity) :
    identity.location = addition.location ∧
      identity.index = UInt32.ofNat (identity.tableSize before) ∧
      identity.tableSize (addition.change before) = identity.tableSize before + 1 := by
  cases addition with
  | tile _ _ _ => cases given
  | wire _ _ => cases given; exact ⟨rfl, rfl, Array.size_push _⟩
  | bel _ _ _ => cases given; exact ⟨rfl, rfl, Array.size_push _⟩
  | pip _ _ _ _ _ => cases given; exact ⟨rfl, rfl, Array.size_push _⟩

theorem Contents.GrowsTo.tableSize_le {before after : Contents} (grown : before.GrowsTo after)
    (identity : Identity) : identity.tableSize before ≤ identity.tableSize after := by
  cases identity with
  | wire _ => exact grown.wires.size_le
  | bel _ => exact grown.bels.size_le
  | pip _ => exact grown.pips.size_le

namespace Database

variable {db later : Database} {identity : Identity} {addition : Addition}
  {given : Option Identity}

/-- No table has more entries than there are indices. -/
def IsAddressable (db : Database) : Prop :=
  ∀ location contents, db.contents? location = some contents →
    ∀ identity : Identity, identity.tableSize contents ≤ UInt32.size

/-- An identity's table reaches it. -/
def Reaches (db : Database) (identity : Identity) : Prop :=
  ∃ contents, db.contents? identity.location = some contents ∧
    identity.index.toNat < identity.tableSize contents

/-- What was given out for an addition stands for what was added. -/
def Keeps (db : Database) : Addition → Option Identity → Prop
  | .tile location _ kind, none => db.Covers location kind
  | .wire location name, some (.wire wire) =>
    wire.location = location ∧ db.wireName wire = .ok name
  | .bel location name _, some (.bel bel) => bel.location = location ∧ db.belName bel = .ok name
  | .pip location source sink tileKind pipClass, some (.pip pip) =>
    pip.location = location ∧ db.pipSource pip = .ok source ∧ db.pipSink pip = .ok sink ∧
      ∃ entry, db.pip pip = .ok entry ∧ entry.tileKind = tileKind ∧ entry.pipClass = pipClass
  | _, _ => False

theorem GrowsTo.isAddressable (grows : db.GrowsTo later) (fits : later.IsAddressable) :
    db.IsAddressable := by
  intro location contents held identity
  obtain ⟨more, there, grown⟩ := grows location contents held
  exact Nat.le_trans (grown.tableSize_le identity) (fits location more there identity)

/-- **What an identity stands for, it stands for in all larger databases.** -/
theorem GrowsTo.keeps (grows : db.GrowsTo later) (kept : db.Keeps addition given) :
    later.Keeps addition given := by
  match addition, given, kept with
  | .tile _ _ _, none, kept => exact grows.covers kept
  | .wire _ _, some (.wire _), kept => exact ⟨kept.1, grows.wireName kept.2⟩
  | .bel _ _ _, some (.bel _), kept => exact ⟨kept.1, grows.belName kept.2⟩
  | .pip _ _ _ _ _, some (.pip _), ⟨there, source, sink, entry, found, same⟩ =>
    exact ⟨there, grows.pipWire source, grows.pipWire sink, entry, grows.pip found, same⟩

/-- What stands for something is there. -/
theorem Keeps.reaches (kept : db.Keeps addition (some identity)) : db.Reaches identity := by
  match addition, identity, kept with
  | .wire _ _, .wire _, kept => exact hasWire_iff_exists_wireName.mpr ⟨_, kept.2⟩
  | .bel _ _ _, .bel _, kept =>
    obtain ⟨contents, _, held, found, _⟩ := belName_eq_ok_iff.mp kept.2
    exact ⟨contents, held, (Array.getElem?_eq_some_iff.mp found).1⟩
  | .pip _ _ _ _ _, .pip _, ⟨_, _, _, entry, found, _⟩ =>
    obtain ⟨contents, held, found⟩ := pip_eq_ok_iff.mp found
    exact ⟨contents, held, (Array.getElem?_eq_some_iff.mp found).1⟩

/-! ### Fresh identities -/

/-- The place after all entries of a table reads what is added there. -/
theorem getElem?_push_ofNat_size {α : Type} {table : Array α} {entry : α}
    (fits : (table.push entry).size ≤ UInt32.size) :
    (table.push entry)[(UInt32.ofNat table.size).toNat]? = some entry := by
  rw [Array.size_push] at fits
  rw [UInt32.toNat_ofNat_of_lt' fits, Array.getElem?_push_size]

/-- **The identity given out for an addition stands for what is added.** -/
theorem keeps_of_perform {after : Database} (performed : addition.perform db = .ok (given, after))
    (fits : after.IsAddressable) : after.Keeps addition given := by
  obtain ⟨before, held, changed, rfl⟩ := Addition.perform_eq_ok_iff.mp performed
  have there := contents?_modify_self changed
  rw [held, Option.map_some] at there
  have small := fits _ _ there
  cases addition with
  | tile location name kind =>
    exact ⟨_, there, ⟨name, kind⟩, Array.mem_push_self, rfl⟩
  | wire location name =>
    refine ⟨rfl, wireName_eq_ok_iff.mpr ⟨_, there, getElem?_push_ofNat_size ?_⟩⟩
    exact small (.wire default)
  | bel location name kind =>
    refine ⟨rfl, belName_eq_ok_iff.mpr ⟨_, _, there, getElem?_push_ofNat_size ?_, rfl⟩⟩
    exact small (.bel default)
  | pip location source sink tileKind pipClass =>
    have found : after.pip ⟨location, UInt32.ofNat before.pips.size⟩ = .ok _ :=
      pip_eq_ok_iff.mpr ⟨_, there, getElem?_push_ofNat_size (small (.pip default))⟩
    refine ⟨rfl, ?_, ?_, _, found, rfl, rfl⟩
    · exact bind_eq_ok_iff.mpr ⟨_, found, congrArg _ (RelativeWire.target_between location source)⟩
    · exact bind_eq_ok_iff.mpr ⟨_, found, congrArg _ (RelativeWire.target_between location sink)⟩

/-- **The identity given out for an addition is new**: its table does not reach it before. -/
theorem not_reaches_of_perform {after : Database}
    (performed : addition.perform db = .ok (some identity, after))
    (fits : after.IsAddressable) : ¬ db.Reaches identity := by
  obtain ⟨before, held, changed, given⟩ := Addition.perform_eq_ok_iff.mp performed
  obtain ⟨location, index, larger⟩ := Addition.identity?_eq_some given
  have there := contents?_modify_self changed
  rw [held, Option.map_some] at there
  have small := fits _ _ there identity
  rintro ⟨contents, here, within⟩
  rw [location, held] at here
  cases here
  -- The index is the size of the table before: it does not wrap, since the larger table fits.
  rw [larger] at small
  rw [index, UInt32.toNat_ofNat_of_lt' small] at within
  exact absurd within (Nat.lt_irrefl _)

/-! ### Runs -/

/-- Makes an addition in the course of a run, and notes what was given out for it. -/
def add (made : List (Option Identity) × Database) (addition : Addition) :
    Except Fault (List (Option Identity) × Database) :=
  (addition.perform made.2).map fun next => (made.1 ++ [next.1], next.2)

/-- Makes additions one after another, and tells what was given out for them. -/
def addAll (db : Database) (additions : List Addition) :
    Except Fault (List (Option Identity) × Database) :=
  additions.foldlM add ([], db)

/-- Databases only grow in a run. -/
theorem growsTo_of_addAll {additions : List Addition} {identities : List (Option Identity)}
    (ran : db.addAll additions = .ok (identities, later)) : db.GrowsTo later := by
  refine foldlM_invariant (fun state => db.GrowsTo state.2) ?_ ran (.refl db)
  intro state addition next grows stepped
  obtain ⟨made, performed, rfl⟩ := map_eq_ok_iff.mp stepped
  exact grows.trans (Addition.growsTo_of_perform performed).1

/-- What was given out in a run, seen from a database. -/
structure KeepsAll (db : Database) (additions : List Addition)
    (identities : List (Option Identity)) : Prop where
  /-- What was given out for each addition stands for what was added. -/
  each : List.Forall₂ db.Keeps additions identities
  /-- Nothing was given out twice. -/
  distinct : (identities.filterMap id).Nodup

theorem reaches_of_keeps {additions : List Addition} {identities : List (Option Identity)}
    (kept : List.Forall₂ db.Keeps additions identities) (member : some identity ∈ identities) :
    db.Reaches identity := by
  induction kept with
  | nil => cases member
  | cons first _ ih =>
    rcases List.mem_cons.mp member with rfl | later
    · exact first.reaches
    · exact ih later

/-- **One more addition**: what was given out before is kept, and what is given out now is new. -/
theorem KeepsAll.perform {additions : List Addition} {identities : List (Option Identity)}
    {after : Database} (kept : db.KeepsAll additions identities)
    (performed : addition.perform db = .ok (given, after)) (fits : after.IsAddressable) :
    after.KeepsAll (additions ++ [addition]) (identities ++ [given]) := by
  have grows := (Addition.growsTo_of_perform performed).1
  have earlier := kept.each.imp fun _ _ => grows.keeps
  refine ⟨List.rel_append earlier (.cons (keeps_of_perform performed fits) .nil), ?_⟩
  rw [List.filterMap_append]
  cases given with
  | none => exact (List.append_nil _).symm ▸ kept.distinct
  | some identity =>
    rw [List.nodup_append]
    refine ⟨kept.distinct, List.pairwise_singleton _ identity, fun old member new here same => ?_⟩
    cases List.mem_singleton.mp here
    obtain ⟨_, given, rfl⟩ := List.mem_filterMap.mp member
    subst same
    exact not_reaches_of_perform performed fits (reaches_of_keeps kept.each given)

/-- What additions to a database have led to. -/
structure IsRun (start : Database) (additions : List Addition)
    (made : List (Option Identity) × Database) : Prop where
  contains : ∀ location, made.2.Contains location ↔ start.Contains location
  keepsAll : made.2.IsAddressable → made.2.KeepsAll additions made.1

theorem IsRun.add {start : Database} {additions : List Addition}
    {made next : List (Option Identity) × Database} (run : start.IsRun additions made)
    (added : Database.add made addition = .ok next) : start.IsRun (additions ++ [addition]) next := by
  obtain ⟨⟨given, after⟩, performed, rfl⟩ := map_eq_ok_iff.mp added
  obtain ⟨grows, contains⟩ := Addition.growsTo_of_perform performed
  refine ⟨fun location => (contains location).trans (run.contains location), fun fits => ?_⟩
  exact (run.keepsAll (grows.isAddressable fits)).perform performed fits

/-- **A run succeeds on the grid.** -/
theorem addAll_outcome (start : Database) (additions : List Addition) :
    ((∃ made, start.addAll additions = .ok made) ↔
        ∀ addition ∈ additions, start.Contains addition.location) ∧
      ∀ made, start.addAll additions = .ok made → start.IsRun additions made := by
  refine foldlM_outcome start.IsRun
    (fun additions => ∀ addition ∈ additions, start.Contains addition.location)
    (fun _ _ fits => (List.forall_mem_append.mp fits).1) (fun before made addition run fits => ?_)
    [] additions ⟨fun _ => Iff.rfl, fun _ => ⟨.nil, List.nodup_nil⟩⟩ nofun
  refine ⟨?_, fun _ => run.add⟩
  rw [Database.add, exists_map_eq_ok_iff, Addition.exists_perform_iff, run.contains,
    List.forall_mem_append, List.forall_mem_singleton]
  exact (and_iff_right fits).symm

/-- **Identities keep their meaning, and look-ups what they found.** Additions succeed on the grid
of a database, whatever they are and in any order. Of a run of them and all that is added to its
database after it:

* what was given out for an addition stands for what was added, unless there were more entries than
  indices, and nothing was given out twice;
* the tile that holds a PIP's arc, the tile of a kind at a location and the BEL of a name at one
  stay what they are once they are found. -/
theorem addAll_keeps_and_finds (start : Database) (additions : List Addition) :
    ((∃ made, start.addAll additions = .ok made) ↔
        ∀ addition ∈ additions, start.Contains addition.location) ∧
      ∀ identities db, start.addAll additions = .ok (identities, db) →
        ∀ since more later, db.addAll since = .ok (more, later) →
          (db.IsAddressable → later.KeepsAll additions identities) ∧
          (∀ pip name, db.pipTile pip = .ok (.ok name) → later.pipTile pip = .ok (.ok name)) ∧
          (∀ location kind name,
            db.tileAt location kind = .ok name → later.tileAt location kind = .ok name) ∧
          ∀ location name bel,
            db.belNamed? location name = some bel → later.belNamed? location name = some bel := by
  obtain ⟨exists_iff, kept⟩ := addAll_outcome start additions
  refine ⟨exists_iff, fun identities db ran since more later ranOn => ?_⟩
  have grows := growsTo_of_addAll ranOn
  refine ⟨fun fits => ?_, fun _ _ => grows.pipTile, fun _ _ _ => grows.tileAt,
    fun _ _ _ => grows.belNamed?⟩
  have kept := (kept _ ran).keepsAll fits
  exact ⟨kept.each.imp fun _ _ => grows.keeps, kept.distinct⟩

/-! ### A corner -/

/-- Two wires at opposite corners of a grid, and a PIP at a third that connects them. -/
def corner : List Addition :=
  [.wire ⟨0, 0⟩ "A", .wire ⟨1, 1⟩ "B", .tile ⟨0, 1⟩ "T0" "PLB",
    .pip ⟨0, 1⟩ ⟨⟨0, 0⟩, 0⟩ ⟨⟨1, 1⟩, 0⟩ "PLB" .fixed, .bel ⟨1, 0⟩ "S" "LUT"]

/-- What is given out for the corner. -/
def cornerIdentities : List (Option Identity) :=
  [some (.wire ⟨⟨0, 0⟩, 0⟩), some (.wire ⟨⟨1, 1⟩, 0⟩), none, some (.pip ⟨⟨0, 1⟩, 0⟩),
    some (.bel ⟨⟨1, 0⟩, 0⟩)]

/-- The corner alone on a grid. -/
def cornerDatabase : Database where
  __ := Database.empty .hc256 2 2
  grid := #[{ wires := #["A"] },
    { tiles := #[⟨"T0", "PLB"⟩], pips := #[⟨⟨0, -1, 0⟩, ⟨1, 0, 0⟩, "PLB", .fixed⟩] },
    { bels := #[⟨"S", "LUT"⟩] }, { wires := #["B"] }]
  grid_size := rfl

/-- Another PIP the other way, and entries of the same names and kinds. -/
def cornerAgain : List Addition :=
  [.tile ⟨0, 1⟩ "T1" "PLB", .pip ⟨0, 1⟩ ⟨⟨1, 1⟩, 0⟩ ⟨⟨0, 0⟩, 0⟩ "PLB" .configurable,
    .bel ⟨1, 0⟩ "S" "FF", .wire ⟨0, 0⟩ "A"]

theorem isAddressable_cornerDatabase : cornerDatabase.IsAddressable := by
  intro location contents held identity
  have small : ∀ contents ∈ cornerDatabase.grid, contents.wires.size ≤ 1 ∧
      contents.bels.size ≤ 1 ∧ contents.pips.size ≤ 1 := by decide
  have below : 1 ≤ UInt32.size := by decide
  obtain ⟨wires, bels, pips⟩ := small contents (mem_grid_of_contents? held)
  cases identity with
  | wire _ => exact Nat.le_trans wires below
  | bel _ => exact Nat.le_trans bels below
  | pip _ => exact Nat.le_trans pips below

/-- The corner's identities and its look-ups survive more of the same. -/
theorem addAll_corner : ∃ db more later,
    (Database.empty .hc256 2 2).addAll corner = .ok (cornerIdentities, db) ∧
      db.addAll cornerAgain = .ok (more, later) ∧ later.KeepsAll corner cornerIdentities ∧
      later.pipTile ⟨⟨0, 1⟩, 0⟩ = .ok (.ok "T0") ∧
      later.belNamed? ⟨1, 0⟩ "S" = some ⟨⟨1, 0⟩, 0⟩ := by
  have ran : (Database.empty .hc256 2 2).addAll corner = .ok (cornerIdentities, cornerDatabase) :=
    rfl
  obtain ⟨⟨more, later⟩, ranOn⟩ :=
    (addAll_keeps_and_finds cornerDatabase cornerAgain).1.mpr (by decide)
  obtain ⟨keepsAll, tile, _, bel⟩ :=
    (addAll_keeps_and_finds (Database.empty .hc256 2 2) corner).2 _ _ ran _ _ _ ranOn
  exact ⟨cornerDatabase, more, later, ran, ranOn, keepsAll isAddressable_cornerDatabase,
    tile _ _ rfl, bel _ _ _ (by decide +kernel)⟩

end Database

end FabricConfig
