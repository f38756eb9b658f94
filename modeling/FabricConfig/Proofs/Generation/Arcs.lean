import FabricConfig.Generation.Arcs
import FabricConfig.Proofs.Device.Soundness
import FabricConfig.Proofs.Generation.Plan
/-!
# What PIPs give

The arc that a PIP gives, stated by itself, and that its plan makes just this arc.

* `mem_pipsWithArcs_iff`, `pipsWithArcs_ascending`: the PIPs that are closed, in order.
* `makes_planArc_iff`: the plan of a PIP comes to its end when the PIP gives an arc.
* `exists_givesArc_iff`: which it does when its tile is there.
-/

namespace FabricConfig

variable {db : Database} {design : Design} {pip : PipId} {edits : List Edit}

open Plan

/-- A wire that is named relative to a location has a name as seen from there. -/
def Database.SeenAs (db : Database) (location : Location) (relative : RelativeWire)
    (name : String) : Prop :=
  ∃ wire base, db.resolve? location relative = some wire ∧ db.wireName wire = .ok base ∧
    name = relativeName location wire.location base

/-- The arc that a PIP gives to the tile of its kind at its own location. -/
def GivesArc (db : Database) (pip : PipId) (tile sink source : String) : Prop :=
  ∃ entry, db.pip pip = .ok entry ∧ db.tileAt pip.location entry.tileKind = .ok tile ∧
    db.SeenAs pip.location entry.sink sink ∧ db.SeenAs pip.location entry.source source

/-- Whether a PIP is closed by the design: some net binds it, and it is no fixed connection. -/
def IsRouted (db : Database) (design : Design) (pip : PipId) : Prop :=
  (∃ net, design.boundNet? pip = some net) ∧
    ∃ entry, db.pip pip = .ok entry ∧ entry.pipClass = .configurable

theorem needsArc_eq_true_iff :
    needsArc db design pip = true ↔ IsRouted db design pip := by
  unfold needsArc IsRouted
  rw [Bool.and_eq_true, Option.isSome_iff_exists]
  refine and_congr_right fun _ => ?_
  cases db.pip pip with
  | error fault => exact iff_of_false nofun fun ⟨_, found, _⟩ => nomatch found
  | ok entry =>
    rw [beq_iff_eq]
    exact ⟨fun switch => ⟨entry, rfl, switch⟩, fun ⟨_, same, switch⟩ => by cases same; exact switch⟩

/-- The PIPs that need an arc are those that the design closes. -/
theorem mem_pipsWithArcs_iff_of_small (small : db.grid.size ≤ UInt32.size) :
    pip ∈ pipsWithArcs db design ↔ IsRouted db design pip := by
  rw [pipsWithArcs, List.mem_filter, needsArc_eq_true_iff, and_iff_right_iff_imp]
  rintro ⟨_, entry, found, _⟩
  exact (Database.mem_pips_iff small).mpr (Database.hasPip_iff_exists_pip.mpr ⟨entry, found⟩)

theorem mem_pipsWithArcs_iff (sound : db.IsSound) :
    pip ∈ pipsWithArcs db design ↔ IsRouted db design pip :=
  mem_pipsWithArcs_iff_of_small sound.small

theorem pipsWithArcs_ascending_of_small (small : db.grid.size ≤ UInt32.size) :
    (pipsWithArcs db design).Pairwise fun first second => compare first second = .lt :=
  (Database.pips_ascending small).filter _

theorem nodup_pipsWithArcs_of_small (small : db.grid.size ≤ UInt32.size) :
    (pipsWithArcs db design).Nodup :=
  (pipsWithArcs_ascending_of_small small).imp fun less same => by
    rw [same, Std.ReflOrd.compare_self] at less
    cases less

theorem pipsWithArcs_ascending (sound : db.IsSound) :
    (pipsWithArcs db design).Pairwise fun first second => compare first second = .lt :=
  pipsWithArcs_ascending_of_small sound.small

theorem relativeWireName_eq_ok_iff {origin : Location} {wire : WireId} {name : String} :
    db.relativeWireName origin wire = .ok name ↔
      ∃ base, db.wireName wire = .ok base ∧ name = relativeName origin wire.location base := by
  refine bind_eq_ok_iff.trans (exists_congr fun base => and_congr_right fun _ => ?_)
  show Except.ok _ = Except.ok name ↔ _
  rw [Except.ok.injEq, eq_comm]

/-- The name of a wire that is there, looked up unchecked, is what the wire is seen as. -/
theorem relativeWireName_eq_ok_iff_seenAs {location : Location} {relative : RelativeWire}
    {wire : WireId} {name : String} (resolved : db.resolve? location relative = some wire) :
    db.relativeWireName location wire = .ok name ↔ db.SeenAs location relative name := by
  rw [relativeWireName_eq_ok_iff, Database.SeenAs]
  constructor
  · rintro ⟨base, named, same⟩
    exact ⟨wire, base, resolved, named, same⟩
  · rintro ⟨other, base, found, named, same⟩
    rw [resolved] at found
    cases found
    exact ⟨base, named, same⟩

/-- **The plan of a PIP makes the arc that the PIP gives**, if it gives one. -/
theorem makes_planArc_iff (sound : db.IsSound) {entry : Pip}
    (found : db.pip pip = .ok entry) :
    (planArc db pip).Makes edits () ↔
      ∃ tile sink source, GivesArc db pip tile sink source ∧
        edits = [.set tile (.arc sink source)] := by
  obtain ⟨source, sink, sourceThere, atSource, sinkThere, atSink⟩ := sound.exists_ends found
  have inTile : db.pipTile pip = .ok (db.tileAt pip.location entry.tileKind) := by
    rw [Database.pipTile, found]
    rfl
  have sourceLookup : (db.pipSource pip >>= db.relativeWireName pip.location) =
      db.relativeWireName pip.location source := by
    rw [atSource]
    rfl
  have sinkLookup : (db.pipSink pip >>= db.relativeWireName pip.location) =
      db.relativeWireName pip.location sink := by
    rw [atSink]
    rfl
  unfold planArc
  simp only [inTile, sourceLookup, sinkLookup, makes_ofLookup_bind_iff, makes_ofTile_bind_iff,
    makes_edit_iff, relativeWireName_eq_ok_iff_seenAs sourceThere,
    relativeWireName_eq_ok_iff_seenAs sinkThere]
  constructor
  · rintro ⟨_, same, tile, kept, sourceName, seenSource, sinkName, seenSink, rfl⟩
    cases same
    exact ⟨tile, sinkName, sourceName, ⟨entry, found, kept, seenSink, seenSource⟩, rfl⟩
  · rintro ⟨tile, sinkName, sourceName, ⟨other, same, kept, seenSink, seenSource⟩, rfl⟩
    rw [found] at same
    cases same
    exact ⟨_, rfl, tile, kept, sourceName, seenSource, sinkName, seenSink, rfl⟩

/-- **A PIP gives an arc when its tile is there.** -/
theorem exists_givesArc_iff (sound : db.IsSound) :
    (∃ tile sink source, GivesArc db pip tile sink source) ↔
      ∃ entry tile, db.pip pip = .ok entry ∧ db.tileAt pip.location entry.tileKind = .ok tile := by
  constructor
  · rintro ⟨tile, _, _, entry, found, kept, _⟩
    exact ⟨entry, tile, found, kept⟩
  · rintro ⟨entry, tile, found, kept⟩
    obtain ⟨source, sink, sourceThere, _, sinkThere, _⟩ := sound.exists_ends found
    obtain ⟨sourceBase, sourceNamed⟩ := Database.hasWire_iff_exists_wireName.mp
      (Database.resolve?_eq_some_iff.mp sourceThere).2.2
    obtain ⟨sinkBase, sinkNamed⟩ := Database.hasWire_iff_exists_wireName.mp
      (Database.resolve?_eq_some_iff.mp sinkThere).2.2
    exact ⟨tile, _, _, entry, found, kept, ⟨sink, sinkBase, sinkThere, sinkNamed, rfl⟩,
      source, sourceBase, sourceThere, sourceNamed, rfl⟩

theorem exists_makes_planArc_iff (sound : db.IsSound) (routed : IsRouted db design pip) :
    (∃ edits, (planArc db pip).Makes edits ()) ↔
      ∃ tile sink source, GivesArc db pip tile sink source := by
  obtain ⟨entry, found, _⟩ := routed.2
  simp only [makes_planArc_iff sound found]
  constructor
  · rintro ⟨_, tile, sink, source, gives, _⟩
    exact ⟨tile, sink, source, gives⟩
  · rintro ⟨tile, sink, source, gives⟩
    exact ⟨_, tile, sink, source, gives, rfl⟩

/-- What the plan of a PIP sets is the arc that the PIP gives. -/
theorem set_mem_planArc_iff (sound : db.IsSound) (routed : IsRouted db design pip)
    (made : (planArc db pip).Makes edits ()) {tile : String} {feature : Feature} :
    .set tile feature ∈ edits ↔
      ∃ sink source, feature = .arc sink source ∧ GivesArc db pip tile sink source := by
  obtain ⟨entry, found, _⟩ := routed.2
  constructor
  · intro member
    obtain ⟨_, sink, source, gives, rfl⟩ := (makes_planArc_iff sound found).mp made
    cases List.mem_singleton.mp member
    exact ⟨sink, source, rfl, gives⟩
  · rintro ⟨sink, source, rfl, gives⟩
    have same := ((makes_planArc_iff sound found).mpr ⟨tile, sink, source, gives, rfl⟩).edits
    rw [made.edits] at same
    rw [same]
    exact List.mem_singleton_self _

end FabricConfig
