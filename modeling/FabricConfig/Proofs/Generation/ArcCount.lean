import FabricConfig.Proofs.Generation.Exactness
import Mathlib.Data.List.Dedup
import Mathlib.Data.List.Pairwise
/-!
# Counting arcs

The stage of the arcs counts what it writes, a document counts what it holds. An arc is known in a
document by its tile and its sink, so two PIPs whose arcs have one place leave one arc.

* `Document.arcPlaces`, `length_arcPlaces`: the arcs of a document, by their places.
* `arcCount_applyAll`: edits leave an arc for each of the different places that they set.
* `Database.arcPlace?`, `map_some_filterMap_arcEdits`: the places that PIPs set.
* `planArcs_counts_and_arcCount`: both counts, and when they agree.
-/

namespace FabricConfig

variable {db : Database} {design : Design} {edits : List Edit} {tile sink : String}

open Plan

/-! ### The arcs of a document -/

/-- The tile and the sink of the arc that an edit sets. -/
def Edit.arcPlace? : Edit → Option (String × String)
  | set tile (.arc sink _) => some (tile, sink)
  | _ => none

theorem Edit.arcPlace?_eq_some_iff {edit : Edit} :
    edit.arcPlace? = some (tile, sink) ↔ ∃ source, edit = .set tile (.arc sink source) := by
  cases edit with
  | create other => exact ⟨nofun, nofun⟩
  | set other feature =>
    cases feature with
    | arc wire source => simp [arcPlace?]
    | _ => exact ⟨nofun, nofun⟩

namespace Document

variable {document : Document}

/-- The tile and the sink of each arc of a document. -/
def arcPlaces (document : Document) : List (String × String) :=
  document.tiles.toList.flatMap fun entry => entry.2.arcs.keys.map (entry.1, ·)

/-- **A document has as many arcs as places of arcs.** -/
theorem length_arcPlaces (document : Document) : document.arcPlaces.length = document.arcCount := by
  unfold arcPlaces arcCount
  induction document.tiles.toList with
  | nil => rfl
  | cons entry entries ih =>
    rw [List.flatMap_cons, List.length_append, List.length_map, Std.ExtTreeMap.length_keys, ih]
    rfl

theorem mem_arcPlaces_iff :
    (tile, sink) ∈ document.arcPlaces ↔ (document.settings tile).feature? (.arc sink) ≠ none := by
  have held : (document.settings tile).feature? (.arc sink) ≠ none ↔
      sink ∈ (document.settings tile).arcs := by
    rw [Std.ExtTreeMap.mem_iff_isSome_getElem?, TileSettings.feature?, Ne, Option.map_eq_none_iff,
      Option.isSome_iff_ne_none]
  rw [held, arcPlaces, List.mem_flatMap]
  constructor
  · rintro ⟨⟨name, given⟩, member, inside⟩
    obtain ⟨wire, driven, same⟩ := List.mem_map.mp inside
    obtain ⟨rfl, rfl⟩ := Prod.mk.inj same
    rw [settings, Std.ExtTreeMap.mem_toList_iff_getElem?_eq_some.mp member]
    exact Std.ExtTreeMap.mem_keys.mp driven
  · intro driven
    rw [settings] at driven
    cases found : document.tiles[tile]? with
    | none =>
      rw [found] at driven
      exact absurd driven Std.ExtTreeMap.not_mem_empty
    | some given =>
      rw [found] at driven
      exact ⟨(tile, given), Std.ExtTreeMap.mem_toList_iff_getElem?_eq_some.mpr found,
        List.mem_map.mpr ⟨sink, Std.ExtTreeMap.mem_keys.mpr driven, rfl⟩⟩

/-- No two arcs have one place. -/
theorem nodup_arcPlaces (document : Document) : document.arcPlaces.Nodup := by
  rw [arcPlaces, List.Nodup, List.pairwise_flatMap]
  constructor
  · intro entry _
    rw [List.pairwise_map]
    exact Std.ExtTreeMap.nodup_keys.imp fun different same => different (Prod.mk.inj same).2
  · refine Std.ExtTreeMap.ordered_keys_toList.imp fun {first second} less => ?_
    rintro place here other there rfl
    obtain ⟨_, _, rfl⟩ := List.mem_map.mp here
    obtain ⟨_, _, same⟩ := List.mem_map.mp there
    rw [(Prod.mk.inj same).1, Std.ReflOrd.compare_self] at less
    cases less

/-- An arc is there after edits if one of them set an arc of its place, or it was there before. -/
theorem mem_arcPlaces_applyAll_iff {place : String × String} :
    place ∈ (document.applyAll edits).arcPlaces ↔
      place ∈ edits.filterMap Edit.arcPlace? ∨ place ∈ document.arcPlaces := by
  rcases place with ⟨tile, sink⟩
  have set : edits.filterMap (·.feature? tile (.arc sink)) ≠ [] ↔
      (tile, sink) ∈ edits.filterMap Edit.arcPlace? := by
    rw [Ne, filterMap_feature?_eq_nil_iff, List.mem_filterMap]
    simp only [Edit.arcPlace?_eq_some_iff, not_forall, not_not]
    constructor
    · rintro ⟨feature, member, own⟩
      cases feature with
      | arc wire source =>
        cases own
        exact ⟨_, member, source, rfl⟩
      | _ => cases own
    · rintro ⟨_, member, source, rfl⟩
      exact ⟨.arc sink source, member, rfl⟩
  rw [mem_arcPlaces_iff, mem_arcPlaces_iff, feature?_applyAll, Ne, Option.or_eq_none_iff, not_and_or,
    List.getLast?_eq_none_iff, ← Ne, set]

/-- **Edits leave an arc for each of the different places that they set**, on a document that has no
arcs. -/
theorem arcCount_applyAll (bare : document.arcCount = 0) :
    (document.applyAll edits).arcCount = (edits.filterMap Edit.arcPlace?).dedup.length := by
  have none : document.arcPlaces = [] :=
    List.eq_nil_of_length_eq_zero ((length_arcPlaces document).trans bare)
  rw [← length_arcPlaces]
  refine ((List.perm_ext_iff_of_nodup (nodup_arcPlaces _) (List.nodup_dedup _)).mpr
    fun place => ?_).length_eq
  rw [mem_arcPlaces_applyAll_iff, none, List.mem_dedup, or_iff_left List.not_mem_nil]

end Document

/-! ### The arcs of PIPs -/

/-- The place of a PIP's arc: the tile of the PIP's kind at its own location, and the name of the
PIP's sink as seen from there. -/
def Database.arcPlace? (db : Database) (pip : PipId) : Option (String × String) :=
  match db.pipTile pip, db.pipSink pip >>= db.relativeWireName pip.location with
  | .ok (.ok tile), .ok sink => some (tile, sink)
  | _, _ => none

/-- A plan of an arc that comes to its end sets one arc, in its place. -/
theorem filterMap_arcPlace?_planArc {pip : PipId} (ended : (planArc db pip).outcome = .ok ()) :
    ∃ place, db.arcPlace? pip = some place ∧
      (planArc db pip).edits.filterMap Edit.arcPlace? = [place] := by
  have made : (planArc db pip).Makes (planArc db pip).edits () := ⟨rfl, ended⟩
  unfold planArc at made
  simp only [makes_ofLookup_bind_iff, makes_ofTile_bind_iff, makes_edit_iff] at made
  obtain ⟨_, inTile, tile, rfl, source, _, sink, seen, only⟩ := made
  refine ⟨(tile, sink), ?_, ?_⟩
  · rw [Database.arcPlace?, inTile, seen]
  · rw [planArc]
    exact congrArg (List.filterMap Edit.arcPlace?) only

/-- What the stage of the arcs comes to when it comes to its end. -/
theorem of_makes_planArcs {count : Nat} (made : (planArcs db design).Makes edits count) :
    count = (pipsWithArcs db design).length ∧ edits = arcEdits db design ∧
      ∀ pip ∈ pipsWithArcs db design, (planArc db pip).outcome = .ok () := by
  obtain ⟨ended, same⟩ := exists_makes_planArcs_iff.mp ⟨count, made⟩
  obtain ⟨values, all, rfl⟩ := makes_map_iff.mp made
  have lengths := congrArg List.length (makes_all_iff.mp all).2
  rw [List.length_map, List.length_map, List.length_map] at lengths
  exact ⟨lengths.symm, same, ended⟩

/-- The values of items that all have one, in place. -/
theorem map_some_filterMap {α β : Type} {items : List α} {value? : α → Option β}
    (each : ∀ item ∈ items, ∃ value, value? item = some value) :
    (items.filterMap value?).map some = items.map value? := by
  induction items with
  | nil => rfl
  | cons item items ih =>
    obtain ⟨value, found⟩ := each item List.mem_cons_self
    rw [List.filterMap_cons_some found, List.map_cons, List.map_cons, found,
      ih fun other member => each other (List.mem_cons_of_mem _ member)]

/-- **The places that the stage of the arcs sets** are those of the PIPs that need an arc. -/
theorem map_some_filterMap_arcEdits
    (ended : ∀ pip ∈ pipsWithArcs db design, (planArc db pip).outcome = .ok ()) :
    ((arcEdits db design).filterMap Edit.arcPlace?).map some =
      (pipsWithArcs db design).map db.arcPlace? := by
  have each (pip : PipId) (member : pip ∈ pipsWithArcs db design) :
      (planArc db pip).edits.filterMap Edit.arcPlace? = (db.arcPlace? pip).toList := by
    obtain ⟨place, found, only⟩ := filterMap_arcPlace?_planArc (ended pip member)
    rw [found, only, Option.toList_some]
  rw [← map_some_filterMap fun pip member =>
    (filterMap_arcPlace?_planArc (ended pip member)).imp fun _ both => both.1]
  rw [arcEdits, List.filterMap_flatMap, List.filterMap_eq_flatMap_toList,
    List.flatMap_congr each]

/-! ### Both counts -/

theorem length_dedup_eq_iff_nodup {α : Type} [DecidableEq α] {items : List α} :
    items.dedup.length = items.length ↔ items.Nodup := by
  constructor
  · intro same
    exact List.dedup_eq_self.mp ((List.dedup_sublist items).eq_of_length same)
  · intro nodup
    rw [nodup.dedup]

/-- Whether the arcs of all PIPs that need one have different places, the PIPs taken in pairs. -/
theorem pairwise_arcPlace?_iff_of_small (small : db.grid.size ≤ UInt32.size) :
    ((pipsWithArcs db design).Pairwise fun first second =>
        db.arcPlace? first ≠ db.arcPlace? second) ↔
      ∀ first second, IsRouted db design first → IsRouted db design second → first ≠ second →
        db.arcPlace? first ≠ db.arcPlace? second := by
  simp only [← mem_pipsWithArcs_iff_of_small small]
  constructor
  · intro apart first second firstIn secondIn different
    have symmetric : Std.Symm fun first second => db.arcPlace? first ≠ db.arcPlace? second :=
      ⟨fun _ _ => Ne.symm⟩
    exact apart.forall firstIn secondIn different
  · intro apart
    refine (nodup_pipsWithArcs_of_small small).pairwise_of_forall_ne ?_
    exact fun first firstIn second secondIn => apart first second firstIn secondIn

/-- **What the stage of the arcs counts, and what it leaves.** On a document without arcs it counts
one for each PIP that needs an arc, and leaves at most as many: just as many exactly if no two of the
PIPs keep their arcs in one tile under one sink. The PIPs that need an arc are those of the device
that a net binds and that are no fixed connections, each once. Slots are numbered in 32 bits, which
reach for all grids that are loaded (`Database.IsSound.small`). -/
theorem planArcs_counts_and_arcCount {before after : Document} {count : Nat}
    (bare : before.arcCount = 0) (planned : (planArcs db design).outcome = .ok count)
    (ran : (planArcs db design).run before = .ok after) :
    count = (pipsWithArcs db design).length ∧ after.arcCount ≤ count ∧
      (∀ pip ∈ pipsWithArcs db design, ∃ place, db.arcPlace? pip = some place) ∧
      (after.arcCount = count ↔ (pipsWithArcs db design).Pairwise fun first second =>
        db.arcPlace? first ≠ db.arcPlace? second) ∧
      (db.grid.size ≤ UInt32.size →
        (pipsWithArcs db design).Nodup ∧
        (∀ pip, pip ∈ pipsWithArcs db design ↔ IsRouted db design pip) ∧
        (after.arcCount = count ↔
          ∀ first second, IsRouted db design first → IsRouted db design second → first ≠ second →
            db.arcPlace? first ≠ db.arcPlace? second)) := by
  obtain ⟨rfl, same, ended⟩ := of_makes_planArcs ⟨rfl, planned⟩
  have places := map_some_filterMap_arcEdits ended
  have held : after.arcCount = ((arcEdits db design).filterMap Edit.arcPlace?).dedup.length := by
    rw [← (run_eq_ok_iff.mp ran).2, same, Document.arcCount_applyAll bare]
  have size : ((arcEdits db design).filterMap Edit.arcPlace?).length =
      (pipsWithArcs db design).length := by
    have lengths := congrArg List.length places
    rwa [List.length_map, List.length_map] at lengths
  have agree : after.arcCount = (pipsWithArcs db design).length ↔
      (pipsWithArcs db design).Pairwise fun first second =>
        db.arcPlace? first ≠ db.arcPlace? second := by
    rw [held, ← size, length_dedup_eq_iff_nodup, ← List.nodup_map_iff fun _ _ => Option.some.inj,
      places, List.Nodup, List.pairwise_map]
  refine ⟨rfl, ?_, fun pip member => ?_, agree, fun small => ⟨?_, fun pip => ?_, ?_⟩⟩
  · rw [held, ← size]
    exact (List.dedup_sublist _).length_le
  · exact (filterMap_arcPlace?_planArc (ended pip member)).imp fun _ both => both.1
  · exact nodup_pipsWithArcs_of_small small
  · exact mem_pipsWithArcs_iff_of_small small
  · rw [agree, pairwise_arcPlace?_iff_of_small small]

/-- A device with two PIPs that drive one wire, from its own location and from the east, and a fixed
connection. -/
def forkDatabase : Database where
  variant := .hc1200
  package := "TG100"
  speed := "4"
  rows := 1
  cols := 2
  grid := #[
    { tiles := #[⟨"R1C1:PLC", "PLC"⟩], wires := #["A0", "F0"],
      pips := #[⟨⟨0, 0, 1⟩, ⟨0, 0, 0⟩, "PLC", .configurable⟩,
        ⟨⟨0, 1, 0⟩, ⟨0, 0, 0⟩, "PLC", .configurable⟩, ⟨⟨0, 0, 0⟩, ⟨0, 0, 1⟩, "PLC", .fixed⟩] },
    { wires := #["F0"] }]
  grid_size := rfl

/-- A design that binds all three PIPs, and one that the device does not have. -/
def forkDesign : Design :=
  [0, 1, 2, 9].foldl (fun design index => (design.bindPip 0 ⟨⟨0, 0⟩, index⟩).1)
    (({} : Design).addNet "net").2

/-- Both PIPs are counted, and the second one's arc is left. -/
theorem arcCount_forkDesign :
    ∃ after, (planArcs forkDatabase forkDesign).outcome = .ok 2 ∧
      (planArcs forkDatabase forkDesign).run {} = .ok after ∧ forkDesign.boundPipCount = 4 ∧
      2 = (pipsWithArcs forkDatabase forkDesign).length ∧ after.arcCount = 1 ∧
      (∀ pip, pip ∈ pipsWithArcs forkDatabase forkDesign ↔
        IsRouted forkDatabase forkDesign pip) ∧
      ¬∀ first second, IsRouted forkDatabase forkDesign first →
        IsRouted forkDatabase forkDesign second → first ≠ second →
          forkDatabase.arcPlace? first ≠ forkDatabase.arcPlace? second := by
  have planned : (planArcs forkDatabase forkDesign).outcome.toOption = some 2 := by decide +kernel
  have made : ((planArcs forkDatabase forkDesign).run {}).toOption.map Document.arcCount = some 1 := by
    decide +kernel
  obtain ⟨after, ended, one⟩ := Option.map_eq_some_iff.mp made
  have ran := eq_ok_of_toOption ended
  obtain ⟨counted, _, _, _, whole⟩ :=
    planArcs_counts_and_arcCount rfl (eq_ok_of_toOption planned) ran
  obtain ⟨_, listed, agree⟩ := whole (by decide)
  refine ⟨after, eq_ok_of_toOption planned, ran, by decide +kernel, counted, one, listed, ?_⟩
  rw [← agree, one]
  decide

end FabricConfig
