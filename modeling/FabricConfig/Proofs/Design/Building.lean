import FabricConfig.Proofs.Design.Soundness
/-!
# Designs that are built

The operations on designs, one after the other from the empty design on, and what holds of whatever
they build.

* `IsBuilt`: the designs that are built, with the nets that were given out on the way.
* `exists_isBuilt_of_load`: a design that is loaded is one of them.
* `isBuilt_of_addEntries`: before its nets are added it has given out none.
* `SameCells`: what operations on nets leave as it is.
* `IsNamed`, `IsBuilt.isNamed`: the name and the kind of each cell stand in the name table.
-/

namespace FabricConfig

namespace Design

/-! ### Designs that are built -/

/-- The designs that come from the empty one by the operations on designs, with the numbers of the
nets that were added. PIPs are bound to these nets only. -/
inductive IsBuilt : Design → List NetId → Prop
  | empty : IsBuilt {} []
  | addCell {design : Design} {ids : List NetId} (built : IsBuilt design ids)
      (name kind : String) : IsBuilt (design.addCell name kind).2 ids
  | place {design : Design} {ids : List NetId} (built : IsBuilt design ids)
      (cell : CellId) (bel : BelId) : IsBuilt (design.place cell bel).1 ids
  | setParameter {design : Design} {ids : List NetId} (built : IsBuilt design ids)
      (cell : CellId) (key : String) (value : Property) :
      IsBuilt (design.setParameter cell key value).1 ids
  | setAttribute {design : Design} {ids : List NetId} (built : IsBuilt design ids)
      (cell : CellId) (key : String) (value : Property) :
      IsBuilt (design.setAttribute cell key value).1 ids
  | addNet {design : Design} {ids : List NetId} (built : IsBuilt design ids) (name : String) :
      IsBuilt (design.addNet name).2 ((design.addNet name).1 :: ids)
  | bindPip {design : Design} {ids : List NetId} (built : IsBuilt design ids) {id : NetId}
      (given : id ∈ ids) (pip : PipId) : IsBuilt (design.bindPip id pip).1 ids

variable {design : Design} {ids : List NetId} {id : NetId} {pip : PipId}

/-! ### Loading -/

theorem IsBuilt.addEntry (built : design.IsBuilt ids) {db : Database} {entry : CellEntry}
    {after : Design} (added : addEntry db design entry = .ok after) : after.IsBuilt ids := by
  refine addEntry_invariant (Design.IsBuilt · ids) added (built.addCell entry.name entry.kind)
    ?_ ?_ ?_
  · intro state id bel _ held
    exact held.place id bel
  · intro state id key value held
    exact held.setParameter id key value
  · intro state id key value held
    exact held.setAttribute id key value

theorem IsBuilt.bindListed (built : design.IsBuilt ids) (given : id ∈ ids) {db : Database}
    {name : String} {after : Design} (bound : bindListed db id name design pip = .ok after) :
    after.IsBuilt ids := by
  obtain ⟨_, rfl⟩ := bindListed_eq_ok bound
  exact built.bindPip given pip

theorem IsBuilt.addNetEntry (built : design.IsBuilt ids) {db : Database} {entry : NetEntry}
    {after : Design} (added : addNetEntry db design entry = .ok after) :
    after.IsBuilt ((design.addNet entry.name).1 :: ids) :=
  foldlM_invariant (Design.IsBuilt · ((design.addNet entry.name).1 :: ids))
    (fun _ _ _ held stepped => held.bindListed List.mem_cons_self stepped) added
    (built.addNet entry.name)

theorem isBuilt_of_addEntries {db : Database} {entries : List CellEntry}
    (added : entries.foldlM (Design.addEntry db) {} = .ok design) : design.IsBuilt [] :=
  foldlM_invariant (Design.IsBuilt · []) (fun _ _ _ held stepped => held.addEntry stepped) added
    .empty

/-- **A design that is loaded is built by the operations.** -/
theorem exists_isBuilt_of_load {db : Database} {text : String}
    (loaded : load db text = .ok design) : ∃ ids, design.IsBuilt ids := by
  unfold load at loaded
  split at loaded
  · obtain ⟨celled, cells, nets⟩ := bind_eq_ok_iff.mp loaded
    exact foldlM_invariant (fun design => ∃ ids, design.IsBuilt ids)
      (fun _ _ _ ⟨_, held⟩ stepped => ⟨_, held.addNetEntry stepped⟩) nets
      ⟨[], isBuilt_of_addEntries cells⟩
  · cases loaded

/-! ### Names of cells -/

/-- The same names and the same cells. Operations on nets leave both as they are. -/
structure SameCells (first second : Design) : Prop where
  names : second.names = first.names
  cells : second.cells = first.cells
  cellsByName : second.cellsByName = first.cellsByName

theorem sameCells_bindPip (design : Design) (id : NetId) (pip : PipId) :
    design.SameCells (design.bindPip id pip).1 := by
  refine bindPip_invariant (design.SameCells ·) ⟨rfl, rfl, rfl⟩ (fun state old same => ?_)
    (fun state same => ?_)
  · unfold removePip
    split <;> exact ⟨same.names, same.cells, same.cellsByName⟩
  · unfold appendPip
    split <;> exact ⟨same.names, same.cells, same.cellsByName⟩

/-- The name and the kind of each cell stand in the name table. -/
def IsNamed (design : Design) : Prop :=
  ∀ cell ∈ design.cells, design.names.Has cell.name ∧ design.names.Has cell.kind

theorem IsNamed.number (named : design.IsNamed) (name : String) :
    (design.number name).2.IsNamed :=
  fun cell member => ⟨(named cell member).1.number name, (named cell member).2.number name⟩

theorem IsNamed.addCell (named : design.IsNamed) (name kind : String) :
    (design.addCell name kind).2.IsNamed := by
  intro cell member
  rcases Array.mem_push.mp member with old | rfl
  · exact ((named.number name).number kind) cell old
  · exact ⟨(NameTable.has_number design.names name).number kind, NameTable.has_number _ kind⟩

theorem IsNamed.modifyCell (named : design.IsNamed) (id : CellId) {change : Cell → Cell}
    (kept : ∀ cell, (change cell).name = cell.name ∧ (change cell).kind = cell.kind) :
    (design.modifyCell id change).1.IsNamed := by
  unfold Design.modifyCell
  split
  · intro cell member
    rcases mem_modify member with old | ⟨old, inside, rfl⟩
    · exact named cell old
    · rw [(kept old).1, (kept old).2]
      exact named old inside
  · exact named

theorem IsNamed.sameCells (named : design.IsNamed) {after : Design}
    (same : design.SameCells after) : after.IsNamed := by
  unfold IsNamed
  rw [same.cells, same.names]
  exact named

/-- **The cells of a design that is built are named.** -/
theorem IsBuilt.isNamed (built : design.IsBuilt ids) : design.IsNamed := by
  induction built with
  | empty => exact fun cell member => absurd member (Array.not_mem_empty cell)
  | addCell _ name kind named => exact named.addCell name kind
  | place _ cell bel named => exact named.modifyCell cell fun _ => ⟨rfl, rfl⟩
  | setParameter _ cell key value named =>
    exact (named.number key).modifyCell cell fun _ => ⟨rfl, rfl⟩
  | setAttribute _ cell key value named =>
    exact (named.number key).modifyCell cell fun _ => ⟨rfl, rfl⟩
  | addNet _ name named => exact named.number name
  | bindPip _ _ pip named => exact named.sameCells (sameCells_bindPip _ _ pip)

end Design

end FabricConfig
