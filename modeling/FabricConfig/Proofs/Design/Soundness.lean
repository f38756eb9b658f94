import FabricConfig.Design.Listing
import FabricConfig.Proofs.Device.Entries
/-!
# Sound designs

A design is sound on a device when all numbers in it refer to something: to names of its table, to
BELs and to PIPs of the device. Every operation of the loader keeps this, so a design that is
loaded is sound.

* `Cell.IsSound`, `Design.IsSound`: what the numbers in a cell and in a design refer to.
* `IsSound.addCell`, `IsSound.modifyCell`, `IsSound.addNet`, `IsSound.bindPip`: one operation.
* `isSound_of_load`: a whole listing.
-/

namespace FabricConfig

/-! ### Numbered names -/

namespace NameTable

/-- Whether a number belongs to some name. -/
def Has (table : NameTable) (id : Nat) : Prop := ∃ name, table.name? id = some name

theorem has_number (table : NameTable) (name : String) :
    (table.number name).2.Has (table.number name).1 :=
  ⟨name, name?_number table name⟩

theorem Has.number {table : NameTable} {id : Nat} (has : table.Has id) (name : String) :
    (table.number name).2.Has id := by
  obtain ⟨other, found⟩ := has
  exact ⟨other, name?_number_of_eq_some name found⟩

end NameTable

/-- The numbers in a cell refer to names of a table and to a BEL of the device. -/
structure Cell.IsSound (db : Database) (names : NameTable) (cell : Cell) : Prop where
  name : names.Has cell.name
  kind : names.Has cell.kind
  parameters : ∀ key ∈ cell.parameters, names.Has key
  attributes : ∀ key ∈ cell.attributes, names.Has key
  bel : ∀ bel, cell.bel = some bel → ∃ site, db.belName bel = .ok site

namespace Cell

variable {db : Database} {names : NameTable} {cell : Cell}

/-- A cell keeps its names when the table grows. -/
theorem IsSound.number (sound : cell.IsSound db names) (name : String) :
    cell.IsSound db (names.number name).2 where
  name := sound.name.number name
  kind := sound.kind.number name
  parameters key member := (sound.parameters key member).number name
  attributes key member := (sound.attributes key member).number name
  bel := sound.bel

theorem IsSound.place (sound : cell.IsSound db names) {bel : BelId} {site : String}
    (named : db.belName bel = .ok site) :
    ({ cell with bel := some bel } : Cell).IsSound db names where
  name := sound.name
  kind := sound.kind
  parameters := sound.parameters
  attributes := sound.attributes
  bel other same := by
    cases same
    exact ⟨site, named⟩

/-- The keys after an insertion are the inserted one and those from before. -/
theorem has_of_mem_insert {properties : Properties} {key : NameId} {value : Property}
    (has : names.Has key) (before : ∀ key ∈ properties, names.Has key) :
    ∀ other ∈ properties.insert key value, names.Has other := by
  intro other member
  rw [Std.ExtTreeMap.mem_insert] at member
  rcases member with same | member
  · rw [← Std.LawfulEqOrd.compare_eq_iff_eq.mp same]
    exact has
  · exact before other member

theorem IsSound.setParameter (sound : cell.IsSound db names) {key : NameId} (has : names.Has key)
    (value : Property) :
    ({ cell with parameters := cell.parameters.insert key value } : Cell).IsSound db names where
  name := sound.name
  kind := sound.kind
  parameters := has_of_mem_insert has sound.parameters
  attributes := sound.attributes
  bel := sound.bel

theorem IsSound.setAttribute (sound : cell.IsSound db names) {key : NameId} (has : names.Has key)
    (value : Property) :
    ({ cell with attributes := cell.attributes.insert key value } : Cell).IsSound db names where
  name := sound.name
  kind := sound.kind
  parameters := sound.parameters
  attributes := has_of_mem_insert has sound.attributes
  bel := sound.bel

end Cell

/-- The numbers in a design refer to names of its table and to BELs and PIPs of the device. -/
structure Design.IsSound (db : Database) (design : Design) : Prop where
  cells : ∀ cell ∈ design.cells, cell.IsSound db design.names
  nets : ∀ net ∈ design.nets, design.names.Has net.name
  bindings : ∀ pip net, design.boundNet? pip = some net → db.hasPip pip = true

namespace Design

variable {db : Database} {design : Design}

theorem isSound_empty (db : Database) : ({} : Design).IsSound db where
  cells cell member := absurd member (Array.not_mem_empty cell)
  nets net member := absurd member (Array.not_mem_empty net)
  bindings pip net bound := by
    rw [boundNet?, Std.ExtTreeMap.getElem?_empty] at bound
    cases bound

/-! ### Operations on cells -/

theorem IsSound.number (sound : design.IsSound db) (name : String) :
    (design.number name).2.IsSound db where
  cells cell member := (sound.cells cell member).number name
  nets net member := (sound.nets net member).number name
  bindings := sound.bindings

/-- What is changed in a table comes from an entry of the table. -/
theorem mem_modify {α : Type} {table : Array α} {place : Nat} {change : α → α} {entry : α}
    (member : entry ∈ table.modify place change) :
    entry ∈ table ∨ ∃ old ∈ table, entry = change old := by
  obtain ⟨index, found⟩ := Array.mem_iff_getElem?.mp member
  rw [Array.getElem?_modify] at found
  split at found
  · obtain ⟨old, there, changed⟩ := Option.map_eq_some_iff.mp found
    exact .inr ⟨old, Array.mem_of_getElem? there, changed.symm⟩
  · exact .inl (Array.mem_of_getElem? found)

/-- **Changing a cell keeps a design sound** when the change keeps the cell sound. -/
theorem IsSound.modifyCell (sound : design.IsSound db) (id : CellId) {change : Cell → Cell}
    (kept : ∀ cell, cell.IsSound db design.names → (change cell).IsSound db design.names) :
    (design.modifyCell id change).1.IsSound db := by
  unfold Design.modifyCell
  split
  · refine ⟨fun cell member => ?_, sound.nets, sound.bindings⟩
    rcases mem_modify member with old | ⟨old, inside, rfl⟩
    · exact sound.cells cell old
    · exact kept old (sound.cells old inside)
  · exact sound

theorem IsSound.addCell (sound : design.IsSound db) (name kind : String) :
    (design.addCell name kind).2.IsSound db := by
  have numbered := (sound.number name).number kind
  refine ⟨fun cell member => ?_, numbered.nets, numbered.bindings⟩
  rcases Array.mem_push.mp member with old | rfl
  · exact numbered.cells cell old
  · refine ⟨?_, NameTable.has_number _ kind, ?_, ?_, nofun⟩
    · exact (NameTable.has_number design.names name).number kind
    · exact fun key none => absurd none Std.ExtTreeMap.not_mem_empty
    · exact fun key none => absurd none Std.ExtTreeMap.not_mem_empty

theorem IsSound.place (sound : design.IsSound db) (id : CellId) {bel : BelId} {site : String}
    (named : db.belName bel = .ok site) : (design.place id bel).1.IsSound db :=
  sound.modifyCell id fun _ cellSound => cellSound.place named

theorem IsSound.setParameter (sound : design.IsSound db) (id : CellId) (key : String)
    (value : Property) : (design.setParameter id key value).1.IsSound db :=
  (sound.number key).modifyCell id fun _ cellSound =>
    cellSound.setParameter (NameTable.has_number design.names key) value

theorem IsSound.setAttribute (sound : design.IsSound db) (id : CellId) (key : String)
    (value : Property) : (design.setAttribute id key value).1.IsSound db :=
  (sound.number key).modifyCell id fun _ cellSound =>
    cellSound.setAttribute (NameTable.has_number design.names key) value

/-! ### Operations on nets -/

theorem IsSound.addNet (sound : design.IsSound db) (name : String) :
    (design.addNet name).2.IsSound db := by
  have numbered := sound.number name
  refine ⟨numbered.cells, fun net member => ?_, numbered.bindings⟩
  rcases Array.mem_push.mp member with old | rfl
  · exact numbered.nets net old
  · exact NameTable.has_number design.names name

/-- Changing a net but not its name keeps a design sound. -/
theorem IsSound.modifyNet (sound : design.IsSound db) (place : Nat) {change : Net → Net}
    (named : ∀ net, (change net).name = net.name) :
    ({ design with nets := design.nets.modify place change } : Design).IsSound db := by
  refine ⟨sound.cells, fun net member => ?_, sound.bindings⟩
  rcases mem_modify member with old | ⟨old, inside, rfl⟩
  · exact sound.nets net old
  · rw [named]
    exact sound.nets old inside

theorem IsSound.removePip (sound : design.IsSound db) (id : NetId) (pip : PipId) :
    (design.removePip id pip).1.IsSound db := by
  unfold Design.removePip
  split
  · exact sound.modifyNet id.toNat fun _ => rfl
  · exact sound

theorem IsSound.appendPip (sound : design.IsSound db) (id : NetId) (pip : PipId) :
    (design.appendPip id pip).1.IsSound db := by
  unfold Design.appendPip
  split
  · exact sound.modifyNet id.toNat fun _ => rfl
  · exact sound

/-- **What the three steps of binding a PIP keep is kept**, wherever a fault ends them. -/
theorem bindPip_invariant (Holds : Design → Prop) {id : NetId} {pip : PipId}
    (recorded : Holds { design with bindings := design.bindings.insert pip id })
    (removePip : ∀ state old, Holds state → Holds (state.removePip old pip).1)
    (appendPip : ∀ state, Holds state → Holds (state.appendPip id pip).1) :
    Holds (design.bindPip id pip).1 := by
  unfold Design.bindPip
  cases design.boundNet? pip with
  | none => exact appendPip _ recorded
  | some old =>
    dsimp only
    have removed := removePip _ old recorded
    split
    · exact removed
    · exact appendPip _ removed

/-- **Binding a PIP of the device keeps a design sound.** -/
theorem IsSound.bindPip (sound : design.IsSound db) (id : NetId) {pip : PipId}
    (present : db.hasPip pip = true) : (design.bindPip id pip).1.IsSound db := by
  refine bindPip_invariant (Design.IsSound db) ⟨sound.cells, sound.nets, fun other net bound => ?_⟩
    (fun _ old held => held.removePip old pip) (fun _ held => held.appendPip id pip)
  rw [boundNet?, Std.ExtTreeMap.getElem?_insert] at bound
  split at bound
  · rename_i same
    rw [← Std.LawfulEqOrd.compare_eq_iff_eq.mp same]
    exact present
  · exact sound.bindings other net bound

/-! ### Loading -/

/-- A BEL that is found by its name has an entry. -/
theorem exists_belName_of_belNamed? {location : Location} {name : String} {bel : BelId}
    (found : db.belNamed? location name = some bel) : ∃ site, db.belName bel = .ok site := by
  obtain ⟨contents, held, index⟩ := Option.bind_eq_some_iff.mp found
  obtain ⟨place, first, rfl⟩ := Option.map_eq_some_iff.mp index
  have within := (Array.findIdx?_eq_some_iff_getElem.mp first).1
  have reached : (UInt32.ofNat place).toNat < contents.bels.size :=
    Nat.lt_of_le_of_lt (Nat.mod_le _ _) within
  exact ⟨_, Database.belName_eq_ok_iff.mpr ⟨contents, _, held,
    Array.getElem?_eq_getElem reached, rfl⟩⟩

theorem exists_belName_of_findBel {entry : CellEntry} {bel : BelId}
    (found : findBel db entry = .ok (some bel)) : ∃ site, db.belName bel = .ok site := by
  unfold findBel at found
  split at found
  · cases found
  · split at found
    · rename_i named
      cases found
      exact exists_belName_of_belNamed? named
    · cases found

/-- **What the operations on cells keep is kept when a listed cell is added.** -/
theorem addEntry_invariant (Holds : Design → Prop) {entry : CellEntry} {after : Design}
    (added : addEntry db design entry = .ok after)
    (celled : Holds (design.addCell entry.name entry.kind).2)
    (place : ∀ state id bel, findBel db entry = .ok (some bel) → Holds state →
      Holds (state.place id bel).1)
    (setParameter : ∀ state id key value, Holds state → Holds (state.setParameter id key value).1)
    (setAttribute : ∀ state id key value, Holds state → Holds (state.setAttribute id key value).1) :
    Holds after := by
  unfold Design.addEntry at added
  split at added
  · cases added
  · dsimp only at added
    split at added
    · cases added
    · rename_i bel? found
      cases added
      refine List.foldlRecOn (motive := Holds) _ _
        (List.foldlRecOn (motive := Holds) _ _ ?_ ?_) ?_
      · cases bel? with
        | none => exact celled
        | some bel => exact place _ _ bel found celled
      · exact fun _ held pair _ => setParameter _ _ pair.1 pair.2 held
      · exact fun _ held pair _ => setAttribute _ _ pair.1 pair.2 held

theorem IsSound.addEntry (sound : design.IsSound db) {entry : CellEntry} {after : Design}
    (added : addEntry db design entry = .ok after) : after.IsSound db := by
  refine addEntry_invariant (Design.IsSound db) added (sound.addCell entry.name entry.kind) ?_ ?_ ?_
  · intro state id bel found held
    obtain ⟨site, named⟩ := exists_belName_of_findBel found
    exact held.place id named
  · intro state id key value held
    exact held.setParameter id key value
  · intro state id key value held
    exact held.setAttribute id key value

/-- A listed PIP that is bound is one of the device. -/
theorem bindListed_eq_ok {id : NetId} {name : String} {pip : PipId} {after : Design}
    (bound : bindListed db id name design pip = .ok after) :
    db.hasPip pip = true ∧ (design.bindPip id pip).1 = after := by
  unfold Design.bindListed at bound
  split at bound
  · rename_i present
    refine ⟨present, ?_⟩
    split at bound
    · cases bound
    · rename_i whole
      cases bound
      rw [whole]
  · cases bound

theorem IsSound.bindListed (sound : design.IsSound db) {id : NetId} {name : String} {pip : PipId}
    {after : Design} (bound : bindListed db id name design pip = .ok after) : after.IsSound db := by
  obtain ⟨present, rfl⟩ := bindListed_eq_ok bound
  exact sound.bindPip id present

theorem IsSound.addNetEntry (sound : design.IsSound db) {entry : NetEntry} {after : Design}
    (added : addNetEntry db design entry = .ok after) : after.IsSound db :=
  foldlM_invariant (Design.IsSound db)
    (fun _ _ _ held stepped => held.bindListed stepped) added (sound.addNet entry.name)

/-- **A design that is loaded is sound on the device that it is loaded for.** -/
theorem isSound_of_load {text : String} (loaded : load db text = .ok design) :
    design.IsSound db := by
  unfold load at loaded
  split at loaded
  · obtain ⟨celled, cells, nets⟩ := bind_eq_ok_iff.mp loaded
    have built : celled.IsSound db := foldlM_invariant (Design.IsSound db)
      (fun _ _ _ held stepped => held.addEntry stepped) cells (isSound_empty db)
    exact foldlM_invariant (Design.IsSound db)
      (fun _ _ _ held stepped => held.addNetEntry stepped) nets built
  · cases loaded

end Design

end FabricConfig
