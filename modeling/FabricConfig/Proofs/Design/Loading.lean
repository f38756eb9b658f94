import FabricConfig.Proofs.Design.Naming
import FabricConfig.Proofs.Maps
/-!
# What a listing gives

A listing is loaded exactly when it is consistent in itself and with the device, and then the
design has what is listed and nothing else. The first holds of listings of any length, the second as
far as the numbers of cells and nets reach: a cell past the last number is added, and what is listed
of it is put on the cell that has its number.

* `Listing.IsConsistent`, `Design.RealizesCells`, `Design.RealizesNets`: what a listing must have,
  and what the design has then.
* `addEntry_outcome`, `bindListed_outcome`, `addNetEntry_outcome`: one cell, one PIP and one net.
* `ofListing_outcome`: a whole listing.
* `ofListing_iff_isConsistent_and_realizes`: the same, with the error otherwise.
-/

namespace FabricConfig

/-! ### Listings -/

/-- Whether a listed cell is on no BEL or on one that its location has. -/
def CellEntry.HasBel (db : Database) (entry : CellEntry) : Prop :=
  ∀ location name, entry.bel = some (location, name) →
    ∃ contents, db.contents? location = some contents ∧ ∃ bel ∈ contents.bels, bel.name = name

/-- The cell that is listed. -/
def CellEntry.named (db : Database) (entry : CellEntry) : NamedCell where
  name := entry.name
  kind := entry.kind
  bel := entry.bel.bind fun place => db.belNamed? place.1 place.2
  parameters := entry.parameters
  attributes := entry.attributes

/-- What a listed cell puts on a cell: the BEL that it is on, if any, and its properties. -/
def CellEntry.puts (db : Database) (entry : CellEntry) (cell : NamedCell) : NamedCell where
  name := cell.name
  kind := cell.kind
  bel := (entry.named db).bel.or cell.bel
  parameters := entry.parameters.toList.foldl (fun set pair => set.insert pair.1 pair.2)
    cell.parameters
  attributes := entry.attributes.toList.foldl (fun set pair => set.insert pair.1 pair.2)
    cell.attributes

/-- What listed cells must have: names of their own, and BELs that are there. -/
@[mk_iff]
structure CellEntry.AreConsistent (db : Database) (entries : List CellEntry) : Prop where
  names : (entries.map (·.name)).Nodup
  bels : ∀ entry ∈ entries, entry.HasBel db

/-- What listed nets must have: PIPs that are there, none of them twice, in one net or in two. -/
@[mk_iff]
structure NetEntry.AreConsistent (db : Database) (entries : List NetEntry) : Prop where
  pips : ∀ entry ∈ entries, ∀ pip ∈ entry.pips, db.hasPip pip = true
  once : (entries.flatMap (·.pips)).Nodup

/-- What a listing must have to be loaded. -/
structure Listing.IsConsistent (db : Database) (listing : Listing) : Prop where
  cells : CellEntry.AreConsistent db listing.cells
  nets : NetEntry.AreConsistent db listing.nets

theorem CellEntry.areConsistent_concat_iff {db : Database} {entries : List CellEntry}
    {entry : CellEntry} :
    AreConsistent db (entries ++ [entry]) ↔ AreConsistent db entries ∧
      entry.name ∉ entries.map (·.name) ∧ entry.HasBel db := by
  simp only [areConsistent_iff, List.map_append, List.forall_mem_append]
  grind

theorem NetEntry.areConsistent_concat_iff {db : Database} {entries : List NetEntry}
    {entry : NetEntry} :
    AreConsistent db (entries ++ [entry]) ↔ AreConsistent db entries ∧
      (∀ pip ∈ entry.pips, db.hasPip pip = true ∧ pip ∉ entries.flatMap (·.pips)) ∧
      entry.pips.Nodup := by
  simp only [areConsistent_iff, List.flatMap_append, List.flatMap_singleton,
    List.forall_mem_append, List.forall_mem_singleton]
  grind

/-- One more PIP on the list of the last net. -/
theorem NetEntry.areConsistent_concat_concat_iff {db : Database} {entries : List NetEntry}
    {name : String} {pips : List PipId} {pip : PipId} :
    AreConsistent db (entries ++ [⟨name, pips ++ [pip]⟩]) ↔
      AreConsistent db (entries ++ [⟨name, pips⟩]) ∧ db.hasPip pip = true ∧
        pip ∉ (entries ++ [(⟨name, pips⟩ : NetEntry)]).flatMap (·.pips) := by
  simp only [areConsistent_concat_iff, List.flatMap_append, List.flatMap_singleton,
    List.forall_mem_append, List.forall_mem_singleton]
  grind

/-- Whether an error tells what is wrong with a listing. -/
def LoadError.IsInvalid (error : LoadError) : Prop := ∃ reason, error = .invalid reason

theorem Database.exists_belNamed?_iff (db : Database) (location : Location) (name : String) :
    (∃ bel, db.belNamed? location name = some bel) ↔
      ∃ contents, db.contents? location = some contents ∧
        ∃ bel ∈ contents.bels, bel.name = name := by
  unfold belNamed?
  cases db.contents? location with
  | none => simp
  | some contents =>
    simp only [Option.bind_some, ← Option.isSome_iff_exists, Option.isSome_map,
      Array.findIdx?_isSome, Array.any_eq_true', beq_iff_eq, Option.some.injEq, exists_eq_left']

namespace Design

variable {db : Database} {design after : Design} {cells : List NamedCell} {entry : CellEntry}

/-! ### Cells -/

theorem findBel_eq_ok_iff {bel? : Option BelId} :
    findBel db entry = .ok bel? ↔ entry.HasBel db ∧ (entry.named db).bel = bel? := by
  unfold findBel CellEntry.HasBel CellEntry.named
  rcases entry.bel with _ | ⟨location, name⟩
  · simp
  · simp only [Option.some.injEq, Prod.mk.injEq, Option.bind_some]
    have exists_iff := db.exists_belNamed?_iff location name
    cases found : db.belNamed? location name with
    | none =>
      simp only [found, reduceCtorEq, exists_false, false_iff] at exists_iff
      simp [exists_iff]
    | some bel =>
      simp only [found, Option.some.injEq, exists_eq', true_iff] at exists_iff
      simp [exists_iff]

/-- Setting properties in turn. -/
theorem foldl_insert_toList (properties : Std.ExtTreeMap String Property) :
    properties.toList.foldl (fun set pair => set.insert pair.1 pair.2) ∅ = properties := by
  rw [← Std.ExtTreeMap.ofList_eq_foldl, ofList_toList]

theorem modify_concat {α : Type} (items : List α) (last : α) (change : α → α) :
    (items ++ [last]).modify items.length change = items ++ [change last] := by
  induction items with
  | nil => rfl
  | cons item items ih => simpa using ih

/-- A cell that is blank becomes the one that is listed. -/
theorem puts_blank (db : Database) (entry : CellEntry) :
    entry.puts db ⟨entry.name, entry.kind, none, ∅, ∅⟩ = entry.named db := by
  simp only [CellEntry.puts, foldl_insert_toList, Option.or_none]
  rfl

/-- One change after the other on the cell at a place. -/
theorem HasCells.foldl_modify {α : Type} (place : Nat) {set : Design → α → Design}
    {put : NamedCell → α → NamedCell}
    (one : ∀ design cells item, design.HasCells cells →
      (set design item).HasCells (cells.modify place (put · item)))
    (has : design.HasCells cells) (items : List α) :
    (items.foldl set design).HasCells (cells.modify place fun cell => items.foldl put cell) := by
  induction items generalizing design cells with
  | nil =>
    have same : cells.modify place (fun cell => cell) = cells := List.modify_id ..
    exact same.symm ▸ has
  | cons item items ih =>
    have rest := ih (one design cells item has)
    rwa [List.modify_modify_eq] at rest

/-- Setting properties in turn sets all of them. -/
theorem foldl_parameters (cell : NamedCell) (items : List (String × Property)) :
    items.foldl (fun cell pair =>
        { cell with parameters := cell.parameters.insert pair.1 pair.2 }) cell =
      { cell with parameters :=
          items.foldl (fun set pair => set.insert pair.1 pair.2) cell.parameters } :=
  List.foldl_hom (fun set => { cell with parameters := set }) fun _ _ => rfl

theorem foldl_attributes (cell : NamedCell) (items : List (String × Property)) :
    items.foldl (fun cell pair =>
        { cell with attributes := cell.attributes.insert pair.1 pair.2 }) cell =
      { cell with attributes :=
          items.foldl (fun set pair => set.insert pair.1 pair.2) cell.attributes } :=
  List.foldl_hom (fun set => { cell with attributes := set }) fun _ _ => rfl

/-- **Setting all that is listed** on a cell. -/
theorem HasCells.setListed (has : design.HasCells cells) (db : Database) (entry : CellEntry)
    (id : CellId) :
    HasCells (entry.attributes.toList.foldl
      (fun design (key, value) => (design.setAttribute id key value).1)
      (entry.parameters.toList.foldl
        (fun design (key, value) => (design.setParameter id key value).1)
        (match (entry.named db).bel with
          | some bel => (design.place id bel).1
          | none => design))) (cells.modify id.toNat (entry.puts db)) := by
  have placed : HasCells (match (entry.named db).bel with
      | some bel => (design.place id bel).1
      | none => design)
      (cells.modify id.toNat fun cell =>
        { cell with bel := (entry.named db).bel.or cell.bel }) := by
    cases (entry.named db).bel with
    | none =>
      have same : cells.modify id.toNat (fun cell => cell) = cells := List.modify_id ..
      exact same.symm ▸ has
    | some bel => exact has.place id bel
  have parametrized := placed.foldl_modify id.toNat
    (fun _ _ pair has => has.setParameter id pair.1 pair.2) entry.parameters.toList
  have attributed := parametrized.foldl_modify id.toNat
    (fun _ _ pair has => has.setAttribute id pair.1 pair.2) entry.attributes.toList
  rw [List.modify_modify_eq, List.modify_modify_eq] at attributed
  convert attributed using 2
  funext cell
  simp only [Function.comp_apply, foldl_parameters, foldl_attributes]
  rfl

theorem HasCells.cellNamed?_eq_none_iff (has : design.HasCells cells) {name : String} :
    design.cellNamed? name = none ↔ name ∉ cells.map (·.name) := by
  rw [has.cellNamed?, lastNumber?_eq_none_iff]

/-- Whether a design stands for listed cells: for cells with their names in any case, and for just
these cells as far as their numbers reach. -/
def HasEntries (design : Design) (db : Database) (entries : List CellEntry) : Prop :=
  ∃ cells, design.HasCells cells ∧ cells.map (·.name) = entries.map (·.name) ∧
    (entries.length ≤ UInt32.size → cells = entries.map (·.named db))

/-- A listed cell that is added is the last one. -/
theorem HasCells.addListed (has : design.HasCells cells) (db : Database) (entry : CellEntry) :
    ∃ more, HasCells (entry.attributes.toList.foldl
      (fun state (key, value) =>
        (state.setAttribute (design.addCell entry.name entry.kind).1 key value).1)
      (entry.parameters.toList.foldl
        (fun state (key, value) =>
          (state.setParameter (design.addCell entry.name entry.kind).1 key value).1)
        (match (entry.named db).bel with
          | some bel => ((design.addCell entry.name entry.kind).2.place
              (design.addCell entry.name entry.kind).1 bel).1
          | none => (design.addCell entry.name entry.kind).2))) more ∧
      more.map (·.name) = cells.map (·.name) ++ [entry.name] ∧
      (cells.length < UInt32.size → more = cells ++ [entry.named db]) := by
  refine ⟨_, (has.addCell entry.name entry.kind).setListed db entry _, ?_, fun few => ?_⟩
  · rw [map_name_modify, List.map_append]
    · rfl
    · exact fun _ => rfl
  · have last : (design.addCell entry.name entry.kind).1.toNat = cells.length := by
      rw [← has.size] at few ⊢
      exact UInt32.toNat_ofNat_of_lt' few
    rw [last, modify_concat, puts_blank]

/-- **A listed cell is added when its name is new and its BEL is there**, and then it is the last
cell, with all that is listed. -/
theorem addEntry_outcome {entries : List CellEntry} (has : design.HasEntries db entries)
    (entry : CellEntry) :
    ((∃ after, addEntry db design entry = .ok after) ↔
      entry.name ∉ entries.map (·.name) ∧ entry.HasBel db) ∧
    ∀ after, addEntry db design entry = .ok after → after.HasEntries db (entries ++ [entry]) := by
  obtain ⟨cells, has, names, exact⟩ := has
  rw [← names, ← has.cellNamed?_eq_none_iff]
  unfold Design.addEntry
  cases known : design.cellNamed? entry.name with
  | some id => simp
  | none =>
    simp only [Option.isSome_none, Bool.false_eq_true, if_false, true_and]
    cases found : findBel db entry with
    | error error =>
      refine ⟨?_, nofun⟩
      refine iff_of_false nofun fun there => ?_
      rw [findBel_eq_ok_iff.mpr ⟨there, rfl⟩] at found
      cases found
    | ok bel? =>
      obtain ⟨there, rfl⟩ := findBel_eq_ok_iff.mp found
      refine ⟨iff_of_true ⟨_, rfl⟩ there, fun after added => ?_⟩
      cases added
      obtain ⟨more, stands, named, same⟩ := has.addListed db entry
      refine ⟨more, stands, by rw [named, names, List.map_append]; rfl, fun few => ?_⟩
      rw [List.length_append, List.length_singleton] at few
      have before := exact (Nat.le_of_succ_le few)
      rw [same (by rw [before, List.length_map]; exact few), before, List.map_append]
      rfl

/-- Listed cells are added when no two have one name and all BELs are there. -/
theorem addEntries_outcome (db : Database) (entries : List CellEntry) :
    ((∃ after, entries.foldlM (addEntry db) {} = .ok after) ↔
      CellEntry.AreConsistent db entries) ∧
    ∀ after, entries.foldlM (addEntry db) {} = .ok after → after.HasEntries db entries := by
  refine foldlM_outcome (fun entries (design : Design) => design.HasEntries db entries)
    (CellEntry.AreConsistent db)
    (fun _ _ fits => (CellEntry.areConsistent_concat_iff.mp fits).1) ?_ [] entries
    ⟨[], hasCells_empty, rfl, fun _ => rfl⟩ ⟨List.nodup_nil, nofun⟩
  intro before design entry has fits
  rw [CellEntry.areConsistent_concat_iff, and_iff_right fits]
  exact addEntry_outcome has entry

/-! ### Nets -/

/-- Whether a design has listed nets: their PIPs are bound and no others, and as far as their
numbers reach each has its own. -/
structure HasNets (design : Design) (nets : List NetEntry) : Prop where
  agrees : design.Agrees
  size : design.nets.size = nets.length
  unbound_iff : ∀ pip, design.boundNet? pip = none ↔ pip ∉ nets.flatMap (·.pips)
  net : nets.length ≤ UInt32.size → ∀ (place : Nat) entry, nets[place]? = some entry →
    ∃ net, design.nets[place]? = some net ∧ net.id = UInt32.ofNat place ∧
      design.names.name? net.name = some entry.name ∧ net.pips.toList = entry.pips

namespace HasNets

variable {nets : List NetEntry} {entry : NetEntry} {name : String} {pips : List PipId} {pip : PipId}

theorem of_isBuilt (built : design.IsBuilt []) : design.HasNets [] where
  agrees := built.isBound.agrees
  size := by
    refine Nat.eq_zero_of_not_pos fun some => ?_
    cases (built.isBound.mem_iff 0).mpr some
  unbound_iff pip := by
    refine iff_of_true (Option.eq_none_iff_forall_ne_some.mpr fun id bound => ?_) List.not_mem_nil
    cases (built.isBound.mem_iff id).mpr (built.isBound.agrees.there pip id bound)
  net _ place entry found := by cases found

/-- **A PIP is bound to a net exactly if it is listed there.** -/
theorem boundNet?_eq_some_iff (has : design.HasNets nets) (few : nets.length ≤ UInt32.size)
    {id : NetId} :
    design.boundNet? pip = some id ↔ ∃ entry, nets[id.toNat]? = some entry ∧ pip ∈ entry.pips := by
  rw [has.agrees.bound_iff]
  constructor
  · rintro ⟨net, found, member⟩
    have there : id.toNat < nets.length := has.size ▸ exists_net_iff.mp ⟨net, found⟩
    obtain ⟨net', found', _, _, same⟩ := has.net few _ _ (List.getElem?_eq_getElem there)
    cases (net_eq_ok_iff.mp found).symm.trans found'
    exact ⟨_, List.getElem?_eq_getElem there, same ▸ Array.mem_toList_iff.mpr member⟩
  · rintro ⟨entry, listed, member⟩
    obtain ⟨net, found, _, _, same⟩ := has.net few _ entry listed
    exact ⟨net, net_eq_ok_iff.mpr found, Array.mem_toList_iff.mp (same ▸ member)⟩

/-- The number that the last net was given is that of some net. -/
theorem last_there (has : design.HasNets (nets ++ [entry])) :
    (UInt32.ofNat nets.length).toNat < design.nets.size := by
  rw [has.size, List.length_append, List.length_singleton]
  exact Nat.lt_succ_of_le (Nat.mod_le _ _)

/-- A net that is added has no PIPs. -/
theorem addNet (has : design.HasNets nets) (name : String) :
    (design.addNet name).2.HasNets (nets ++ [⟨name, []⟩]) := by
  refine ⟨has.agrees.addNet name, ?_, fun pip => ?_, fun few place entry found => ?_⟩
  · rw [nets_addNet, Array.size_push, has.size, List.length_append, List.length_singleton]
  · have same : (design.addNet name).2.boundNet? pip = design.boundNet? pip := rfl
    simpa [same] using has.unbound_iff pip
  · rw [nets_addNet, Array.getElem?_push]
    rcases getElem?_concat_eq_some_iff.mp found with before | ⟨rfl, rfl⟩
    · have within := (List.getElem?_eq_some_iff.mp before).1
      rw [List.length_append, List.length_singleton] at few
      obtain ⟨net, there, numbered, named, same⟩ :=
        has.net (Nat.le_of_succ_le few) place entry before
      rw [if_neg (by rw [has.size]; exact Nat.ne_of_lt within)]
      exact ⟨net, there, numbered, NameTable.name?_number_of_eq_some name named, same⟩
    · rw [if_pos has.size.symm, has.size]
      exact ⟨_, rfl, rfl, NameTable.name?_number design.names name, rfl⟩

/-- **Binding a PIP that is not bound** puts it behind those of its net. -/
theorem bindPip (has : design.HasNets (nets ++ [⟨name, pips⟩]))
    (unbound : design.boundNet? pip = none) :
    (design.bindPip (UInt32.ofNat nets.length) pip).1.HasNets
      (nets ++ [⟨name, pips ++ [pip]⟩]) := by
  have there := has.last_there
  refine ⟨has.agrees.bindPip there pip, ?_, fun other => ?_, fun few place entry found => ?_⟩
  · rw [nets_bindPip has.agrees there, Array.size_mapIdx, has.size, List.length_append,
      List.length_append]
    rfl
  · have before := has.unbound_iff other
    rw [boundNet?_bindPip has.agrees there]
    by_cases same : other = pip
    · simp [same]
    · simpa [same] using before
  · rw [List.length_append, List.length_singleton] at few
    have last : (UInt32.ofNat nets.length).toNat = nets.length := UInt32.toNat_ofNat_of_lt' few
    simp only [nets_bindPip has.agrees there, Array.getElem?_mapIdx,
      (sameCells_bindPip design _ pip).names]
    have kept : ∀ net, design.nets[place]? = some net → net.withoutPip pip = net := fun net found =>
      has.agrees.withoutPip_eq found (by simp [unbound])
    have listed := has.net (by simpa using few) place
    rcases getElem?_concat_eq_some_iff.mp found with before | ⟨rfl, rfl⟩
    · obtain ⟨net, there, numbered, named, same⟩ :=
        listed entry (getElem?_concat_eq_some_iff.mpr (.inl before))
      have other : place ≠ (UInt32.ofNat nets.length).toNat := by
        rw [last]
        exact Nat.ne_of_lt (List.getElem?_eq_some_iff.mp before).1
      refine ⟨net, ?_, numbered, named, same⟩
      rw [there, Option.map_some, rebound_of_ne other]
      exact congrArg some (kept net there)
    · obtain ⟨net, there, numbered, named, same⟩ :=
        listed ⟨name, pips⟩ (getElem?_concat_eq_some_iff.mpr (.inr ⟨rfl, rfl⟩))
      have chosen : rebound (UInt32.ofNat nets.length) pip nets.length =
          fun net => (net.withoutPip pip).withPip pip := funext fun _ => if_pos last.symm
      refine ⟨net.withPip pip, ?_, numbered, named, ?_⟩
      · rw [there, Option.map_some, chosen]
        exact congrArg (fun net => some (net.withPip pip)) (kept net there)
      · rw [Net.withPip, Array.toList_push, same]

end HasNets

/-- The clash that ends a run is noticed on the outcome of binding the PIP. -/
theorem bindListed_eq_ok_iff {id : NetId} {name : String} {pip : PipId} (agrees : design.Agrees)
    (there : id.toNat < design.nets.size) :
    bindListed db id name design pip = .ok after ↔
      db.hasPip pip = true ∧ design.boundNet? pip = none ∧ (design.bindPip id pip).1 = after := by
  by_cases present : db.hasPip pip = true
  · rw [bindListed, if_pos present, bindPip_eq agrees there]
    cases design.boundNet? pip <;> simp [present]
  · simp [bindListed, present]

/-- **A listed PIP is bound when the device has it and no net has it yet**, and then it is the last
one of its net. -/
theorem bindListed_outcome (db : Database) {nets : List NetEntry} {name : String}
    {pips : List PipId} (has : design.HasNets (nets ++ [⟨name, pips⟩])) (pip : PipId) :
    ((∃ after, bindListed db (UInt32.ofNat nets.length) name design pip = .ok after) ↔
      db.hasPip pip = true ∧ pip ∉ (nets ++ [(⟨name, pips⟩ : NetEntry)]).flatMap (·.pips)) ∧
    ∀ after, bindListed db (UInt32.ofNat nets.length) name design pip = .ok after →
      after.HasNets (nets ++ [⟨name, pips ++ [pip]⟩]) := by
  simp only [bindListed_eq_ok_iff has.agrees has.last_there, ← has.unbound_iff]
  refine ⟨by simp, ?_⟩
  rintro _ ⟨_, unbound, rfl⟩
  exact has.bindPip unbound

/-- **A listed net is added when its PIPs are there and no net has them yet**, and then it is the
last net, with all that is listed. The cells stay as they are. -/
theorem addNetEntry_outcome {nets : List NetEntry} (celled : design.HasCells cells)
    (has : design.HasNets nets) (consistent : NetEntry.AreConsistent db nets) (entry : NetEntry) :
    ((∃ after, addNetEntry db design entry = .ok after) ↔
      NetEntry.AreConsistent db (nets ++ [entry])) ∧
    ∀ after, addNetEntry db design entry = .ok after →
      after.HasCells cells ∧ after.HasNets (nets ++ [entry]) := by
  have run : addNetEntry db design entry =
      entry.pips.foldlM (bindListed db (UInt32.ofNat nets.length) entry.name)
        (design.addNet entry.name).2 := by
    rw [← has.size]
    rfl
  rw [run]
  refine foldlM_outcome (fun pips (design : Design) =>
      design.HasCells cells ∧ design.HasNets (nets ++ [⟨entry.name, pips⟩]))
    (fun pips => NetEntry.AreConsistent db (nets ++ [⟨entry.name, pips⟩]))
    (fun _ _ fits => (NetEntry.areConsistent_concat_concat_iff.mp fits).1) ?_ [] entry.pips
    ⟨celled.addNet entry.name, has.addNet entry.name⟩ ?_
  · rintro pips design pip ⟨celled, has⟩ fits
    obtain ⟨exists_iff, kept⟩ := bindListed_outcome db has pip
    refine ⟨?_, fun after bound => ?_⟩
    · rw [exists_iff, NetEntry.areConsistent_concat_concat_iff]
      exact (and_iff_right fits).symm
    · obtain ⟨_, rfl⟩ := bindListed_eq_ok bound
      exact ⟨celled.bindPip _ pip, kept _ bound⟩
  · rw [NetEntry.areConsistent_concat_iff]
    exact ⟨consistent, nofun, List.nodup_nil⟩

/-- Listed nets are added when their PIPs are there and none is listed twice. -/
theorem addNetEntries_outcome (db : Database) (nets : List NetEntry)
    (celled : design.HasCells cells) (has : design.HasNets []) :
    ((∃ after, nets.foldlM (addNetEntry db) design = .ok after) ↔
      NetEntry.AreConsistent db nets) ∧
    ∀ after, nets.foldlM (addNetEntry db) design = .ok after →
      after.HasCells cells ∧ after.HasNets nets := by
  refine foldlM_outcome
    (fun nets (design : Design) => design.HasCells cells ∧ design.HasNets nets)
    (NetEntry.AreConsistent db)
    (fun _ _ fits => (NetEntry.areConsistent_concat_iff.mp fits).1) ?_ [] nets ⟨celled, has⟩
    ⟨nofun, List.nodup_nil⟩
  rintro before design entry ⟨celled, has⟩ fits
  exact addNetEntry_outcome celled has fits entry

/-! ### Whole listings -/

/-- **A listing is loaded exactly when it is consistent**, and then the design stands for it. -/
theorem ofListing_outcome (db : Database) (listing : Listing) :
    ((∃ design, ofListing db listing = .ok design) ↔ listing.IsConsistent db) ∧
    ∀ design, ofListing db listing = .ok design →
      design.HasEntries db listing.cells ∧ design.HasNets listing.nets := by
  obtain ⟨cells_iff, celled⟩ := addEntries_outcome db listing.cells
  have nets : ∀ design, listing.cells.foldlM (addEntry db) {} = .ok design →
      ((∃ after, listing.nets.foldlM (addNetEntry db) design = .ok after) ↔
        NetEntry.AreConsistent db listing.nets) ∧
      ∀ after, listing.nets.foldlM (addNetEntry db) design = .ok after →
        after.HasEntries db listing.cells ∧ after.HasNets listing.nets := by
    intro design added
    obtain ⟨cells, has, exact⟩ := celled design added
    obtain ⟨exists_iff, kept⟩ := addNetEntries_outcome db listing.nets has
      (.of_isBuilt (isBuilt_of_addEntries added))
    refine ⟨exists_iff, fun after bound => ?_⟩
    obtain ⟨stands, netted⟩ := kept after bound
    exact ⟨⟨cells, stands, exact⟩, netted⟩
  simp only [ofListing, bind_eq_ok_iff]
  refine ⟨⟨?_, fun consistent => ?_⟩, ?_⟩
  · rintro ⟨design, middle, added, bound⟩
    exact ⟨cells_iff.mp ⟨middle, added⟩, (nets middle added).1.mp ⟨design, bound⟩⟩
  · obtain ⟨middle, added⟩ := cells_iff.mpr consistent.cells
    obtain ⟨design, bound⟩ := (nets middle added).1.mpr consistent.nets
    exact ⟨design, middle, added, bound⟩
  · rintro design ⟨middle, added, bound⟩
    exact (nets middle added).2 design bound

/-- A listing that is not loaded is told to be invalid. -/
theorem isInvalid_of_ofListing {listing : Listing} {error : LoadError}
    (failed : ofListing db listing = .error error) : error.IsInvalid := by
  have cells : ∀ design entry error, addEntry db design entry = .error error →
      error.IsInvalid := by
    intro design entry error failed
    unfold Design.addEntry findBel at failed
    grind [LoadError.IsInvalid]
  have pips : ∀ id name design pip error, bindListed db id name design pip = .error error →
      error.IsInvalid := by
    intro id name design pip error failed
    unfold Design.bindListed at failed
    grind [LoadError.IsInvalid]
  unfold ofListing at failed
  cases added : listing.cells.foldlM (addEntry db) {} with
  | error first =>
    rw [added] at failed
    cases failed
    exact foldlM_error _ cells added
  | ok celled =>
    rw [added] at failed
    exact foldlM_error _ (fun _ _ _ failed => foldlM_error _ (pips _ _) failed) failed

/-! ### What is in a design that is loaded -/

/-- Whether properties are the ones that are given by name, and no others. -/
structure Lists (design : Design) (properties : Properties)
    (given : Std.ExtTreeMap String Property) : Prop where
  key : ∀ id ∈ properties, ∃ key ∈ given, design.name id = .ok key
  value : ∀ key, design.property? properties key = given[key]?

/-- Whether a cell is the one that is listed. -/
structure ListsCell (design : Design) (db : Database) (cell : Cell) (entry : CellEntry) :
    Prop where
  name : design.name cell.name = .ok entry.name
  kind : design.name cell.kind = .ok entry.kind
  unplaced : entry.bel = none → cell.bel = none
  placed : ∀ location name, entry.bel = some (location, name) →
    ∃ bel, db.belNamed? location name = some bel ∧ cell.bel = some bel
  parameters : design.Lists cell.parameters entry.parameters
  attributes : design.Lists cell.attributes entry.attributes

/-- Whether a net is the one that is listed. -/
structure ListsNet (design : Design) (net : Net) (entry : NetEntry) : Prop where
  name : design.name net.name = .ok entry.name
  pips : net.pips.toList = entry.pips

/-- Whether a design has the cells that are listed, in the listed order and numbered in it, and no
others. -/
structure RealizesCells (design : Design) (db : Database) (entries : List CellEntry) : Prop where
  size : design.cells.size = entries.length
  cell : ∀ (id : CellId) entry, entries[id.toNat]? = some entry →
    ∃ cell, design.cell id = .ok cell ∧ cell.id = id ∧ design.ListsCell db cell entry
  cellNamed?_iff : ∀ name id, design.cellNamed? name = some id ↔
    ∃ entry, entries[id.toNat]? = some entry ∧ entry.name = name

/-- Whether a design has the nets that are listed, in the listed order and numbered in it, and no
others. -/
structure RealizesNets (design : Design) (entries : List NetEntry) : Prop where
  size : design.nets.size = entries.length
  net : ∀ (id : NetId) entry, entries[id.toNat]? = some entry →
    ∃ net, design.net id = .ok net ∧ net.id = id ∧ design.ListsNet net entry
  boundNet?_iff : ∀ pip id, design.boundNet? pip = some id ↔
    ∃ entry, entries[id.toNat]? = some entry ∧ pip ∈ entry.pips

theorem cell_eq_ok_iff {id : CellId} {cell : Cell} :
    design.cell id = .ok cell ↔ design.cells[id.toNat]? = some cell := by
  unfold Design.cell
  cases design.cells[id.toNat]? <;> simp

theorem name_eq_ok_iff {id : NameId} {name : String} :
    design.name id = .ok name ↔ design.names.name? id = some name := by
  unfold Design.name
  cases design.names.name? id <;> simp

theorem lists_of_spells {properties : Properties} {given : Std.ExtTreeMap String Property}
    (spells : design.names.Spells properties (given[·]?)) : design.Lists properties given := by
  refine ⟨fun id member => ?_, spells.value⟩
  obtain ⟨key, named⟩ := spells.known id member
  refine ⟨key, ?_, name_eq_ok_iff.mpr named⟩
  have value := spells.value key
  rw [NameTable.name?_eq_some_iff.mp named, Option.bind_some] at value
  rw [Std.ExtTreeMap.mem_iff_isSome_getElem?, ← value]
  exact Std.ExtTreeMap.isSome_getElem?_iff_mem.mpr member

theorem listsCell_of_standsFor {cell : Cell} (consistent : entry.HasBel db)
    (stands : cell.StandsFor design.names (entry.named db)) : design.ListsCell db cell entry where
  name := name_eq_ok_iff.mpr stands.name
  kind := name_eq_ok_iff.mpr stands.kind
  unplaced none := by rw [stands.bel, CellEntry.named, none, Option.bind_none]
  placed location name place := by
    obtain ⟨bel, found⟩ :=
      (Database.exists_belNamed?_iff db location name).mpr (consistent location name place)
    refine ⟨bel, found, ?_⟩
    rw [stands.bel, CellEntry.named, place, Option.bind_some, found]
  parameters := lists_of_spells stands.parameters
  attributes := lists_of_spells stands.attributes

/-- Where names stand only once, their last place is their place. -/
theorem lastNumber?_eq_some_iff_of_nodup {names : List String} (nodup : names.Nodup)
    (few : names.length ≤ UInt32.size) {name : String} {id : CellId} :
    lastNumber? names name = some id ↔ names[id.toNat]? = some name := by
  rw [lastNumber?_eq_some_iff few]
  refine and_iff_left_of_imp fun found later after again => ?_
  have within := (List.getElem?_eq_some_iff.mp found).1
  exact Nat.ne_of_lt after ((List.getElem?_inj within nodup).mp (found.trans again.symm))

/-- **A design that stands for consistent listed cells realizes them**, as far as their numbers
reach. -/
theorem HasEntries.realizesCells {entries : List CellEntry} (has : design.HasEntries db entries)
    (consistent : CellEntry.AreConsistent db entries) (few : entries.length ≤ UInt32.size) :
    design.RealizesCells db entries := by
  obtain ⟨cells, celled, _, exact⟩ := has
  obtain rfl := exact few
  constructor
  · rw [celled.size, List.length_map]
  · intro id entry listed
    obtain ⟨cell, there, numbered, stands⟩ := celled.cell id.toNat (entry.named db)
      (by rw [List.getElem?_map, listed, Option.map_some])
    exact ⟨cell, cell_eq_ok_iff.mpr there, numbered.trans UInt32.ofNat_toNat,
      listsCell_of_standsFor (consistent.bels entry (List.mem_of_getElem? listed)) stands⟩
  · intro name id
    rw [celled.cellNamed?, List.map_map]
    refine (lastNumber?_eq_some_iff_of_nodup consistent.names ?_).trans ?_
    · rwa [List.length_map]
    · rw [List.getElem?_map, Option.map_eq_some_iff]

theorem HasNets.realizesNets {entries : List NetEntry} (has : design.HasNets entries)
    (few : entries.length ≤ UInt32.size) : design.RealizesNets entries where
  size := has.size
  net id entry listed := by
    obtain ⟨net, there, numbered, named, pips⟩ := has.net few id.toNat entry listed
    exact ⟨net, net_eq_ok_iff.mpr there, numbered.trans UInt32.ofNat_toNat,
      name_eq_ok_iff.mpr named, pips⟩
  boundNet?_iff pip id := has.boundNet?_eq_some_iff few

/-- **A listing is loaded exactly when it is consistent**, and told to be invalid otherwise. The
design then has the cells and the nets that are listed, and nothing else, as far as their numbers
reach. -/
theorem ofListing_iff_isConsistent_and_realizes (db : Database) (listing : Listing) :
    (∀ text, (Json.parse? text).bind Listing.ofJson? = some listing →
      load db text = ofListing db listing) ∧
    ((∃ design, ofListing db listing = .ok design) ↔ listing.IsConsistent db) ∧
    (¬ listing.IsConsistent db → ∃ reason, ofListing db listing = .error (.invalid reason)) ∧
    ∀ design, ofListing db listing = .ok design →
      (listing.cells.length ≤ UInt32.size → design.RealizesCells db listing.cells) ∧
      (listing.nets.length ≤ UInt32.size → design.RealizesNets listing.nets) := by
  obtain ⟨exists_iff, stands⟩ := ofListing_outcome db listing
  refine ⟨fun text decoded => ?_, exists_iff, fun inconsistent => ?_, fun design loaded => ?_⟩
  · rw [load, decoded]
  · cases outcome : ofListing db listing with
    | ok design => exact absurd (exists_iff.mp ⟨design, outcome⟩) inconsistent
    | error error =>
      obtain ⟨reason, rfl⟩ := isInvalid_of_ofListing outcome
      exact ⟨reason, rfl⟩
  · obtain ⟨celled, netted⟩ := stands design loaded
    have consistent := exists_iff.mp ⟨design, loaded⟩
    exact ⟨celled.realizesCells consistent.cells, netted.realizesNets⟩

/-- A location with a BEL and two PIPs. -/
def oneLocation : Database where
  __ := Database.empty .hc256 1 1
  grid :=
    let pip : Pip := ⟨⟨0, 0, 0⟩, ⟨0, 0, 0⟩, "PLB", .fixed⟩
    #[{ bels := #[⟨"SLICEA", "FACADE_SLICE"⟩], pips := #[pip, pip] }]
  grid_size := rfl

/-- Two cells, one of them on the BEL, and two nets with a PIP each. -/
def twoOfEach : Listing :=
  ⟨[⟨"idle", "EHXPLLJ", none, ∅, ∅⟩,
    ⟨"lut", "FACADE_SLICE", some (⟨0, 0⟩, "SLICEA"), ∅, ∅⟩],
    [⟨"first", [⟨⟨0, 0⟩, 1⟩]⟩, ⟨"second", [⟨⟨0, 0⟩, 0⟩]⟩]⟩

theorem realizes_twoOfEach :
    twoOfEach.IsConsistent oneLocation ∧ twoOfEach.cells.length ≤ UInt32.size ∧
      twoOfEach.nets.length ≤ UInt32.size ∧
      ∃ design, ofListing oneLocation twoOfEach = .ok design ∧
        design.cellNamed? "lut" = some 1 ∧ design.boundNet? ⟨⟨0, 0⟩, 0⟩ = some 1 ∧
        ∃ cell, design.cell 1 = .ok cell ∧ cell.id = 1 ∧ cell.bel = some ⟨⟨0, 0⟩, 0⟩ := by
  have fewCells : twoOfEach.cells.length ≤ UInt32.size := by decide
  have fewNets : twoOfEach.nets.length ≤ UInt32.size := by decide
  obtain ⟨_, exists_iff, _, realizes⟩ :=
    ofListing_iff_isConsistent_and_realizes oneLocation twoOfEach
  obtain ⟨design, loaded⟩ : ∃ design, ofListing oneLocation twoOfEach = .ok design := by
    have found : (ofListing oneLocation twoOfEach).toOption.isSome := by decide +kernel
    obtain ⟨design, found⟩ := Option.isSome_iff_exists.mp found
    exact ⟨design, eq_ok_of_toOption found⟩
  obtain ⟨cells, nets⟩ := realizes design loaded
  obtain ⟨cell, found, numbered, lists⟩ := (cells fewCells).cell 1 _ rfl
  obtain ⟨bel, named, placed⟩ := lists.placed _ _ rfl
  have leads : oneLocation.belNamed? ⟨0, 0⟩ "SLICEA" = some ⟨⟨0, 0⟩, 0⟩ := by decide +kernel
  obtain rfl := Option.some.inj (leads.symm.trans named)
  exact ⟨exists_iff.mp ⟨design, loaded⟩, fewCells, fewNets, design, loaded,
    ((cells fewCells).cellNamed?_iff "lut" 1).mpr ⟨_, rfl, rfl⟩,
    ((nets fewNets).boundNet?_iff _ 1).mpr ⟨_, rfl, by decide⟩, cell, found, numbered, placed⟩

end Design

end FabricConfig
