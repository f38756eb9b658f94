import FabricConfig.Generation.Setting
import FabricConfig.Proofs.Design.Naming
/-!
# Designs by their history

A design is known by the operations that built it. What it says of a cell is what was said last of
that cell, in the table and under the key that are asked for, and nothing else that was named
before, after or in between makes a difference.

* `Operation.perform`, `Design.build`: the operations on designs, and runs of them.
* `Operation.change`, `hasCells_build`: what a run builds stands for cells with names and keys as
  texts, changed by the same operations.
* `exists_getElem?_cellsOf`: what a run leaves of a cell, by the operations since it was added.
* `records_build`: the same of the design.
-/

namespace FabricConfig

/-! ### Operations -/

/-- One of the two tables of properties of a cell. -/
inductive PropertyTable where
  | parameters
  | attributes
deriving DecidableEq

/-- An operation on a design. -/
inductive Operation where
  /-- Numbers a name, for no use in particular. -/
  | number (name : String)
  | addCell (name kind : String)
  | place (cell : CellId) (bel : BelId)
  | set (table : PropertyTable) (cell : CellId) (key : String) (value : Property)
  | addNet (name : String)

/-- A table of properties, by the numbers of the keys. -/
def Cell.properties (cell : Cell) : PropertyTable → Properties
  | .parameters => cell.parameters
  | .attributes => cell.attributes

/-- A table of properties, by the keys. -/
def NamedCell.properties (cell : NamedCell) : PropertyTable → Std.ExtTreeMap String Property
  | .parameters => cell.parameters
  | .attributes => cell.attributes

/-- Sets a property. -/
def NamedCell.set (cell : NamedCell) (table : PropertyTable) (key : String) (value : Property) :
    NamedCell :=
  match table with
  | .parameters => { cell with parameters := cell.parameters.insert key value }
  | .attributes => { cell with attributes := cell.attributes.insert key value }

namespace Operation

/-- Performs an operation. One on a cell that the design does not have meets a fault. -/
def perform (design : Design) : Operation → Design × Except Fault Unit
  | number name => ((design.number name).2, .ok ())
  | addCell name kind => ((design.addCell name kind).2, .ok ())
  | place cell bel => design.place cell bel
  | set .parameters cell key value => design.setParameter cell key value
  | set .attributes cell key value => design.setAttribute cell key value
  | addNet name => ((design.addNet name).2, .ok ())

/-- What an operation does to cells with names and keys as texts. -/
def change (cells : List NamedCell) : Operation → List NamedCell
  | addCell name kind => cells ++ [{ name, kind }]
  | place id bel => cells.modify id.toNat fun cell => { cell with bel := some bel }
  | set table id key value => cells.modify id.toNat (·.set table key value)
  | number _ | addNet _ => cells

/-- The name of the cell that an operation adds. -/
def added? : Operation → Option String
  | addCell name _ => some name
  | _ => none

/-- The cell that an operation is on. -/
def target? : Operation → Option CellId
  | place id _ | set _ id _ _ => some id
  | _ => none

/-- The BEL that an operation places a cell on. -/
def bel? (id : CellId) : Operation → Option BelId
  | place cell bel => if cell = id then some bel else none
  | number _ | addCell _ _ | set _ _ _ _ | addNet _ => none

/-- The value that an operation sets under a key of a cell. -/
def value? (table : PropertyTable) (id : CellId) (key : String) : Operation → Option Property
  | set other cell name value =>
    if other = table ∧ cell = id ∧ name = key then some value else none
  | number _ | addCell _ _ | place _ _ | addNet _ => none

end Operation

/-- The design that operations build, from the empty one on. -/
def Design.build (operations : List Operation) : Design :=
  operations.foldl (fun design operation => (operation.perform design).1) {}

/-- The cells that operations build, with names and keys as texts. -/
def cellsOf (operations : List Operation) : List NamedCell :=
  operations.foldl Operation.change []

/-- The names of the cells that operations add, in order. -/
def addedNames (operations : List Operation) : List String :=
  operations.filterMap Operation.added?

theorem cellsOf_concat (operations : List Operation) (last : Operation) :
    cellsOf (operations ++ [last]) = last.change (cellsOf operations) := by
  rw [cellsOf, List.foldl_append]
  rfl

variable {design : Design} {cells : List NamedCell} {id : CellId} {operations : List Operation}

/-! ### What a design stands for -/

/-- **An operation on a design is the same operation on the cells that it stands for.** -/
theorem Design.HasCells.perform (has : design.HasCells cells) (operation : Operation) :
    (operation.perform design).1.HasCells (operation.change cells) := by
  cases operation with
  | number name => exact has.number name
  | addCell name kind => exact has.addCell name kind
  | place cell bel => exact has.place cell bel
  | set table cell key value =>
    cases table with
    | parameters => exact has.setParameter cell key value
    | attributes => exact has.setAttribute cell key value
  | addNet name => exact has.addNet name

/-- **Whatever is built stands for cells with names**, built by the same operations. -/
theorem Design.hasCells_build (operations : List Operation) :
    (build operations).HasCells (cellsOf operations) := by
  have run (operations : List Operation) : ∀ {design : Design} {cells : List NamedCell},
      design.HasCells cells →
        (operations.foldl (fun design operation => (operation.perform design).1) design).HasCells
          (operations.foldl Operation.change cells) := by
    induction operations with
    | nil => exact fun has => has
    | cons operation operations ih => exact fun has => ih (has.perform operation)
  exact run operations hasCells_empty

/-! ### What is said of a cell -/

theorem NamedCell.getElem?_properties_set (cell : NamedCell) (table other : PropertyTable)
    (key name : String) (value : Property) :
    ((cell.set table key value).properties other)[name]? =
      if table = other ∧ key = name then some value else (cell.properties other)[name]? := by
  cases table <;> cases other <;>
    simp [NamedCell.set, NamedCell.properties, Std.ExtTreeMap.getElem?_insert]

theorem map_name_change (cells : List NamedCell) (operation : Operation) :
    (operation.change cells).map (·.name) = cells.map (·.name) ++ operation.added?.toList := by
  cases operation with
  | addCell name kind => exact List.map_append
  | place id bel =>
    rw [Operation.change, map_name_modify]
    · exact (List.append_nil _).symm
    · exact fun _ => rfl
  | set table id key value =>
    rw [Operation.change, map_name_modify]
    · exact (List.append_nil _).symm
    · exact fun _ => by cases table <;> rfl
  | number name => exact (List.append_nil _).symm
  | addNet name => exact (List.append_nil _).symm

/-- **The cells of a run are those that it added**, in order. -/
theorem map_name_cellsOf (operations : List Operation) :
    (cellsOf operations).map (·.name) = addedNames operations := by
  induction operations using List.reverseRecOn with
  | nil => rfl
  | append_singleton operations last ih =>
    have one : [last].filterMap Operation.added? = last.added?.toList := by
      cases found : last.added? <;> simp [found]
    rw [cellsOf_concat, map_name_change, ih, addedNames, addedNames, List.filterMap_append, one]

theorem length_cellsOf (operations : List Operation) :
    (cellsOf operations).length = (addedNames operations).length := by
  rw [← map_name_cellsOf, List.length_map]

/-- What has been said of a cell since it was added, with the number that it was given. -/
structure NamedCell.IsLeftBy (cell : NamedCell) (name kind : String) (id : CellId)
    (since : List Operation) : Prop where
  name : cell.name = name
  kind : cell.kind = kind
  bel : cell.bel = (since.filterMap (·.bel? id)).getLast?
  value : ∀ table key,
    (cell.properties table)[key]? = (since.filterMap (·.value? table id key)).getLast?

theorem getLast?_filterMap_concat {α β : Type} (items : List α) (last : α) (pick : α → Option β) :
    ((items ++ [last]).filterMap pick).getLast? =
      (pick last).or (items.filterMap pick).getLast? := by
  rw [List.filterMap_append, List.getLast?_append]
  cases picked : pick last <;> simp [picked]

/-- **One more operation**: it leaves the cell as it is, or it is on the cell and counts from now
on. -/
theorem NamedCell.IsLeftBy.change {cell : NamedCell} {name kind : String} {since : List Operation}
    (left : cell.IsLeftBy name kind id since) (found : cells[id.toNat]? = some cell)
    (operation : Operation) :
    ∃ next, (operation.change cells)[id.toNat]? = some next ∧
      next.IsLeftBy name kind id (since ++ [operation]) := by
  have silent (noBel : operation.bel? id = none)
      (noValue : ∀ table key, operation.value? table id key = none) :
      cell.IsLeftBy name kind id (since ++ [operation]) := by
    refine ⟨left.name, left.kind, ?_, fun table key => ?_⟩
    · rw [getLast?_filterMap_concat, noBel, Option.none_or, left.bel]
    · rw [getLast?_filterMap_concat, noValue, Option.none_or, left.value]
  have apart {target : CellId} (other : target ≠ id) : target.toNat ≠ id.toNat :=
    mt UInt32.toNat_inj.mp other
  cases operation with
  | number text => exact ⟨cell, found, silent rfl fun _ _ => rfl⟩
  | addNet text => exact ⟨cell, found, silent rfl fun _ _ => rfl⟩
  | addCell other sort =>
    refine ⟨cell, ?_, silent rfl fun _ _ => rfl⟩
    exact List.getElem?_append_left (List.getElem?_eq_some_iff.mp found).1 ▸ found
  | place target bel =>
    rw [Operation.change, List.getElem?_modify, found]
    by_cases here : target = id
    · refine ⟨{ cell with bel := some bel }, by simp [here], left.name, left.kind, ?_, ?_⟩
      · rw [getLast?_filterMap_concat, Operation.bel?, if_pos here, Option.some_or]
      · intro table key
        rw [getLast?_filterMap_concat, Operation.value?, Option.none_or, ← left.value]
        cases table <;> rfl
    · exact ⟨cell, by simp [apart here], silent (if_neg here) fun _ _ => rfl⟩
  | set table target key value =>
    rw [Operation.change, List.getElem?_modify, found]
    by_cases here : target = id
    · refine ⟨cell.set table key value, by simp [here], ?_, ?_, ?_, fun other asked => ?_⟩
      · rw [← left.name]
        cases table <;> rfl
      · rw [← left.kind]
        cases table <;> rfl
      · rw [getLast?_filterMap_concat, Operation.bel?, Option.none_or, ← left.bel]
        cases table <;> rfl
      · rw [getLast?_filterMap_concat, Operation.value?, NamedCell.getElem?_properties_set,
          left.value]
        by_cases same : table = other ∧ key = asked
        · rw [if_pos same, if_pos ⟨same.1, here, same.2⟩, Option.some_or]
        · rw [if_neg same, if_neg fun both => same ⟨both.1, both.2.2⟩, Option.none_or]
    · exact ⟨cell, by simp [apart here], silent rfl fun _ _ => if_neg fun both => here both.2.1⟩

/-- **A cell is what was said of it since it was added**, if its number is its place. -/
theorem exists_getElem?_cellsOf {before : List Operation}
    (place : id.toNat = (addedNames before).length) (since : List Operation) (name kind : String) :
    ∃ cell, (cellsOf (before ++ .addCell name kind :: since))[id.toNat]? = some cell ∧
      cell.IsLeftBy name kind id since := by
  induction since using List.reverseRecOn with
  | nil =>
    refine ⟨{ name, kind }, ?_, rfl, rfl, rfl, fun table key => ?_⟩
    · rw [cellsOf_concat, Operation.change, place, ← length_cellsOf, List.getElem?_concat_length]
    · cases table <;> exact Std.ExtTreeMap.getElem?_empty
  | append_singleton since last ih =>
    obtain ⟨cell, found, left⟩ := ih
    obtain ⟨next, there, stays⟩ := left.change found last
    refine ⟨next, ?_, stays⟩
    rw [← there, ← List.cons_append, ← List.append_assoc, cellsOf_concat]

/-! ### What a design says -/

/-- A design says what was said last. -/
structure Design.Records (design : Design) (operations : List Operation) : Prop where
  /-- It has the cells that were added. -/
  size : design.cells.size = (addedNames operations).length
  /-- A cell stands under the number that it was given, with its name, its kind and what has been
  said of it since. -/
  cell : ∀ before name kind since, operations = before ++ .addCell name kind :: since →
    ∃ id cell, ((build before).addCell name kind).1 = id ∧
      id.toNat = (addedNames before).length ∧ design.cell id = .ok cell ∧ cell.id = id ∧
      design.name cell.name = .ok name ∧ design.name cell.kind = .ok kind ∧
      cell.bel = (since.filterMap (·.bel? id)).getLast? ∧
      ∀ table key, ∃ last, (since.filterMap (·.value? table id key)).getLast? = last ∧
        design.property? (cell.properties table) key = last ∧
        (∀ otherwise, design.textOr (cell.properties table) key otherwise =
          (last.map Property.display).getD otherwise) ∧
        ∀ width, design.wordOrZero (cell.properties table) key width =
          last.elim (.ok (Bits.zero width)) (·.word width)
  /-- A name leads to the last cell of the name. -/
  cellNamed?_eq_some_iff : ∀ name id, design.cellNamed? name = some id ↔
    (addedNames operations)[id.toNat]? = some name ∧
      ∀ later, id.toNat < later → (addedNames operations)[later]? ≠ some name
  cellNamed?_eq_none_iff : ∀ name, design.cellNamed? name = none ↔ name ∉ addedNames operations
  /-- An operation meets a fault just when it is on a cell that was not added. -/
  perform_eq_ok_iff : ∀ operation : Operation, (operation.perform design).2 = .ok () ↔
    ∀ id, operation.target? = some id → id.toNat < (addedNames operations).length

theorem Design.HasCells.size_eq (has : design.HasCells (cellsOf operations)) :
    design.cells.size = (addedNames operations).length :=
  has.size.trans (length_cellsOf operations)

theorem Design.modifyCell_eq_ok_iff {change : Cell → Cell} :
    (design.modifyCell id change).2 = .ok () ↔ id.toNat < design.cells.size := by
  unfold Design.modifyCell
  by_cases there : id.toNat < design.cells.size <;> simp [there]

theorem Operation.perform_eq_ok_iff {operation : Operation} :
    (operation.perform design).2 = .ok () ↔
      ∀ id, operation.target? = some id → id.toNat < design.cells.size := by
  have one (target : CellId) : (∀ id, some target = some id → id.toNat < design.cells.size) ↔
      target.toNat < design.cells.size :=
    ⟨fun each => each target rfl, fun within id same => Option.some.inj same ▸ within⟩
  cases operation with
  | number name => exact iff_of_true rfl nofun
  | addCell name kind => exact iff_of_true rfl nofun
  | addNet name => exact iff_of_true rfl nofun
  | place target bel => exact Design.modifyCell_eq_ok_iff.trans (one target).symm
  | set table target key value =>
    cases table with
    | parameters => exact Design.modifyCell_eq_ok_iff.trans (one target).symm
    | attributes => exact Design.modifyCell_eq_ok_iff.trans (one target).symm

theorem Cell.StandsFor.property?_eq {cell : Cell} {named : NamedCell}
    (stands : cell.StandsFor design.names named) (table : PropertyTable) (key : String) :
    design.property? (cell.properties table) key = (named.properties table)[key]? := by
  cases table with
  | parameters => exact stands.parameters.value key
  | attributes => exact stands.attributes.value key

/-- **The numbers of names are never seen.** Whatever operations a design is built by, it says of
each cell and each name what was said last, as if it were a list of cells with texts for names and
keys: neither what was said of other cells, in the other table or under other keys, nor the names
that were numbered meanwhile have any influence. The numbers of cells are their places in this list;
they do not reach further than `UInt32.size` cells. -/
theorem Design.records_build (operations : List Operation)
    (few : (addedNames operations).length ≤ UInt32.size) :
    (build operations).Records operations := by
  have has := hasCells_build operations
  refine ⟨has.size_eq, ?_, fun name id => ?_, fun name => ?_, fun operation => ?_⟩
  · rintro before name kind since rfl
    have reached : (addedNames before).length < UInt32.size := by
      refine Nat.lt_of_lt_of_le ?_ few
      simp [addedNames, Operation.added?]
    have place := UInt32.toNat_ofNat_of_lt' reached
    obtain ⟨named, found, left⟩ := exists_getElem?_cellsOf place since name kind
    obtain ⟨cell, there, numbered, stands⟩ := has.cell _ named found
    refine ⟨_, cell, congrArg UInt32.ofNat (hasCells_build before).size_eq, place, ?_,
      numbered.trans (congrArg UInt32.ofNat place), ?_, ?_, stands.bel.trans left.bel, ?_⟩
    · rw [Design.cell, there]
    · rw [Design.name, stands.name, left.name]
    · rw [Design.name, stands.kind, left.kind]
    · intro table key
      obtain ⟨last, same⟩ : ∃ last, (since.filterMap (·.value? table
          (UInt32.ofNat (addedNames before).length) key)).getLast? = last := ⟨_, rfl⟩
      have held := (stands.property?_eq table key).trans ((left.value table key).trans same)
      refine ⟨last, same, held, fun otherwise => ?_, fun width => ?_⟩
      · rw [Design.textOr, held]
      · rw [Design.wordOrZero, held]
        cases last <;> rfl
  · rw [has.cellNamed?, map_name_cellsOf, lastNumber?_eq_some_iff few]
  · rw [has.cellNamed?, map_name_cellsOf, lastNumber?_eq_none_iff]
  · rw [Operation.perform_eq_ok_iff, has.size_eq]

/-- Two cells of one name, which is also a kind and a key in both tables. -/
def twoOfOneName : List Operation :=
  [.addCell "A" "A", .set .attributes 0 "A" (.text "0"), .addCell "A" "B",
    .set .parameters 0 "A" (.text "1"), .set .attributes 1 "A" (.text "2"), .number "C",
    .set .parameters 0 "A" (.text "3")]

/-- The name leads to the second cell, and the last value that was set is that of the first. -/
theorem records_twoOfOneName :
    (addedNames twoOfOneName).length ≤ UInt32.size ∧
      (Design.build twoOfOneName).cellNamed? "A" = some 1 ∧
      (Design.build twoOfOneName).cellNamed? "B" = none ∧
      ∃ cell, (Design.build twoOfOneName).cell 0 = .ok cell ∧ cell.id = 0 ∧
        (Design.build twoOfOneName).textOr cell.parameters "A" "" = "3" ∧
        (Design.build twoOfOneName).textOr cell.attributes "A" "" = "0" := by
  have few : (addedNames twoOfOneName).length ≤ UInt32.size := by decide
  have records := Design.records_build twoOfOneName few
  obtain ⟨id, cell, given, _, found, numbered, _, _, _, said⟩ := records.cell [] "A" "A" _ rfl
  obtain rfl : id = 0 := given.symm
  obtain ⟨_, rfl, _, fromParameters, _⟩ := said .parameters "A"
  obtain ⟨_, rfl, _, fromAttributes, _⟩ := said .attributes "A"
  refine ⟨few, (records.cellNamed?_eq_some_iff "A" 1).mpr ⟨rfl, fun later after => ?_⟩,
    (records.cellNamed?_eq_none_iff "B").mpr (by decide), cell, found, numbered,
    fromParameters "", fromAttributes ""⟩
  rw [List.getElem?_eq_none (by exact after)]
  exact nofun

end FabricConfig
