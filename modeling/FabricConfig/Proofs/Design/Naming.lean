import FabricConfig.Proofs.Design.Bindings
import Mathlib.Data.List.Induction
import Mathlib.Logic.Function.Basic
/-!
# Designs with names for numbers

A design keeps names and keys as numbers of its name table. Read through the table it is a list of
cells whose names and keys are texts, and every operation on cells is the same operation on that
list, whatever else stands in the table. This holds of any number of cells; that the number of a
cell is its place holds of the first `UInt32.size`.

* `NameTable.Spells`: a table by numbers stands for a function of names.
* `lastNumber?_eq_some_iff`: the number of the last cell of a name.
* `HasCells`: a design stands for a list of cells.
* `HasCells.addCell`, `HasCells.place`, `HasCells.setParameter`, `HasCells.setAttribute`: the
  operations on cells. Those on nets leave the cells alone: `HasCells.addNet`, `HasCells.bindPip`.
-/

namespace FabricConfig

/-! ### Numbers and names -/

namespace NameTable

variable {table : NameTable} {α : Type} {name : String}

theorem number?_number_self (table : NameTable) (name : String) :
    (table.number name).2.number? name = some (table.number name).1 :=
  name?_eq_some_iff.mp (name?_number table name)

theorem has_of_number? {id : Nat} (known : table.number? name = some id) : table.Has id :=
  ⟨name, name?_eq_some_iff.mpr known⟩

/-- A number belongs to one name. -/
theorem eq_of_number? {other : String} {id : Nat} (first : table.number? name = some id)
    (second : table.number? other = some id) : name = other := by
  rw [← name?_eq_some_iff] at first second
  exact Option.some.inj (first.symm.trans second)

theorem number?_number_of_eq_some {other : String} {id : Nat} (name : String)
    (known : table.number? other = some id) : (table.number name).2.number? other = some id :=
  name?_eq_some_iff.mp (name?_number_of_eq_some name (name?_eq_some_iff.mpr known))

/-- A name without a number gets one that no name had. -/
theorem not_has_number (unknown : table.number? name = none) :
    ¬ table.Has (table.number name).1 := by
  rintro ⟨other, found⟩
  have kept := name?_number_of_eq_some name found
  rw [name?_number, Option.some.injEq] at kept
  rw [← kept] at found
  rw [name?_eq_some_iff.mp found] at unknown
  cases unknown

theorem number?_number_of_ne {other : String} (different : other ≠ name) :
    (table.number name).2.number? other = table.number? other := by
  unfold NameTable.number
  split
  · rfl
  · rw [number?, push, Std.ExtTreeMap.getElem?_insert, number?,
      if_neg (by simpa using Ne.symm different)]

/-- Whether a table by numbers stands for a function of names: its numbers belong to names, and it
gives for the number of each name what the function gives for the name. -/
structure Spells (table : NameTable) (values : Std.ExtTreeMap NameId α)
    (given : String → Option α) : Prop where
  known : ∀ id ∈ values, table.Has id
  value : ∀ name, ((table.number? name).bind fun id => values[id]?) = given name

theorem spells_empty (table : NameTable) :
    table.Spells (∅ : Std.ExtTreeMap NameId α) fun _ => none where
  known _ member := absurd member Std.ExtTreeMap.not_mem_empty
  value name := by simp

namespace Spells

variable {values : Std.ExtTreeMap NameId α} {given : String → Option α}

theorem getElem?_eq_none (spells : table.Spells values given) {id : NameId}
    (unknown : ¬ table.Has id) : values[id]? = none :=
  Std.ExtTreeMap.getElem?_eq_none fun member => unknown (spells.known id member)

/-- **Names that are numbered later mean nothing to a table.** -/
theorem number (spells : table.Spells values given) (name : String) :
    (table.number name).2.Spells values given where
  known id member := (spells.known id member).number name
  value other := by
    rw [← spells.value other]
    by_cases same : other = name
    -- A name that had no number has one now, but the table knows nothing of that number.
    · subst same
      rw [number?_number_self, Option.bind_some]
      cases known : table.number? other with
      | none => rw [spells.getElem?_eq_none (not_has_number known), Option.bind_none]
      | some id =>
        have kept := number?_number_of_eq_some other known
        rw [number?_number_self, Option.some.injEq] at kept
        rw [kept, Option.bind_some]
    · rw [number?_number_of_ne same]

/-- **Setting the value of a number sets that of its name.** -/
theorem insert (spells : table.Spells values given) {name : String} {id : NameId}
    (numbered : table.number? name = some id) (value : α) :
    table.Spells (values.insert id value) (Function.update given name (some value)) where
  known other member := by
    rw [Std.ExtTreeMap.mem_insert, Std.LawfulEqOrd.compare_eq_iff_eq] at member
    rcases member with rfl | member
    · exact has_of_number? numbered
    · exact spells.known other member
  value other := by
    by_cases same : other = name
    · subst same
      simp [numbered]
    · rw [Function.update_of_ne same, ← spells.value other]
      cases known : table.number? other with
      | none => rfl
      | some place =>
        have apart : id ≠ place := fun equal => same (eq_of_number? known (equal ▸ numbered))
        rw [Option.bind_some, Option.bind_some, Std.ExtTreeMap.getElem?_insert,
          if_neg (by simpa using apart)]

/-- The same where the function of names is that of a map. -/
theorem insert_map {given : Std.ExtTreeMap String α} (spells : table.Spells values (given[·]?))
    {name : String} {id : NameId} (numbered : table.number? name = some id) (value : α) :
    table.Spells (values.insert id value) ((given.insert name value)[·]?) := by
  have same : ((given.insert name value)[·]?) =
      Function.update (given[·]?) name (some value) := by
    funext other
    rw [Std.ExtTreeMap.getElem?_insert, Function.update_apply]
    simp only [Std.LawfulEqOrd.compare_eq_iff_eq, eq_comm (a := name)]
  rw [same]
  exact spells.insert numbered value

end Spells

end NameTable

/-! ### Cells by name -/

/-- A cell with its names and keys as texts. -/
structure NamedCell where
  name : String
  kind : String
  bel : Option BelId := none
  parameters : Std.ExtTreeMap String Property := ∅
  attributes : Std.ExtTreeMap String Property := ∅

/-- Whether a cell stands for a named cell. -/
structure Cell.StandsFor (cell : Cell) (table : NameTable) (named : NamedCell) : Prop where
  name : table.name? cell.name = some named.name
  kind : table.name? cell.kind = some named.kind
  bel : cell.bel = named.bel
  parameters : table.Spells cell.parameters (named.parameters[·]?)
  attributes : table.Spells cell.attributes (named.attributes[·]?)

theorem Cell.StandsFor.number {cell : Cell} {table : NameTable} {named : NamedCell}
    (stands : cell.StandsFor table named) (name : String) :
    cell.StandsFor (table.number name).2 named where
  name := NameTable.name?_number_of_eq_some name stands.name
  kind := NameTable.name?_number_of_eq_some name stands.kind
  bel := stands.bel
  parameters := stands.parameters.number name
  attributes := stands.attributes.number name

/-- The place at which a name stands last in a list of names. -/
def lastIndex? (names : List String) (name : String) : Option Nat :=
  (names.zipIdx.filter fun entry => entry.1 = name).getLast?.map (·.2)

theorem lastIndex?_concat (names : List String) (last name : String) :
    lastIndex? (names ++ [last]) name =
      if name = last then some names.length else lastIndex? names name := by
  rw [lastIndex?, List.zipIdx_append, List.filter_append]
  by_cases same : name = last
  · simp [same]
  · simp [same, Ne.symm same, lastIndex?]

/-- What stands in a list that has grown by one. -/
theorem getElem?_concat_eq_some_iff {α : Type} {items : List α} {last item : α} {place : Nat} :
    (items ++ [last])[place]? = some item ↔
      items[place]? = some item ∨ place = items.length ∧ last = item := by
  rcases Nat.lt_trichotomy place items.length with before | rfl | after
  · simp [List.getElem?_append_left before, Nat.ne_of_lt before]
  · simp
  · have beyond : (items ++ [last]).length ≤ place := by
      rwa [List.length_append, List.length_singleton]
    rw [List.getElem?_eq_none beyond, List.getElem?_eq_none (Nat.le_of_lt after)]
    simp [Nat.ne_of_gt after]

/-- **The last place of a name**: it stands there, and at none after it. -/
theorem lastIndex?_eq_some_iff {names : List String} {name : String} {id : Nat} :
    lastIndex? names name = some id ↔
      names[id]? = some name ∧ ∀ later, id < later → names[later]? ≠ some name := by
  induction names using List.reverseRecOn with
  | nil => simp [lastIndex?]
  | append_singleton names last ih =>
    simp only [lastIndex?_concat, ne_eq, getElem?_concat_eq_some_iff]
    by_cases same : last = name
    · subst same
      rw [if_pos rfl, Option.some.injEq]
      constructor
      · rintro rfl
        refine ⟨.inr ⟨rfl, rfl⟩, fun later after found => ?_⟩
        rcases found with before | ⟨rfl, _⟩
        · exact Nat.lt_asymm after (List.getElem?_eq_some_iff.mp before).1
        · exact Nat.lt_irrefl _ after
      · rintro ⟨before | ⟨rfl, _⟩, none⟩
        · exact absurd (.inr ⟨rfl, rfl⟩) (none _ (List.getElem?_eq_some_iff.mp before).1)
        · rfl
    · simp [Ne.symm same, same, ih]

theorem lastIndex?_eq_none_iff {names : List String} {name : String} :
    lastIndex? names name = none ↔ name ∉ names := by
  induction names using List.reverseRecOn with
  | nil => simp [lastIndex?]
  | append_singleton names last ih =>
    rw [lastIndex?_concat]
    by_cases same : name = last <;> simp [same, ih]

/-- The number of the last cell of a name among cells with these names. -/
def lastNumber? (names : List String) (name : String) : Option CellId :=
  (lastIndex? names name).map UInt32.ofNat

theorem lastNumber?_concat (names : List String) (last name : String) :
    lastNumber? (names ++ [last]) name =
      if name = last then some (UInt32.ofNat names.length) else lastNumber? names name := by
  rw [lastNumber?, lastIndex?_concat]
  split <;> rfl

theorem lastNumber?_eq_none_iff {names : List String} {name : String} :
    lastNumber? names name = none ↔ name ∉ names :=
  Option.map_eq_none_iff.trans lastIndex?_eq_none_iff

/-- As long as no two cells have one number, it leads to the last place of the name. -/
theorem lastNumber?_eq_some_iff {names : List String} (few : names.length ≤ UInt32.size)
    {name : String} {id : CellId} :
    lastNumber? names name = some id ↔
      names[id.toNat]? = some name ∧ ∀ later, id.toNat < later → names[later]? ≠ some name := by
  rw [lastNumber?, Option.map_eq_some_iff]
  constructor
  · rintro ⟨place, last, rfl⟩
    have found := lastIndex?_eq_some_iff.mp last
    have within := (List.getElem?_eq_some_iff.mp found.1).1
    rwa [UInt32.toNat_ofNat_of_lt' (Nat.lt_of_lt_of_le within few)]
  · intro found
    exact ⟨id.toNat, lastIndex?_eq_some_iff.mpr found, UInt32.ofNat_toNat⟩

/-- A change that keeps names keeps those of all cells. -/
theorem map_name_modify (cells : List NamedCell) (id : Nat) {rename : NamedCell → NamedCell}
    (named : ∀ cell, (rename cell).name = cell.name) :
    (cells.modify id rename).map (·.name) = cells.map (·.name) := by
  refine List.ext_getElem? fun place => ?_
  rw [List.getElem?_map, List.getElem?_map, List.getElem?_modify, Option.map_eq_map, Option.map_map]
  congr 1
  funext cell
  by_cases same : id = place <;> simp [same, named]

namespace Design

variable {design : Design} {cells : List NamedCell}

/-- Whether a design stands for a list of named cells. Each cell has the number of its place. -/
structure HasCells (design : Design) (cells : List NamedCell) : Prop where
  size : design.cells.size = cells.length
  cell : ∀ (place : Nat) named, cells[place]? = some named → ∃ cell,
    design.cells[place]? = some cell ∧ cell.id = UInt32.ofNat place ∧
      cell.StandsFor design.names named
  byName : design.names.Spells design.cellsByName (lastNumber? (cells.map (·.name)))

theorem hasCells_empty : ({} : Design).HasCells [] where
  size := rfl
  cell place named found := by cases found
  byName := NameTable.spells_empty _

namespace HasCells

theorem cellNamed? (has : design.HasCells cells) (name : String) :
    design.cellNamed? name = lastNumber? (cells.map (·.name)) name :=
  has.byName.value name

theorem number (has : design.HasCells cells) (name : String) :
    (design.number name).2.HasCells cells where
  size := has.size
  cell place named found := by
    obtain ⟨cell, there, numbered, stands⟩ := has.cell place named found
    exact ⟨cell, there, numbered, stands.number name⟩
  byName := has.byName.number name

/-- **A cell that is added is the last one.** -/
theorem addCell (has : design.HasCells cells) (name kind : String) :
    (design.addCell name kind).2.HasCells (cells ++ [⟨name, kind, none, ∅, ∅⟩]) := by
  have numbered := (has.number name).number kind
  have named := NameTable.number?_number_of_eq_some kind
    (NameTable.number?_number_self design.names name)
  refine ⟨?_, fun place cell found => ?_, ?_⟩
  · show (design.cells.push _).size = _
    rw [Array.size_push, has.size, List.length_append, List.length_singleton]
  · show ∃ cell', (design.cells.push _)[place]? = some cell' ∧ _
    rw [Array.getElem?_push, has.size]
    rcases getElem?_concat_eq_some_iff.mp found with before | ⟨rfl, rfl⟩
    · rw [if_neg (Nat.ne_of_lt (List.getElem?_eq_some_iff.mp before).1)]
      exact numbered.cell place cell before
    · refine ⟨_, if_pos rfl, rfl, NameTable.name?_eq_some_iff.mpr named,
        NameTable.name?_number _ kind, rfl, ?_, ?_⟩
      · simpa using NameTable.spells_empty _
      · simpa using NameTable.spells_empty _
  · have added := numbered.byName.insert named (UInt32.ofNat design.cells.size)
    show NameTable.Spells _ _ _
    have same : lastNumber? ((cells ++ [(⟨name, kind, none, ∅, ∅⟩ : NamedCell)]).map (·.name)) =
        Function.update (lastNumber? (cells.map (·.name))) name
          (some (UInt32.ofNat design.cells.size)) := by
      funext other
      rw [List.map_append, List.map_singleton, lastNumber?_concat, List.length_map, ← has.size,
        Function.update_apply]
    rw [same]
    exact added

/-- **Changing a cell** changes the named cell that it stands for, as far as it keeps its number and
its name. -/
theorem modifyCell (has : design.HasCells cells) (id : CellId) {change : Cell → Cell}
    {rename : NamedCell → NamedCell} (numbered : ∀ cell, (change cell).id = cell.id)
    (named : ∀ cell, (rename cell).name = cell.name)
    (kept : ∀ cell named, cell.StandsFor design.names named →
      (change cell).StandsFor design.names (rename named)) :
    (design.modifyCell id change).1.HasCells (cells.modify id.toNat rename) := by
  have names := map_name_modify cells id.toNat named
  unfold Design.modifyCell
  by_cases there : id.toNat < design.cells.size
  · rw [if_pos there]
    refine ⟨?_, fun place after found => ?_, by rw [names]; exact has.byName⟩
    · rw [Array.size_modify, List.length_modify]
      exact has.size
    · rw [List.getElem?_modify, Option.map_eq_map] at found
      obtain ⟨before, held, rfl⟩ := Option.map_eq_some_iff.mp found
      obtain ⟨cell, there, isPlace, stands⟩ := has.cell place before held
      rw [Array.getElem?_modify, there]
      by_cases same : id.toNat = place
      · simpa [same, numbered, isPlace] using kept cell before stands
      · simpa [same, isPlace] using stands
  · rw [if_neg there]
    have unchanged : cells.modify id.toNat rename = cells :=
      List.modify_eq_self (by rw [← has.size]; exact Nat.le_of_not_lt there)
    rw [unchanged]
    exact has

theorem place (has : design.HasCells cells) (id : CellId) (bel : BelId) :
    (design.place id bel).1.HasCells
      (cells.modify id.toNat fun cell => { cell with bel := some bel }) :=
  has.modifyCell id (fun _ => rfl) (fun _ => rfl) fun _ _ stands => { stands with bel := rfl }

theorem setParameter (has : design.HasCells cells) (id : CellId) (key : String)
    (value : Property) :
    (design.setParameter id key value).1.HasCells
      (cells.modify id.toNat fun cell =>
        { cell with parameters := cell.parameters.insert key value }) :=
  (has.number key).modifyCell id (fun _ => rfl) (fun _ => rfl) fun _ _ stands =>
    { stands with
      parameters := stands.parameters.insert_map (NameTable.number?_number_self _ key) value }

theorem setAttribute (has : design.HasCells cells) (id : CellId) (key : String)
    (value : Property) :
    (design.setAttribute id key value).1.HasCells
      (cells.modify id.toNat fun cell =>
        { cell with attributes := cell.attributes.insert key value }) :=
  (has.number key).modifyCell id (fun _ => rfl) (fun _ => rfl) fun _ _ stands =>
    { stands with
      attributes := stands.attributes.insert_map (NameTable.number?_number_self _ key) value }

end HasCells

/-! ### Operations on nets -/

theorem HasCells.sameCells (has : design.HasCells cells) {after : Design}
    (same : design.SameCells after) : after.HasCells cells where
  size := by rw [same.cells, has.size]
  cell := by
    rw [same.cells, same.names]
    exact has.cell
  byName := by
    rw [same.cellsByName, same.names]
    exact has.byName

theorem HasCells.addNet (has : design.HasCells cells) (name : String) :
    (design.addNet name).2.HasCells cells :=
  (has.number name).sameCells ⟨rfl, rfl, rfl⟩

theorem HasCells.bindPip (has : design.HasCells cells) (id : NetId) (pip : PipId) :
    (design.bindPip id pip).1.HasCells cells :=
  has.sameCells (sameCells_bindPip design id pip)

end Design

end FabricConfig
