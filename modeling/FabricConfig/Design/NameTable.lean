import Std.Data.ExtTreeMap
/-!
# Name tables

A name table numbers names in the order in which they first come, so that equal numbers mean equal
names.

* `index_iff`: a name is found at a number exactly if it stands there.
* `name?_number`: a name that is given a number is found there.
* `name?_number_of_eq_some`: later numbering leaves it there.
-/

namespace FabricConfig

/-- Numbered names without repetition. -/
structure NameTable where
  names : Array String
  index : Std.ExtTreeMap String Nat
  /-- A name is found at a number exactly if it stands there. -/
  index_iff : ∀ (name : String) (number : Nat),
    index[name]? = some number ↔ names[number]? = some name

namespace NameTable

/-- The table without names. -/
def empty : NameTable where
  names := #[]
  index := ∅
  index_iff := by simp

/-- How many names a table holds. -/
def size (table : NameTable) : Nat := table.names.size

/-- The number of a name. -/
def number? (table : NameTable) (name : String) : Option Nat := table.index[name]?

/-- The name with a number. -/
def name? (table : NameTable) (number : Nat) : Option String := table.names[number]?

/-- Adds a name that has no number. -/
def push (table : NameTable) (name : String) (unknown : table.number? name = none) :
    NameTable where
  names := table.names.push name
  index := table.index.insert name table.size
  index_iff := by
    intro other number
    have absent : ∀ place : Nat, table.names[place]? ≠ some name := fun place found => by
      simp [number?, (table.index_iff name place).mpr found] at unknown
    rw [Std.ExtTreeMap.getElem?_insert, Array.getElem?_push]
    by_cases same : name = other
    · subst same
      simp only [Std.LawfulEqOrd.compare_eq_iff_eq, if_true, Option.some.injEq, size]
      constructor
      · rintro rfl
        simp
      · intro found
        by_cases last : number = table.names.size
        · exact last.symm
        · rw [if_neg last] at found
          exact absurd found (absent number)
    · simp only [Std.LawfulEqOrd.compare_eq_iff_eq, same, if_false]
      rw [table.index_iff]
      by_cases last : number = table.names.size
      · subst last
        simp [same]
      · rw [if_neg last]

/-- The number of a name, which is new if the name had none, and the table with it. -/
def number (table : NameTable) (name : String) : Nat × NameTable :=
  match known : table.number? name with
  | some found => (found, table)
  | none => (table.size, table.push name known)

/-- A name is found at its number, and the number at the name. -/
theorem name?_eq_some_iff {table : NameTable} {name : String} {number : Nat} :
    table.name? number = some name ↔ table.number? name = some number :=
  (table.index_iff name number).symm

/-- A numbered name is found at its number. -/
theorem name?_number (table : NameTable) (name : String) :
    (table.number name).2.name? (table.number name).1 = some name := by
  unfold number
  split
  · rename_i found known
    exact name?_eq_some_iff.mpr known
  · simp [name?, push, size]

/-- Numbering a name leaves the names that have numbers where they are. -/
theorem name?_number_of_eq_some {table : NameTable} {other : String} {number : Nat}
    (name : String) (known : table.name? number = some other) :
    (table.number name).2.name? number = some other := by
  unfold NameTable.number
  split
  · exact known
  · have within := (Array.getElem?_eq_some_iff.mp known).1
    simpa [name?, push, Array.getElem?_push, Nat.ne_of_lt within] using known

end NameTable

end FabricConfig
