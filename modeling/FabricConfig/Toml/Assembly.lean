import FabricConfig.Toml.Basic
/-!
# Assembling TOML tables

Tables come about by headers and by keys of several parts. A table is opened by a header at most
once; one that dotted keys made cannot be opened; and dotted keys do not reach into one that a
header opened.
-/

namespace FabricConfig.Toml

/-- How a table came about. -/
inductive Origin where
  /-- On the way to the table of a header. -/
  | path
  /-- On the way to the value of a dotted key. -/
  | dotted
  /-- By a header of its own, or as the table of the whole text. -/
  | opened
deriving DecidableEq

/-- What a key stands for while tables are assembled. -/
inductive Node where
  | value (value : Toml)
  | table (origin : Origin) (entries : List (String × Node))
  /-- An array of tables, the last first. -/
  | tables (all : List (List (String × Node)))

/-- The entries of a table. -/
abbrev Entries := List (String × Node)

/-- The entries with a key's node changed. -/
def replace (entries : Entries) (key : String) (node : Node) : Entries :=
  entries.map fun entry => if entry.1 = key then (key, node) else entry

/-- Changes the table at the end of a path, where tables are made on the way as for dotted keys or
for headers. In an array of tables, the path leads to the last. -/
def changeAt (dotted : Bool) (change : Origin → Entries → Option (Origin × Entries)) :
    List String → Origin → Entries → Option (Origin × Entries)
  | [], origin, entries => change origin entries
  | key :: rest, origin, entries =>
    match entries.lookup key with
    | none =>
      (changeAt dotted change rest (if dotted then .dotted else .path) []).map
        fun (made, inner) => (origin, entries ++ [(key, .table made inner)])
    | some (.table made inner) =>
      if dotted ∧ made = .opened then none
      else (changeAt dotted change rest made inner).map
        fun (made, inner) => (origin, replace entries key (.table made inner))
    | some (.tables (last :: earlier)) =>
      (changeAt dotted change rest .opened last).map
        fun (_, last) => (origin, replace entries key (.tables (last :: earlier)))
    | some _ => none

/-- Opens the table of a key. -/
def openTable (key : String) (origin : Origin) (entries : Entries) : Option (Origin × Entries) :=
  match entries.lookup key with
  | none => some (origin, entries ++ [(key, .table .opened [])])
  | some (.table .path inner) => some (origin, replace entries key (.table .opened inner))
  | some _ => none

/-- Adds a table to the array of a key. -/
def addTable (key : String) (origin : Origin) (entries : Entries) : Option (Origin × Entries) :=
  match entries.lookup key with
  | none => some (origin, entries ++ [(key, .tables [[]])])
  | some (.tables all) => some (origin, replace entries key (.tables ([] :: all)))
  | some _ => none

/-- Gives a key a value. `isDotted` tells whether the key has further parts before this one. -/
def addValue (isDotted : Bool) (key : String) (value : Toml) (origin : Origin) (entries : Entries) :
    Option (Origin × Entries) :=
  if isDotted ∧ origin ≠ .dotted then none
  else match entries.lookup key with
    | none => some (origin, entries ++ [(key, .value value)])
    | some _ => none

/-- Gives a key of several parts a value. -/
def insert (path : List String) (value : Toml) (origin : Origin) (entries : Entries) :
    Option (Origin × Entries) :=
  match path.getLast? with
  | none => none
  | some key =>
    changeAt true (addValue (1 < path.length) key value) path.dropLast origin entries

mutual

/-- The value that a node has come to. -/
def Node.toToml : Node → Toml
  | .value value => value
  | .table _ entries => .table (toTable entries)
  | .tables all => .array (toTables all).reverse

/-- The values of the entries of a table. -/
def toTable : Entries → List (String × Toml)
  | [] => []
  | (key, node) :: rest => (key, node.toToml) :: toTable rest

/-- The values of the tables of an array. -/
def toTables : List Entries → List Toml
  | [] => []
  | entries :: rest => .table (toTable entries) :: toTables rest

end

/-- The table of the pairs between braces. -/
def ofPairs? (pairs : List (List String × Toml)) : Option Toml :=
  (pairs.foldlM (fun (table : Origin × Entries) pair => insert pair.1 pair.2 table.1 table.2)
    (Origin.opened, [])).map fun (_, entries) => .table (toTable entries)

end FabricConfig.Toml
