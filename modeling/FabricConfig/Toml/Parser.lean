import FabricConfig.Toml.Assembly
import FabricConfig.Toml.Statement
/-!
# Reading TOML

A text is cut into statements, and the statements are assembled into the table of the text.
-/

namespace FabricConfig.Toml

/-- Reads a value in which arrays and tables nest no deeper than `depth`. -/
def value? : (depth : Nat) → List Char → Option (Toml × List Char)
  | depth, '[' :: rest =>
    match depth with
    | 0 => none
    | depth + 1 => (items? (value? depth) [] (rest.length + 1) rest).map
      fun (items, rest) => (.array items, rest)
  | depth, '\x7b' :: rest =>
    match depth with
    | 0 => none
    | depth + 1 =>
      match skipSpace rest with
      | '\x7d' :: rest => some (.table [], rest)
      | start => do
        let (pairs, rest) ← pairs? (value? depth) [] (start.length + 1) start
        return (← ofPairs? pairs, rest)
  | _, text =>
    match string? text with
    | some (value, rest) => some (.string value, rest)
    | none => if text.head? = some '"' ∨ text.head? = some '\'' then none else word? text

/-- Reads a statement and the end of its line. -/
def statement? (text : List Char) : Option (Statement × List Char) :=
  match text with
  | '[' :: '[' :: rest => do
    let (path, rest) ← key? maxKeyLength rest
    match rest with
    | ']' :: ']' :: rest => return (.arrayHeader path, ← lineEnd? rest)
    | _ => none
  | '[' :: rest => do
    let (path, rest) ← key? maxKeyLength rest
    match rest with
    | ']' :: rest => return (.header path, ← lineEnd? rest)
    | _ => none
  | _ => do
    let ((path, value), rest) ← pair? (value? maxDepth) text
    return (.entry path value, ← lineEnd? rest)

/-- Reads all statements of a text, after those read before. -/
def statements? (read : List Statement) : (fuel : Nat) → List Char → Option (List Statement)
  | 0, _ => none
  | fuel + 1, text =>
    match skipSpace text with
    | [] => some read.reverse
    | '#' :: rest => (lineEnd? ('#' :: rest)).bind (statements? read fuel)
    | start =>
      match newline? start with
      | some rest => statements? read fuel rest
      | none => do
        let (statement, rest) ← statement? start
        statements? (statement :: read) fuel rest

/-- A table that is being assembled, and the path of the header that entries come under. -/
structure Builder where
  entries : Entries := []
  current : List String := []

/-- Changes the table of the text. -/
def Builder.change (builder : Builder) (current : List String)
    (result : Option (Origin × Entries)) : Option Builder :=
  result.map fun (_, entries) => { builder with entries, current }

/-- Takes a statement. -/
def Builder.take (builder : Builder) : Statement → Option Builder
  | .header path =>
    path.getLast?.bind fun key =>
      builder.change path
        (changeAt false (openTable key) path.dropLast .opened builder.entries)
  | .arrayHeader path =>
    path.getLast?.bind fun key =>
      builder.change path
        (changeAt false (addTable key) path.dropLast .opened builder.entries)
  | .entry path value =>
    builder.change builder.current
      (changeAt false (insert path value) builder.current .opened builder.entries)

/-- Reads the table that a text is. A mark for the order of bytes may start the text. -/
def parse? (source : String) : Option Toml := do
  let chars := match source.toList with
    | '\ufeff' :: rest => rest
    | other => other
  let statements ← statements? [] (chars.length + 1) chars
  let builder ← statements.foldlM Builder.take {}
  return .table (toTable builder.entries)

end FabricConfig.Toml
