import FabricConfig.Toml.Scalar
/-!
# TOML statements

A TOML text is a sequence of statements, one a line: the header of a table, the header of a further
table of an array, or a key with its value. Values that hold values nest to a limited depth.
-/

namespace FabricConfig.Toml

/-- A line of a TOML text that is not blank. -/
inductive Statement where
  | header (path : List String)
  | arrayHeader (path : List String)
  | entry (path : List String) (value : Toml)

/-- How deep arrays and tables may nest inside a value. -/
def maxDepth : Nat := 79

/-- How many parts a key may have. -/
def maxKeyLength : Nat := 79

/-! ### Blanks -/

/-- A text without the blanks that start it. -/
def skipSpace (text : List Char) : List Char := text.dropWhile isSpace

/-- What follows a line's end, before which blanks and a comment may stand. The end of the text
ends a line. -/
def lineEnd? (text : List Char) : Option (List Char) :=
  let rest := match skipSpace text with
    | '#' :: comment => comment.dropWhile isPrintable
    | other => other
  if rest.isEmpty then some [] else newline? rest

/-- A text without the blanks, comments and line ends that start it. -/
def skipLines : (fuel : Nat) → List Char → Option (List Char)
  | 0, _ => none
  | fuel + 1, text =>
    match skipSpace text with
    | '#' :: comment =>
      match newline? (comment.dropWhile isPrintable) with
      | some rest => skipLines fuel rest
      | none => none
    | other =>
      match newline? other with
      | some rest => skipLines fuel rest
      | none => some other

/-! ### Keys -/

/-- Whether a character may stand in a key without quotes. -/
def isBareKeyChar (c : Char) : Bool := c.isAlphanum || c == '-' || c == '_'

/-- Reads one part of a key. -/
def keyPart? (text : List Char) : Option (String × List Char) :=
  match text.takeWhile isBareKeyChar with
  | [] => shortString? text
  | bare => some (String.ofList bare, text.dropWhile isBareKeyChar)

/-- Reads a key of one or more parts. -/
def key? : (fuel : Nat) → List Char → Option (List String × List Char)
  | 0, _ => none
  | fuel + 1, text => do
    let (part, rest) ← keyPart? (skipSpace text)
    match skipSpace rest with
    | '.' :: more => do
      let (parts, rest) ← key? fuel more
      return (part :: parts, rest)
    | rest => return ([part], rest)

/-! ### Values -/

/-- Reads the items of an array and its end, after the items read before. -/
def items? (value? : List Char → Option (Toml × List Char)) (read : List Toml) :
    (fuel : Nat) → List Char → Option (List Toml × List Char)
  | 0, _ => none
  | fuel + 1, text => do
    match ← skipLines (text.length + 1) text with
    | ']' :: rest => return (read.reverse, rest)
    | start =>
      let (item, rest) ← value? start
      match ← skipLines (rest.length + 1) rest with
      | ',' :: rest => items? value? (item :: read) fuel rest
      | ']' :: rest => return ((item :: read).reverse, rest)
      | _ => none

/-- Reads a key and its value. -/
def pair? (value? : List Char → Option (Toml × List Char)) (text : List Char) :
    Option ((List String × Toml) × List Char) := do
  let (path, rest) ← key? maxKeyLength text
  match rest with
  | '=' :: rest => do
    let (value, rest) ← value? (skipSpace rest)
    return ((path, value), rest)
  | _ => none

/-- Reads the pairs of a table in braces and its end, after the pairs read before. -/
def pairs? (value? : List Char → Option (Toml × List Char)) (read : List (List String × Toml)) :
    (fuel : Nat) → List Char → Option (List (List String × Toml) × List Char)
  | 0, _ => none
  | fuel + 1, text => do
    let (pair, rest) ← pair? value? text
    match skipSpace rest with
    | ',' :: rest => pairs? value? (pair :: read) fuel rest
    | '\x7d' :: rest => return ((pair :: read).reverse, rest)
    | _ => none

end FabricConfig.Toml
