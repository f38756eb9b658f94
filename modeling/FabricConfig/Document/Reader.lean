import FabricConfig.Document.Basic
import FabricConfig.Text.Blank
import FabricConfig.Text.Lines
import FabricConfig.Text.Numeral
/-!
# Reading a document from text

Blanks around a line do not count, except in the text of a comment. A line is blank or a remark
(`#`), a directive (`.device`, `.comment`, `.tile`) or the setting of a feature in the tile named
last. Reading stops at the first line that is none of these.
-/

namespace FabricConfig

/-- What is wrong with a line. -/
inductive LineProblem where
  /-- The directive `.tile` names no tile. -/
  | missingTileName
  | unknownDirective (name : String)
  /-- The line is no directive and has no colon. -/
  | missingColon (line : String)
  /-- A feature is set before any tile is named. -/
  | outsideTile (kind : String)
  | tooManyFields (line : String)
  | wrongFieldCount (line : String)
  /-- A character of a word is neither `0` nor `1`. -/
  | invalidBit (bit : Char) (word : String)
  | malformedRawBit (text : String)
  | unknownKind (kind : String)
deriving DecidableEq, Repr

/-- The wording of a line's problem. -/
def LineProblem.message : LineProblem → String
  | .missingTileName => "'.tile' needs a tile name"
  | .unknownDirective name => s!"unknown directive '.{name}'"
  | .missingColon line => s!"expected '<kind>: ...', found '{line}'"
  | .outsideTile kind => s!"'{kind}' outside of a '.tile' block"
  | .tooManyFields line => s!"too many fields in '{line}'"
  | .wrongFieldCount line => s!"wrong number of fields in '{line}'"
  | .invalidBit bit word => s!"invalid bit '{bit}' in word value '{word}'"
  | .malformedRawBit text => s!"expected F<frame>B<bit>, found '{text}'"
  | .unknownKind kind => s!"unknown feature kind '{kind}'"

/-- The first problem of a text, with the number of its line, counted from one. -/
structure TextError where
  line : Nat
  problem : LineProblem
deriving DecidableEq, Repr

/-- The wording of a text's problem. -/
def TextError.message (error : TextError) : String :=
  s!"line {error.line}: {error.problem.message}"

/-! ### Features -/

namespace Feature

/-- The kinds of features, as they are written. -/
def kinds : List String := ["arc", "word", "enum", "unknown"]

/-- The word of the given binary digits, least significant first; `word` is blamed for a faulty
digit. -/
def readDigits (word : String) : List Char → Except LineProblem Bits
  | [] => .ok []
  | digit :: rest =>
    if digit = '0' then (readDigits word rest).map (false :: ·)
    else if digit = '1' then (readDigits word rest).map (true :: ·)
    else .error (.invalidBit digit word)

/-- Reads a raw bit. -/
def readRawBit? (text : List Char) : Option RawBit := do
  let rest ← Text.dropLead? ['F'] text
  let (frame, bit) ← Text.splitOnce? 'B' rest
  return ⟨← Text.uint32? frame, ← Text.uint32? bit⟩

/-- Reads the feature of a kind from its fields; `line` is blamed for their number. -/
def ofFields (kind : String) (line : List Char) (fields : List (List Char)) :
    Except LineProblem Feature :=
  if 2 < fields.length then .error (.tooManyFields (String.ofList line))
  else match kind, fields with
    | "arc", [sink, source] => .ok (.arc (String.ofList sink) (String.ofList source))
    | "word", [name, digits] =>
      (readDigits (String.ofList digits) digits.reverse).map (.word (String.ofList name))
    | "word", [name] => .ok (.word (String.ofList name) [])
    | "enum", [name, value] => .ok (.enum (String.ofList name) (String.ofList value))
    | "unknown", [text] =>
      match readRawBit? text with
      | some bit => .ok (.raw bit)
      | none => .error (.malformedRawBit (String.ofList text))
    | kind, _ =>
      if kinds.contains kind then .error (.wrongFieldCount (String.ofList line))
      else .error (.unknownKind kind)

end Feature

/-! ### Lines -/

/-- A line by itself, its blanks removed. -/
inductive Statement where
  /-- The line says nothing. -/
  | remark
  | device (name : String)
  | comment (text : String)
  | tile (name : String)
  /-- The setting of a feature: its kind, and what follows the colon, in the line as a whole. -/
  | setting (kind : String) (body line : List Char)

namespace Statement

/-- Reads a directive from what follows the point; `whole` is the line with its last blanks. -/
def ofDirective (whole rest : List Char) : Except LineProblem Statement :=
  let (directive, argument) := (Text.splitOnce? ' ' rest).getD (rest, [])
  match String.ofList directive with
  | "device" => .ok (.device (String.ofList (Text.trim argument)))
  | "comment" =>
    let text := whole.drop ".comment".length
    .ok (.comment (String.ofList ((Text.dropLead? [' '] text).getD text)))
  | "tile" =>
    let name := Text.trim argument
    if name.isEmpty then .error .missingTileName else .ok (.tile (String.ofList name))
  | other => .error (.unknownDirective other)

/-- Reads a line. -/
def ofLine (raw : List Char) : Except LineProblem Statement :=
  let whole := Text.dropEndWhile (· == '\r') (Text.trimStart raw)
  let line := Text.trimEnd whole
  match line with
  | [] => .ok .remark
  | '#' :: _ => .ok .remark
  | '.' :: rest => ofDirective whole rest
  | _ =>
    match Text.splitOnce? ':' line with
    | none => .error (.missingColon (String.ofList line))
    | some (kind, body) => .ok (.setting (String.ofList kind) body line)

end Statement

/-! ### Texts -/

/-- A document that is being read, and the tile named last. -/
structure Reader where
  document : Document := {}
  tile : Option String := none

namespace Reader

/-- Takes what a line says. -/
def take (reader : Reader) : Statement → Except LineProblem Reader
  | .remark => .ok reader
  | .device name => .ok { reader with document := { reader.document with deviceName := name } }
  | .comment text => .ok { reader with document := reader.document.comment text }
  | .tile name => .ok ⟨reader.document.apply (.create name), some name⟩
  | .setting kind body line =>
    match reader.tile with
    | none => .error (.outsideTile kind)
    | some tile =>
      (Feature.ofFields kind line (Text.fields body)).map fun feature =>
        { reader with document := reader.document.apply (.set tile feature) }

/-- Reads one line. -/
def readLine (reader : Reader) (raw : List Char) : Except LineProblem Reader :=
  (Statement.ofLine raw).bind reader.take

/-- Reads lines in turn, the first of which has the number `line`. -/
def readLines (reader : Reader) (line : Nat) : List (List Char) → Except TextError Reader
  | [] => .ok reader
  | raw :: rest =>
    match reader.readLine raw with
    | .ok next => next.readLines (line + 1) rest
    | .error problem => .error ⟨line, problem⟩

end Reader

/-- Reads a document from its text. -/
def Document.ofText (text : String) : Except TextError Document :=
  (Reader.readLines {} 1 (Text.lines text.toList)).map (·.document)

end FabricConfig
