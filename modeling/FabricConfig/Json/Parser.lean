import FabricConfig.Json.Token
/-!
# Reading JSON

A machine takes the tokens of a text one by one. Its stack holds the arrays and objects that are
still open, so values may be nested to any depth.
-/

namespace FabricConfig.Json

/-- A field of an object, with its key if that stands for a text. -/
abbrev Field := Option String × Json

/-- An array or object that is still open, with what it holds so far, last first. -/
inductive Frame where
  | array (items : List Json)
  /-- An object that waits for the value of `key`. -/
  | object (fields : List Field) (key : Option String)

/-- What the machine expects next. -/
inductive Mode where
  /-- A value. -/
  | value
  /-- The first item of an array, or its end. -/
  | firstItem
  /-- The first key of an object, or its end. -/
  | firstKey
  /-- A further key, after the given fields. -/
  | nextKey (fields : List Field)
  /-- The colon after `key`. -/
  | colon (fields : List Field) (key : Option String)
  /-- What may follow a complete value: a comma or an end mark, or nothing at the outermost
  level. -/
  | after (value : Json)

/-- A reader in the middle of a text. -/
structure Machine where
  /-- The open arrays and objects around the place reached, innermost first. -/
  stack : List Frame
  mode : Mode

namespace Machine

/-- The machine before the first token. -/
def start : Machine := ⟨[], .value⟩

/-- A string with its text, if it stands for one. -/
def string (value : Option String) : Json := (value.map Json.text).getD .broken

/-- The object with the given fields, last first. -/
def closeObject (fields : List Field) : Json :=
  match fields.reverse.mapM fun (key, value) => key.map (·, value) with
  | some fields => .object fields
  | none => .broken

/-- Starts a value with `token`. -/
def beginValue (stack : List Frame) : Token → Option Machine
  | .openArray => some ⟨.array [] :: stack, .firstItem⟩
  | .openObject => some ⟨stack, .firstKey⟩
  | .text value => some ⟨stack, .after (string value)⟩
  | .word value => some ⟨stack, .after value⟩
  | _ => none

/-- Takes a key of an object that holds `fields`. -/
def takeKey (stack : List Frame) (fields : List Field) : Token → Option Machine
  | .text key => some ⟨stack, .colon fields key⟩
  | _ => none

/-- Takes the token after a value that completes an item of the innermost frame. -/
def takeSeparator (value : Json) : List Frame → Token → Option Machine
  | .array items :: stack, .comma => some ⟨.array (value :: items) :: stack, .value⟩
  | .array items :: stack, .closeArray =>
    some ⟨stack, .after (.array (value :: items).reverse)⟩
  | .object fields key :: stack, .comma => some ⟨stack, .nextKey ((key, value) :: fields)⟩
  | .object fields key :: stack, .closeObject =>
    some ⟨stack, .after (closeObject ((key, value) :: fields))⟩
  | _, _ => none

/-- Takes one token. -/
def step (machine : Machine) (token : Token) : Option Machine :=
  match machine.mode with
  | .value => beginValue machine.stack token
  | .firstItem =>
    match token, machine.stack with
    | .closeArray, .array [] :: stack => some ⟨stack, .after (.array [])⟩
    | _, _ => beginValue machine.stack token
  | .firstKey =>
    match token with
    | .closeObject => some ⟨machine.stack, .after (closeObject [])⟩
    | _ => takeKey machine.stack [] token
  | .nextKey fields => takeKey machine.stack fields token
  | .colon fields key =>
    match token with
    | .colon => some ⟨.object fields key :: machine.stack, .value⟩
    | _ => none
  | .after value => takeSeparator value machine.stack token

/-- Takes all tokens of a text. -/
def run (machine : Machine) (text : List Char) : Option Machine :=
  match _trimmed : text.dropWhile isSpace with
  | [] => some machine
  | c :: rest =>
    match _read : Token.next? c rest with
    | none => none
    | some (token, remaining) =>
      match machine.step token with
      | none => none
      | some next => next.run remaining
termination_by text.length
decreasing_by
  have taken := Token.next?_length _read
  have trimmed := length_dropWhile_le isSpace text
  rw [_trimmed, List.length_cons] at trimmed
  omega

/-- The value read, once no array or object is open. -/
def result? : Machine → Option Json
  | ⟨[], .after value⟩ => some value
  | _ => none

end Machine

/-- Reads a text that holds one JSON value. -/
def parse? (text : String) : Option Json :=
  (Machine.start.run text.toList).bind Machine.result?

end FabricConfig.Json
