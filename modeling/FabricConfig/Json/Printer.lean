import FabricConfig.Json.Basic
import FabricConfig.Text.Numeral
/-!
# Writing JSON

Values are written without blanks. In strings, quotes, backslashes and control characters are
escaped and all other characters stand for themselves. What stands for no text is written as `null`.
-/

namespace FabricConfig.Json

/-- How a character is written inside a string. -/
def escape (c : Char) : List Char :=
  if c = '"' then ['\\', '"']
  else if c = '\\' then ['\\', '\\']
  else if c = '\x08' then ['\\', 'b']
  else if c = '\x0c' then ['\\', 'f']
  else if c = '\n' then ['\\', 'n']
  else if c = '\r' then ['\\', 'r']
  else if c = '\t' then ['\\', 't']
  else if c.toNat < 0x20 then '\\' :: 'u' :: Text.padLeft 4 (Text.hexadecimal c.toNat)
  else [c]

/-- A string between quotes. -/
def quote (text : String) : List Char :=
  '"' :: text.toList.flatMap escape ++ ['"']

mutual

/-- The text of a value. -/
def print : Json → List Char
  | .null | .broken => ['n', 'u', 'l', 'l']
  | .bool true => ['t', 'r', 'u', 'e']
  | .bool false => ['f', 'a', 'l', 's', 'e']
  | .integer value => Text.signedDecimal value
  | .decimal literal => literal.toList
  | .text value => quote value
  | .array [] => ['[', ']']
  | .array (item :: rest) => '[' :: item.print ++ printItems rest
  | .object [] => ['\x7b', '\x7d']
  | .object ((key, value) :: rest) =>
    '\x7b' :: quote key ++ ':' :: value.print ++ printFields rest

/-- The further items of an array, and its end. -/
def printItems : List Json → List Char
  | [] => [']']
  | item :: rest => ',' :: item.print ++ printItems rest

/-- The further fields of an object, and its end. -/
def printFields : List (String × Json) → List Char
  | [] => ['\x7d']
  | (key, value) :: rest => ',' :: quote key ++ ':' :: value.print ++ printFields rest

end

/-- The text of a value. -/
def render (value : Json) : String := String.ofList value.print

end FabricConfig.Json
