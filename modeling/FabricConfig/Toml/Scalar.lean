import FabricConfig.Binary64
import FabricConfig.Toml.Basic
import FabricConfig.Text.Blank
import FabricConfig.Text.Decimal
import FabricConfig.Text.Numeral
/-!
# TOML scalars

Strings in their four forms, numbers, truth values, dates and times. Every reader gives the value
and the rest of the text.
-/

namespace FabricConfig.Toml

/-- The blanks within a line. -/
def isSpace (c : Char) : Bool := c == ' ' || c == '\t'

/-- Whether a character may stand in a comment or a string: any but control characters, of which
only the tab is allowed. -/
def isPrintable (c : Char) : Bool := c == '\t' || (0x20 ≤ c.toNat && c.toNat != 0x7F)

/-- What follows the line feed, or the carriage return and line feed, that starts a text. -/
def newline? : List Char → Option (List Char)
  | '\n' :: rest => some rest
  | '\r' :: '\n' :: rest => some rest
  | _ => none

/-! ### Strings -/

/-- The character that a letter after a backslash stands for. -/
def escaped? : Char → Option Char
  | 'b' => some '\x08'
  | 't' => some '\t'
  | 'n' => some '\n'
  | 'f' => some '\x0c'
  | 'r' => some '\r'
  | '"' => some '"'
  | '\\' => some '\\'
  | _ => none

/-- The character with a number in hexadecimal. -/
def scalar? (digits : List Char) : Option Char :=
  (Text.ofHexDigits? digits).bind fun n =>
    if valid : n.isValidChar then some (Char.ofNatAux n valid) else none

/-- The rest of a string between double quotes, after the characters read before. -/
def basicString (read : List Char) : List Char → Option (String × List Char)
  | [] => none
  | '"' :: rest => some (String.ofList read.reverse, rest)
  | '\\' :: 'u' :: a :: b :: c :: d :: rest =>
    match scalar? [a, b, c, d] with
    | some char => basicString (char :: read) rest
    | none => none
  | '\\' :: 'U' :: a :: b :: c :: d :: e :: f :: g :: h :: rest =>
    match scalar? [a, b, c, d, e, f, g, h] with
    | some char => basicString (char :: read) rest
    | none => none
  | '\\' :: letter :: rest =>
    match escaped? letter with
    | some char => basicString (char :: read) rest
    | none => none
  | char :: rest =>
    if isPrintable char && char != '\\' then basicString (char :: read) rest else none

/-- The rest of a string between single quotes, after the characters read before. -/
def literalString (read : List Char) : List Char → Option (String × List Char)
  | [] => none
  | '\'' :: rest => some (String.ofList read.reverse, rest)
  | char :: rest => if isPrintable char then literalString (char :: read) rest else none

/-- The end of a string of several lines, after its three closing quotes: up to two further quotes
belong to the string. -/
def closeString (quote : Char) (read : List Char) : List Char → String × List Char
  | first :: second :: rest =>
    if first == quote && second == quote then (String.ofList (quote :: quote :: read).reverse, rest)
    else if first == quote then (String.ofList (quote :: read).reverse, second :: rest)
    else (String.ofList read.reverse, first :: second :: rest)
  | [first] =>
    if first == quote then (String.ofList (quote :: read).reverse, [])
    else (String.ofList read.reverse, [first])
  | [] => (String.ofList read.reverse, [])

/-- Whether only blanks stand before the end of the line. -/
def isLineRest (text : List Char) : Bool := (newline? (text.dropWhile isSpace)).isSome

/-- The rest of a string between three double quotes, after the characters read before. While
`folding`, blanks and line ends are skipped, as they are after a backslash that ends a line. -/
def longBasicString (folding : Bool) (read : List Char) : List Char → Option (String × List Char)
  | [] => none
  | '"' :: '"' :: '"' :: rest => some (closeString '"' read rest)
  | '\r' :: '\n' :: rest => longBasicString folding (if folding then read else '\n' :: read) rest
  | '\n' :: rest => longBasicString folding (if folding then read else '\n' :: read) rest
  | '\\' :: 'u' :: a :: b :: c :: d :: rest =>
    match scalar? [a, b, c, d] with
    | some char => longBasicString false (char :: read) rest
    | none => none
  | '\\' :: 'U' :: a :: b :: c :: d :: e :: f :: g :: h :: rest =>
    match scalar? [a, b, c, d, e, f, g, h] with
    | some char => longBasicString false (char :: read) rest
    | none => none
  | '\\' :: letter :: rest =>
    if isLineRest (letter :: rest) then longBasicString true read (letter :: rest)
    else match escaped? letter with
      | some char => longBasicString false (char :: read) rest
      | none => none
  | char :: rest =>
    if folding && isSpace char then longBasicString true read rest
    else if isPrintable char && char != '\\' then longBasicString false (char :: read) rest
    else none

/-- The rest of a string between three single quotes, after the characters read before. -/
def longLiteralString (read : List Char) : List Char → Option (String × List Char)
  | [] => none
  | '\'' :: '\'' :: '\'' :: rest => some (closeString '\'' read rest)
  | '\r' :: '\n' :: rest => longLiteralString ('\n' :: read) rest
  | '\n' :: rest => longLiteralString ('\n' :: read) rest
  | char :: rest => if isPrintable char then longLiteralString (char :: read) rest else none

/-- A text without the line end that starts it, if one does. -/
def skipNewline (text : List Char) : List Char := (newline? text).getD text

/-- Reads a string of one line. -/
def shortString? : List Char → Option (String × List Char)
  | '"' :: rest => basicString [] rest
  | '\'' :: rest => literalString [] rest
  | _ => none

/-- Reads a string in any form. -/
def string? : List Char → Option (String × List Char)
  | '"' :: '"' :: '"' :: rest => longBasicString false [] (skipNewline rest)
  | '\'' :: '\'' :: '\'' :: rest => longLiteralString [] (skipNewline rest)
  | text => shortString? text

/-! ### Numbers -/

/-- The digits of a number in groups, which are joined by single underscores. -/
def digitGroups? (isDigit : Char → Bool) (text : List Char) : Option (List Char) :=
  let groups := text.splitOn '_'
  if groups.all fun group => !group.isEmpty && group.all isDigit then some groups.flatten else none

/-- A number's text without its sign, and whether it has a minus sign. -/
def unsigned : List Char → Bool × List Char
  | '-' :: rest => (true, rest)
  | '+' :: rest => (false, rest)
  | text => (false, text)

/-- Reads the digits of a decimal number, which do not start with zero unless that is all. -/
def decimalDigits? (text : List Char) : Option (List Char) :=
  (digitGroups? Char.isDigit text).bind fun digits =>
    if digits.length = 1 ∨ digits.head? ≠ some '0' then some digits else none

/-- Reads the digits of a number in base `2 ^ bits`, given the greatest digit of that base. -/
def radixValue? (base : Nat) (text : List Char) : Option Nat :=
  (digitGroups? (fun c => ((Text.hexDigit? c).map (decide <| · < base)).getD false) text).map
    fun digits => digits.foldl (fun value digit => value * base + (Text.hexDigit? digit).getD 0) 0

/-- Reads an integer of 64 bits with a sign. -/
def integer? (text : List Char) : Option Int :=
  let value? : Option Int := match text with
    | '0' :: 'x' :: digits => (radixValue? 16 digits).map Int.ofNat
    | '0' :: 'o' :: digits => (radixValue? 8 digits).map Int.ofNat
    | '0' :: 'b' :: digits => (radixValue? 2 digits).map Int.ofNat
    | _ =>
      let (negative, digits) := unsigned text
      (decimalDigits? digits).map fun digits =>
        let value : Int := Nat.ofDigitChars 10 digits 0
        if negative then -value else value
  value?.filter fun value =>
    Int64.minValue.toInt ≤ value && value ≤ Int64.maxValue.toInt

/-- Whether a text is the exponent of a float, without its mark. -/
def isExponent (text : List Char) : Bool := (digitGroups? Char.isDigit (unsigned text).2).isSome

/-- Whether a number, given by its digits, is rounded to infinity. -/
def isInfinite (digits : List Char) : Bool :=
  let number := Text.Scientific.ofText (digits.filter (· != '_'))
  Binary64.exceeds (Nat.ofDigitChars 10 (number.whole ++ number.fraction) 0)
    (number.exponent - number.fraction.length)

/-- Whether a text is a float. One that is rounded to infinity, and not by the name `inf`, is
allowed with a minus sign only. -/
def isFloat (text : List Char) : Bool :=
  let (negative, digits) := unsigned text
  if digits = ['i', 'n', 'f'] ∨ digits = ['n', 'a', 'n'] then true
  else
    let isMark := fun c => c == 'e' || c == 'E'
    let mantissa := digits.takeWhile (!isMark ·)
    let exponentFits := match digits.dropWhile (!isMark ·) with
      | [] => true
      | _ :: exponent => isExponent exponent
    let mantissaFits := match Text.splitOnce? '.' mantissa with
      | none => (decimalDigits? mantissa).isSome && mantissa.length < digits.length
      | some (whole, fraction) =>
        (decimalDigits? whole).isSome && (digitGroups? Char.isDigit fraction).isSome
    mantissaFits && exponentFits && (negative || !isInfinite digits)

/-! ### Dates and times -/

/-- The value of exactly `count` digits, if it lies between two bounds. -/
def digitsWithin? (count least greatest : Nat) (text : List Char) : Option Nat :=
  if text.length = count then
    (Text.natural? text).filter fun value => least ≤ value && value ≤ greatest
  else none

/-- The number of days of a month. -/
def daysOf (year month : Nat) : Nat :=
  if month = 2 then if year % 4 = 0 ∧ (year % 100 ≠ 0 ∨ year % 400 = 0) then 29 else 28
  else if month = 4 ∨ month = 6 ∨ month = 9 ∨ month = 11 then 30
  else 31

/-- Whether a text is a date. -/
def isDate (text : List Char) : Bool :=
  match text.splitOn '-' with
  | [year, month, day] => Option.isSome do
    let year ← digitsWithin? 4 0 9999 year
    let month ← digitsWithin? 2 1 12 month
    digitsWithin? 2 1 (daysOf year month) day
  | _ => false

/-- Whether a text is an hour and a minute. -/
def isHourMinute (hour minute : List Char) : Bool :=
  (digitsWithin? 2 0 23 hour).isSome && (digitsWithin? 2 0 59 minute).isSome

/-- Whether a text is a time of day. -/
def isTime (text : List Char) : Bool :=
  match text.splitOn ':' with
  | [hour, minute, second] =>
    isHourMinute hour minute &&
      match Text.splitOnce? '.' second with
      | none => (digitsWithin? 2 0 60 second).isSome
      | some (whole, fraction) =>
        (digitsWithin? 2 0 60 whole).isSome && (Text.natural? fraction).isSome
  | _ => false

/-- Whether a text is a time of day, perhaps with its distance from universal time. -/
def isZonedTime (text : List Char) : Bool :=
  let isZone := fun c => c == 'Z' || c == 'z' || c == '+' || c == '-'
  isTime (text.takeWhile (!isZone ·)) &&
    match text.dropWhile (!isZone ·) with
    | [] => true
    | mark :: zone =>
      if mark == 'Z' || mark == 'z' then zone.isEmpty
      else match zone.splitOn ':' with
        | [hour, minute] => isHourMinute hour minute
        | _ => false

/-- Whether a text is a date, a time, or both joined by a `T`. -/
def isMoment (text : List Char) : Bool :=
  isDate text || isTime text ||
    (isDate (text.take 10) &&
      match text.drop 10 with
      | mark :: time => (mark == 'T' || mark == 't') && isZonedTime time
      | [] => false)

/-! ### Words -/

/-- The characters of scalars that are not strings. -/
def isWordChar (c : Char) : Bool :=
  c.isAlphanum || c == '+' || c == '-' || c == '_' || c == '.' || c == ':'

/-- Reads a truth value, a number, a date or a time. A blank may stand between a date and a time. -/
def word? (text : List Char) : Option (Toml × List Char) :=
  let word := text.takeWhile isWordChar
  let rest := text.dropWhile isWordChar
  if word = ['t', 'r', 'u', 'e'] then some (.boolean true, rest)
  else if word = ['f', 'a', 'l', 's', 'e'] then some (.boolean false, rest)
  else match integer? word with
    | some value => some (.integer value, rest)
    | none =>
      if isFloat word then some (.float (String.ofList word), rest)
      else
        let time := (rest.drop 1).takeWhile isWordChar
        if isDate word && rest.head? == some ' ' && isZonedTime time then
          some (.moment (String.ofList (word ++ ' ' :: time)), (rest.drop 1).dropWhile isWordChar)
        else if isMoment word then some (.moment (String.ofList word), rest)
        else none

end FabricConfig.Toml
