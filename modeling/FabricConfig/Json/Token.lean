import FabricConfig.Json.Basic
import FabricConfig.Text.Numeral
/-!
# JSON tokens

A token is a punctuation mark, a string or another scalar. Strings are scanned into pieces first,
since an escape may stand for half of a surrogate pair only.

* `Token.next?_length`: a token takes characters off the text and adds none.
-/

namespace FabricConfig.Json

/-- The blanks allowed between tokens. -/
def isSpace (c : Char) : Bool := c == ' ' || c == '\n' || c == '\r' || c == '\t'

/-! ### Strings -/

/-- A piece of a string: a character, or a UTF-16 code unit given by its number. -/
inductive Piece where
  | plain (c : Char)
  | codeUnit (n : Nat)
deriving DecidableEq

/-- The character that a letter after a backslash stands for. -/
def escaped? : Char → Option Char
  | '"' => some '"'
  | '\\' => some '\\'
  | '/' => some '/'
  | 'b' => some '\x08'
  | 'f' => some '\x0c'
  | 'n' => some '\n'
  | 'r' => some '\r'
  | 't' => some '\t'
  | _ => none

/-- The pieces up to the closing quote, after those scanned before, and what follows the quote.
Control characters are allowed only in escaped form. -/
def scanPieces (scanned : List Piece) : List Char → Option (List Piece × List Char)
  | [] => none
  | '"' :: rest => some (scanned.reverse, rest)
  | '\\' :: 'u' :: a :: b :: c :: d :: rest =>
    match Text.ofHexDigits? [a, b, c, d] with
    | some n => scanPieces (.codeUnit n :: scanned) rest
    | none => none
  | '\\' :: letter :: rest =>
    match escaped? letter with
    | some c => scanPieces (.plain c :: scanned) rest
    | none => none
  | c :: rest =>
    if c.toNat < 0x20 || c == '\\' then none else scanPieces (.plain c :: scanned) rest

/-- Joins pieces into characters, after those joined before. A high surrogate stands only right
before a low one, and the two make one character; otherwise the pieces stand for no text. -/
def joinPieces (joined : List Char) : List Piece → Option (List Char)
  | [] => some joined.reverse
  | .plain c :: rest => joinPieces (c :: joined) rest
  | .codeUnit high :: .codeUnit low :: rest =>
    if 0xD800 ≤ high ∧ high < 0xDC00 then
      if 0xDC00 ≤ low ∧ low < 0xE000 then
        joinPieces (Char.ofNat (0x10000 + (high - 0xD800) * 0x400 + (low - 0xDC00)) :: joined) rest
      else none
    else if 0xDC00 ≤ high ∧ high < 0xE000 then none
    else joinPieces (Char.ofNat high :: joined) (.codeUnit low :: rest)
  | .codeUnit n :: rest =>
    if 0xD800 ≤ n ∧ n < 0xE000 then none else joinPieces (Char.ofNat n :: joined) rest

/-! ### Other scalars -/

/-- The characters of numbers and of `true`, `false` and `null`. -/
def isWordChar (c : Char) : Bool := c.isAlphanum || c == '+' || c == '-' || c == '.'

/-- Whether an integer part has the form of JSON: one digit, or more that start above zero. -/
def isIntegerPart (digits : List Char) : Bool :=
  !digits.isEmpty && digits.all Char.isDigit && (digits.length == 1 || digits.head? != some '0')

/-- Whether the text after a number's integer part is a fraction, an exponent, or both in turn. -/
def isTail (text : List Char) : Bool :=
  let afterFraction := match text with
    | '.' :: rest => if (rest.takeWhile Char.isDigit).isEmpty then none
      else some (rest.dropWhile Char.isDigit)
    | _ => some text
  match afterFraction with
  | none => false
  | some [] => true
  | some (mark :: rest) =>
    let digits := match rest with
      | '+' :: digits => digits
      | '-' :: digits => digits
      | _ => rest
    (mark == 'e' || mark == 'E') && !digits.isEmpty && digits.all Char.isDigit

/-- Reads a number. -/
def number? (text : List Char) : Option Json :=
  let (negative, unsigned) := match text with
    | '-' :: rest => (true, rest)
    | _ => (false, text)
  let digits := unsigned.takeWhile Char.isDigit
  let tail := unsigned.dropWhile Char.isDigit
  if !isIntegerPart digits then none
  else if tail.isEmpty then
    let value := Nat.ofDigitChars 10 digits 0
    if !negative then some (.integer value)
    else if value = 0 then some (.decimal (String.ofList text))
    else some (.integer (-value))
  else if isTail tail then some (.decimal (String.ofList text))
  else none

/-- Reads a scalar that is not a string. -/
def word? (text : List Char) : Option Json :=
  if text = ['n', 'u', 'l', 'l'] then some .null
  else if text = ['t', 'r', 'u', 'e'] then some (.bool true)
  else if text = ['f', 'a', 'l', 's', 'e'] then some (.bool false)
  else number? text

/-! ### Tokens -/

/-- What a JSON text is made of. -/
inductive Token where
  | openArray
  | closeArray
  | openObject
  | closeObject
  | colon
  | comma
  /-- A string, with its text if it stands for one. -/
  | text (value : Option String)
  /-- A scalar that is not a string. -/
  | word (value : Json)

/-- The token that starts with `c`, and what follows it. -/
def Token.next? (c : Char) (rest : List Char) : Option (Token × List Char) :=
  if c = '[' then some (.openArray, rest)
  else if c = ']' then some (.closeArray, rest)
  else if c = '\x7b' then some (.openObject, rest)
  else if c = '\x7d' then some (.closeObject, rest)
  else if c = ':' then some (.colon, rest)
  else if c = ',' then some (.comma, rest)
  else if c = '"' then
    (scanPieces [] rest).map fun (pieces, remaining) =>
      (.text ((joinPieces [] pieces).map String.ofList), remaining)
  else
    (word? (c :: rest.takeWhile isWordChar)).map fun value =>
      (.word value, rest.dropWhile isWordChar)

/-- Scanning a string takes characters off the text. -/
theorem scanPieces_length {scanned pieces : List Piece} {text remaining : List Char}
    (scan : scanPieces scanned text = some (pieces, remaining)) :
    remaining.length ≤ text.length := by
  fun_induction scanPieces scanned text <;> simp_all <;> grind

theorem length_dropWhile_le {α : Type} (drop : α → Bool) (items : List α) :
    (items.dropWhile drop).length ≤ items.length :=
  (List.dropWhile_sublist drop).length_le

/-- A token takes characters off the text. -/
theorem Token.next?_length {c : Char} {rest remaining : List Char} {token : Token}
    (read : Token.next? c rest = some (token, remaining)) : remaining.length ≤ rest.length := by
  have drop := length_dropWhile_le isWordChar rest
  unfold Token.next? at read
  repeat' split at read
  all_goals first
    | (simp only [Option.some.injEq, Prod.mk.injEq] at read; grind)
    | skip
  · obtain ⟨⟨pieces, left⟩, scan, same⟩ := Option.map_eq_some_iff.mp read
    have shorter := scanPieces_length scan
    grind
  · obtain ⟨value, _, same⟩ := Option.map_eq_some_iff.mp read
    grind

end FabricConfig.Json
