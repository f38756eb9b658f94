/-!
# Numerals

Numbers in decimal, written without leading zeros and read from digits with an optional sign.

* `natural?_decimal`: a written number reads back.
-/

namespace FabricConfig.Text

/-- The decimal digits of a number, with no leading zero. -/
def decimal (n : Nat) : List Char := Nat.toDigits 10 n

/-- A decimal number with a minus sign if it is negative. -/
def signedDecimal : Int → List Char
  | .ofNat n => decimal n
  | .negSucc n => '-' :: decimal (n + 1)

/-- Reads one or more decimal digits. -/
def natural? (text : List Char) : Option Nat :=
  if !text.isEmpty && text.all Char.isDigit then some (Nat.ofDigitChars 10 text 0) else none

/-- Reads a number of 32 bits: digits with an optional plus sign before them. -/
def uint32? (text : List Char) : Option UInt32 :=
  let digits := match text with
    | '+' :: rest => rest
    | _ => text
  match natural? digits with
  | some value => if value < UInt32.size then some (UInt32.ofNat value) else none
  | none => none

/-- The lower-case hexadecimal digits of a number. -/
def hexadecimal (n : Nat) : List Char := Nat.toDigits 16 n

/-- The value of a hexadecimal digit, in either case. -/
def hexDigit? (c : Char) : Option Nat :=
  if c.isDigit then some (c.toNat - '0'.toNat)
  else if 'a' ≤ c ∧ c ≤ 'f' then some (c.toNat - 'a'.toNat + 10)
  else if 'A' ≤ c ∧ c ≤ 'F' then some (c.toNat - 'A'.toNat + 10)
  else none

/-- The number that hexadecimal digits denote, if all are such digits. -/
def ofHexDigits? (digits : List Char) : Option Nat :=
  digits.foldlM (fun value digit => (hexDigit? digit).map (value * 16 + ·)) 0

/-- Digits preceded by as many zeros as it takes to fill `width` places. -/
def padLeft (width : Nat) (digits : List Char) : List Char :=
  List.replicate (width - digits.length) '0' ++ digits

/-- A written number reads back. -/
theorem natural?_decimal (n : Nat) : natural? (decimal n) = some n := by
  have digit : ∀ c ∈ Nat.toDigits 10 n, c.isDigit = true := fun c member =>
    Nat.isDigit_of_mem_toDigits (by decide) (by decide) member
  simpa [natural?, decimal, Nat.ofDigitChars_ten_toDigits] using digit

end FabricConfig.Text
