import FabricConfig.Binary64
import FabricConfig.Json.Basic
import FabricConfig.Text.Decimal
import FabricConfig.Text.Numeral
/-!
# Readable values

A value that is passed over may hold strings that stand for no text and numbers of any size. Where
a value is read as a whole, all its strings must stand for texts and all its numbers must be in the
range of double precision.
-/

namespace FabricConfig.Json

/-- Appends digits to a significand as long as it stays below `2 ^ 64`, and counts the digits that
are left over. -/
def extend (significand : Nat) : List Char → Nat × Nat
  | [] => (significand, 0)
  | digit :: rest =>
    let extended := Nat.ofDigitChars 10 [digit] significand
    if extended < 2 ^ 64 then extend extended rest else (significand, rest.length + 1)

/-- Whether a number is in range. It is taken as a significand below `2 ^ 64`, which its first
digits give, times a power of ten; both are rounded before they are multiplied. -/
def isInRange (number : Text.Scientific) : Bool :=
  let (whole, wholeLeft) := extend 0 number.whole
  let (significand, fractionLeft) := extend whole number.fraction
  let exponent := number.exponent + wholeLeft + fractionLeft - number.fraction.length
  if significand = 0 ∨ exponent < 0 then true
  else if 308 < exponent then false
  else Binary64.round significand * Binary64.round (Nat.pow 10 exponent.toNat) < Binary64.bound

mutual

/-- Whether every string in a value stands for a text and every number is in range. -/
def isReadable : Json → Bool
  | .null | .bool _ | .text _ => true
  | .broken => false
  | .integer value => isInRange ⟨Text.decimal value.natAbs, [], 0⟩
  | .decimal literal => isInRange (.ofText (literal.toList.dropWhile (· == '-')))
  | .array items => itemsReadable items
  | .object fields => fieldsReadable fields

/-- Whether every item of an array is readable. -/
def itemsReadable : List Json → Bool
  | [] => true
  | item :: rest => item.isReadable && itemsReadable rest

/-- Whether every field of an object is readable. -/
def fieldsReadable : List (String × Json) → Bool
  | [] => true
  | (_, value) :: rest => value.isReadable && fieldsReadable rest

end

end FabricConfig.Json
