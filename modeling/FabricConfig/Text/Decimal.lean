/-!
# Decimal notation

The parts of a number that is written with a point and an exponent.
-/

namespace FabricConfig.Text

/-- A number in decimal notation without its sign: the digits before and after its point, and the
exponent of ten. -/
structure Scientific where
  whole : List Char
  fraction : List Char := []
  exponent : Int := 0
deriving DecidableEq

/-- The value of an exponent, which is zero if there are no digits. -/
def exponentValue : List Char → Int
  | '-' :: digits => -Nat.ofDigitChars 10 digits 0
  | '+' :: digits => Nat.ofDigitChars 10 digits 0
  | digits => Nat.ofDigitChars 10 digits 0

/-- The parts of a number: its digits up to the point, those after it, and what stands behind the
letter of the exponent. -/
def Scientific.ofText (text : List Char) : Scientific :=
  let afterWhole := text.dropWhile Char.isDigit
  let (fraction, afterFraction) := match afterWhole with
    | '.' :: rest => (rest.takeWhile Char.isDigit, rest.dropWhile Char.isDigit)
    | _ => ([], afterWhole)
  ⟨text.takeWhile Char.isDigit, fraction, exponentValue (afterFraction.drop 1)⟩

end FabricConfig.Text
