/-!
# Words of bits

A word is a list of bits, the least significant first. Words come from integers and from binary
literals such as `0b1010`, whose digits stand most significant first.

* `length_ofInt`: a word has the width that is asked for.
-/

namespace FabricConfig

/-- A word, least significant bit first. -/
abbrev Bits := List Bool

/-- Why a value cannot be read as a word. -/
inductive LiteralFault where
  /-- The literal does not start with `0b`. -/
  | missingPrefix
  /-- A digit is neither `0` nor `1`. -/
  | invalidDigit (digit : Char)
  /-- The value needs more bits than the word has. -/
  | tooWide (width : Nat)
deriving DecidableEq, Repr

/-- The wording of a fault. -/
def LiteralFault.message : LiteralFault → String
  | .missingPrefix => "expected 0b prefix"
  | .invalidDigit digit => s!"invalid binary digit '{digit}'"
  | .tooWide width => s!"value does not fit in {width} bits"

namespace Bits

/-- The word of `width` zeros. -/
def zero (width : Nat) : Bits := List.replicate width false

/-- The low `width` bits of the two's complement form of `value`; bits past the 64th are zero. -/
def ofInt (value : Int64) (width : Nat) : Bits :=
  (List.range width).map fun position =>
    decide (position < 64) && (value >>> Int64.ofNat position &&& 1 == 1)

/-- A number with a bit put in at a position that holds a zero. -/
def putBit (value : UInt64) (bit : Bool) (position : Nat) : UInt64 :=
  value ||| bit.toUInt64 <<< UInt64.ofNat position

/-- The number whose binary digits are the first 64 bits of a word. -/
def toUInt64 (bits : Bits) : UInt64 :=
  (bits.take 64).zipIdx.foldl (fun value (bit, position) => putBit value bit position) 0

/-- Packs a value that is at least zero and below `2 ^ width`. Values are below `2 ^ 63`, so from
that width on none is too great. -/
def ofIntChecked (value : Int64) (width : Nat) : Except LiteralFault Bits :=
  if 0 ≤ value ∧ (63 ≤ width ∨ value < 1 <<< Int64.ofNat width) then .ok (ofInt value width)
  else .error (.tooWide width)

/-- The bits of binary digits, least significant first. The first faulty digit is blamed: one
that is no binary digit, or a one at or above position `width`. -/
def ofDigits (width : Nat) : (position : Nat) → (digits : List Char) → Except LiteralFault Bits
  | _, [] => .ok []
  | position, digit :: rest =>
    if digit = '0' then (ofDigits width (position + 1) rest).map (false :: ·)
    else if digit = '1' then
      if position < width then (ofDigits width (position + 1) rest).map (true :: ·)
      else .error (.tooWide width)
    else .error (.invalidDigit digit)

/-- A word cut or filled up with zeros to `width` bits. -/
def resize (width : Nat) (bits : Bits) : Bits :=
  (bits ++ zero width).take width

/-- Reads a literal: `0b` and binary digits, most significant first. Zeros beyond `width` are
accepted, ones are not. -/
def ofLiteral (literal : String) (width : Nat) : Except LiteralFault Bits :=
  match literal.toList with
  | '0' :: 'b' :: digits => (ofDigits width 0 digits.reverse).map (resize width)
  | _ => .error .missingPrefix

theorem length_ofInt (value : Int64) (width : Nat) : (ofInt value width).length = width := by
  rw [ofInt, List.length_map, List.length_range]

/-- The binary digits of a word, least significant first. -/
def digits (bits : Bits) : List Char :=
  bits.map fun bit => if bit then '1' else '0'

end Bits

end FabricConfig
