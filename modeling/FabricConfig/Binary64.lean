/-!
# The range of double precision

A number in double precision has 53 significant bits and lies below `2 ^ 1024`. Numbers are rounded
to the nearest of these, and from half a step above the greatest one on, to infinity.
-/

namespace FabricConfig.Binary64

/-- The least number that is rounded to infinity, half way from the greatest number to
`2 ^ 1024`. -/
def bound : Nat := Nat.pow 2 1024 - Nat.pow 2 970

/-- A number rounded to 53 significant bits; of two that are equally near, the even one counts. -/
def round (n : Nat) : Nat :=
  let unit := Nat.pow 2 (n.log2 - 52)
  let below := n / unit
  let rest := n % unit
  if rest * 2 < unit ∨ rest * 2 = unit ∧ below % 2 = 0 then below * unit else (below + 1) * unit

/-- Whether `significand * 10 ^ exponent` is rounded to infinity. -/
def exceeds (significand : Nat) (exponent : Int) : Bool :=
  let magnitude := (Nat.toDigits 10 significand).length + exponent
  if significand = 0 ∨ magnitude < 309 then false
  else if 309 < magnitude then true
  else bound * Nat.pow 10 (-exponent).toNat ≤ significand * Nat.pow 10 exponent.toNat

end FabricConfig.Binary64
