import FabricConfig.Proofs.Generation.Setting
import Mathlib.Algebra.Group.Int.Defs
import Mathlib.Algebra.Group.Nat.Defs
/-!
# Integers and literals as words

A word is given by an integer or by a binary literal. Both are read by what they stand for: what
denotes one number reads as one word, or is refused for one reason, in whichever form it is given.

* `binaryLiteral`, `denotes_binaryLiteral`: every number has literals, with zeros in front or not.
* `Property.Denotes.word_eq`: a property that denotes a number reads as its bits or does not fit.
* `Property.word_literals_and_integers`: which properties read as words, and that the forms agree.
-/

namespace FabricConfig

variable {width number : Nat} {property : Property}

/-! ### Literals -/

/-- A literal of a number: `0b`, any number of zeros and the binary digits of the number. -/
def binaryLiteral (zeros number : Nat) : String :=
  String.ofList ('0' :: 'b' :: (List.replicate zeros '0' ++ Nat.toDigits 2 number))

/-- **Every number has literals**, however many zeros stand in front. -/
theorem denotes_binaryLiteral (zeros number : Nat) :
    (Property.text (binaryLiteral zeros number)).Denotes number := by
  obtain ⟨binary, whole⟩ := Bits.value_toDigits number
  refine ⟨_, String.toList_ofList, List.forall_mem_append.mpr ⟨fun digit member => ?_, binary⟩, ?_⟩
  · exact .inl (List.eq_of_mem_replicate member)
  · rw [Bits.value_zeros_append, whole]

/-! ### Words -/

namespace Property

/-- **A property that denotes a number** reads as its bits if the number fits, and is refused for the
width if it does not. -/
theorem Denotes.word_eq (denotes : property.Denotes number) (width : Nat) :
    property.word width =
      if number < 2 ^ width then .ok (Bits.ofNat number width)
      else .error (.malformedLiteral property.display (.tooWide width)) := by
  by_cases fits : number < 2 ^ width
  · rw [if_pos fits]
    exact word_eq_ok_iff.mpr ⟨number, denotes, fits, rfl⟩
  · rw [if_neg fits]
    cases property with
    | integer given =>
      have unfit : ¬(0 ≤ given.toInt ∧ given.toInt < 2 ^ width) := by
        rintro ⟨_, small⟩
        rw [show given.toInt = number from denotes] at small
        exact fits (by exact_mod_cast small)
      exact mapError_eq_error_iff.mpr ⟨_, Bits.ofIntChecked_eq_tooWide unfit, rfl⟩
    | text literal =>
      obtain ⟨digits, same, binary, rfl⟩ := denotes
      exact mapError_eq_error_iff.mpr ⟨_, Bits.ofLiteral_eq_tooWide same binary fits, rfl⟩

/-- An integer denotes a number if it is not negative. -/
theorem word_integer_eq_ok_iff {integer : Int64} {bits : Bits} :
    (Property.integer integer).word width = .ok bits ↔
      0 ≤ integer.toInt ∧ integer.toInt < 2 ^ width ∧
        bits = Bits.ofNat integer.toInt.toNat width := by
  rw [word_eq_ok_iff]
  constructor
  · rintro ⟨number, same, fits, rfl⟩
    have whole : integer.toInt = number := same
    rw [whole]
    exact ⟨Int.natCast_nonneg number, by exact_mod_cast fits, rfl⟩
  · rintro ⟨nonnegative, small, rfl⟩
    have whole := Int.toNat_of_nonneg nonnegative
    refine ⟨integer.toInt.toNat, whole.symm, ?_, rfl⟩
    rw [← whole] at small
    exact_mod_cast small

/-- A text denotes a number if it is a literal. -/
theorem word_text_eq_ok_iff {literal : String} {bits : Bits} :
    (Property.text literal).word width = .ok bits ↔
      ∃ digits, literal.toList = '0' :: 'b' :: digits ∧
        (∀ digit ∈ digits, digit = '0' ∨ digit = '1') ∧ Bits.value digits < 2 ^ width ∧
        bits = Bits.ofNat (Bits.value digits) width :=
  mapError_eq_ok_iff.trans Bits.ofLiteral_eq_ok_iff

/-- **Integers and literals agree.** A text reads as a word when it is `0b` and binary digits whose
number fits, an integer when it is a number that fits, and both give the bits of the number, the least
significant first. Every number has literals, with any number of zeros in front. An integer and a
literal of one number read as one word, or both are refused because the value does not fit; and what
is refused at all is a malformed literal. -/
theorem word_literals_and_integers (width : Nat) :
    (∀ (literal : String) (bits : Bits), (Property.text literal).word width = .ok bits ↔
      ∃ digits, literal.toList = '0' :: 'b' :: digits ∧
        (∀ digit ∈ digits, digit = '0' ∨ digit = '1') ∧ Bits.value digits < 2 ^ width ∧
        bits = Bits.ofNat (Bits.value digits) width) ∧
    (∀ (integer : Int64) (bits : Bits), (Property.integer integer).word width = .ok bits ↔
      0 ≤ integer.toInt ∧ integer.toInt < 2 ^ width ∧
        bits = Bits.ofNat integer.toInt.toNat width) ∧
    (∀ zeros number, (Property.text (binaryLiteral zeros number)).Denotes number) ∧
    (∀ (integer : Int64) (literal : String) (number : Nat), integer.toInt = number →
      (Property.text literal).Denotes number →
      (∃ bits, (Property.integer integer).word width = .ok bits ∧
        (Property.text literal).word width = .ok bits) ∨
      ((Property.integer integer).word width =
          .error (.malformedLiteral (Property.integer integer).display (.tooWide width)) ∧
        (Property.text literal).word width = .error (.malformedLiteral literal (.tooWide width)))) ∧
    (LiteralFault.tooWide width).message = s!"value does not fit in {width} bits" ∧
    ∀ property error, Property.word property width = .error error →
      ∃ fault, error = .malformedLiteral property.display fault := by
  refine ⟨fun literal bits => word_text_eq_ok_iff, fun integer bits => word_integer_eq_ok_iff,
    denotes_binaryLiteral, fun integer literal number same denotes => ?_, rfl,
    fun property error failed => word_eq_error failed⟩
  have given : (Property.integer integer).Denotes number := same
  rw [given.word_eq, denotes.word_eq]
  by_cases fits : number < 2 ^ width
  · rw [if_pos fits, if_pos fits]
    exact .inl ⟨_, rfl, rfl⟩
  · rw [if_neg fits, if_neg fits]
    exact .inr ⟨rfl, rfl⟩

/-- The greatest integer and its literal with zeros beyond 64 digits, which read as a word of 63 bits
and as none of 62. -/
theorem word_literals_and_integers_greatest :
    (∃ bits, (Property.integer Int64.maxValue).word 63 = .ok bits ∧
      (Property.text (binaryLiteral 10 (2 ^ 63 - 1))).word 63 = .ok bits) ∧
    (Property.integer Int64.maxValue).word 62 =
      .error (.malformedLiteral "9223372036854775807" (.tooWide 62)) ∧
    (Property.text (binaryLiteral 10 (2 ^ 63 - 1))).word 62 =
      .error (.malformedLiteral (binaryLiteral 10 (2 ^ 63 - 1)) (.tooWide 62)) := by
  have whole : Int64.maxValue.toInt = (2 ^ 63 - 1 : Nat) := by decide
  have literal := denotes_binaryLiteral 10 (2 ^ 63 - 1)
  obtain ⟨_, wide, _, agreeWide, _⟩ := word_literals_and_integers 63
  obtain ⟨_, narrow, _, agreeNarrow, _⟩ := word_literals_and_integers 62
  constructor
  · rcases agreeWide _ _ _ whole literal with both | ⟨refused, _⟩
    · exact both
    · rw [(wide _ _).mpr ⟨by decide, by decide, rfl⟩] at refused
      cases refused
  · rcases agreeNarrow _ _ _ whole literal with ⟨bits, read, _⟩ | both
    · exact absurd ((narrow _ _).mp read).2.1 (by decide)
    · exact both

end Property

end FabricConfig
