import FabricConfig.Bits
import FabricConfig.Proofs.Outcome
import Mathlib.Algebra.Group.Int.Defs
import Mathlib.Algebra.Group.Nat.Defs
/-!
# Words and numbers

A word that is read stands for a number: for the one that the digits of a literal give, or for the
integer itself.

* `testBit_value`: the bits of the number are the digits, the last one first.
* `value_toDigits`: every number has binary digits.
* `ofLiteral_eq_ok_iff`: a literal is read when it has binary digits and its number fits.
* `ofInt_eq_ofNat`: an integer is packed as its two's complement form.
* `ofIntChecked_eq_ok_iff`: an integer is packed when it is a number that fits.
-/

namespace FabricConfig.Bits

/-- The low bits of a number. -/
def ofNat (value width : Nat) : Bits := (List.range width).map value.testBit

/-- The number that binary digits give, the most significant first. -/
def value (digits : List Char) : Nat :=
  digits.foldl (fun value digit => 2 * value + if digit = '1' then 1 else 0) 0

variable {width position : Nat} {digits : List Char} {bits : Bits}

theorem length_ofNat (value width : Nat) : (ofNat value width).length = width := by
  rw [ofNat, List.length_map, List.length_range]

theorem ofNat_zero (width : Nat) : ofNat 0 width = zero width := by
  refine List.ext_getElem? fun position => ?_
  rw [ofNat, zero, List.getElem?_map, List.getElem?_replicate]
  by_cases within : position < width
  · rw [List.getElem?_range within, if_pos within, Option.map_some, Nat.zero_testBit]
  · rw [List.getElem?_eq_none (by rw [List.length_range]; omega), if_neg within]
    rfl

theorem testBit_foldr (digits : List Char) (position : Nat) :
    (digits.foldr (fun digit value => 2 * value + if digit = '1' then 1 else 0) 0).testBit position =
      decide (digits[position]? = some '1') := by
  induction digits generalizing position with
  | nil => rw [List.foldr_nil, Nat.zero_testBit, List.getElem?_nil]; rfl
  | cons digit digits ih =>
    rw [List.foldr_cons]
    cases position with
    | zero =>
      rw [Nat.testBit_zero, List.getElem?_cons_zero]
      by_cases one : digit = '1'
      · rw [if_pos one, one, decide_eq_decide]
        exact iff_of_true (by omega) rfl
      · rw [if_neg one, decide_eq_decide]
        exact iff_of_false (by omega) fun same => one (Option.some.inj same)
    | succ position =>
      rw [Nat.testBit_succ, List.getElem?_cons_succ, ← ih]
      congr 1
      split <;> omega

/-- **The bits of the number are the digits**, the last one first. -/
theorem testBit_value (digits : List Char) (position : Nat) :
    (value digits).testBit position = decide (digits.reverse[position]? = some '1') := by
  rw [value, List.foldl_eq_foldr_reverse, testBit_foldr]

theorem value_append_singleton (digits : List Char) (digit : Char) :
    value (digits ++ [digit]) = 2 * value digits + if digit = '1' then 1 else 0 := by
  rw [value, List.foldl_append, ← value, List.foldl_cons, List.foldl_nil]

/-- Zeros in front do not change the number. -/
theorem value_zeros_append (zeros : Nat) (digits : List Char) :
    value (List.replicate zeros '0' ++ digits) = value digits := by
  rw [value, List.foldl_append]
  congr 1
  induction zeros with
  | zero => rfl
  | succ zeros ih =>
    rw [List.replicate_succ', List.foldl_append, ih]
    rfl

/-- **The binary digits of a number** are binary and give the number, by induction on the number
without its last digit. -/
theorem value_toDigits (number : Nat) :
    (∀ digit ∈ Nat.toDigits 2 number, digit = '0' ∨ digit = '1') ∧
      value (Nat.toDigits 2 number) = number := by
  have single {digit : Nat} (small : digit < 2) :
      (digit.digitChar = '0' ∨ digit.digitChar = '1') ∧
        (if digit.digitChar = '1' then 1 else 0) = digit := by
    obtain rfl | rfl : digit = 0 ∨ digit = 1 := by omega
    · decide
    · decide
  induction number using Nat.strongRecOn with
  | ind number ih =>
    by_cases small : number < 2
    · obtain ⟨binary, alone⟩ := single small
      rw [Nat.toDigits_of_lt_base small, List.forall_mem_singleton]
      refine ⟨binary, ?_⟩
      rw [← List.nil_append [number.digitChar], value_append_singleton, alone]
      exact Nat.zero_add number
    · obtain ⟨binary, whole⟩ := ih (number / 2) (by omega)
      obtain ⟨last, alone⟩ := single (Nat.mod_lt number Nat.two_pos)
      rw [Nat.toDigits_of_base_le (by decide) (by omega), List.forall_mem_append,
        List.forall_mem_singleton, value_append_singleton, whole, alone]
      exact ⟨⟨binary, last⟩, Nat.div_add_mod number 2⟩

/-- A number fits when none of its ones stands at or above the width. -/
theorem value_lt_iff :
    value digits < 2 ^ width ↔
      ∀ position, digits.reverse[position]? = some '1' → position < width := by
  constructor
  · intro small position one
    refine Nat.lt_of_not_le fun beyond => ?_
    have zero := Nat.testBit_lt_two_pow
      (Nat.lt_of_lt_of_le small (Nat.pow_le_pow_right Nat.two_pos beyond))
    rw [testBit_value, one] at zero
    cases zero
  · intro below
    refine Nat.lt_pow_two_of_testBit _ fun position beyond => ?_
    rw [testBit_value, decide_eq_false_iff_not]
    intro one
    exact absurd (below position one) (Nat.not_lt_of_le beyond)

/-- Where the ones of digits stand, the first of which stands at a position. -/
theorem forall_place_cons_iff {digit : Char} :
    (∀ place, (digit :: digits)[place]? = some '1' → position + place < width) ↔
      (digit = '1' → position < width) ∧
        ∀ place, digits[place]? = some '1' → position + 1 + place < width := by
  constructor
  · intro below
    refine ⟨fun one => below 0 (by rw [List.getElem?_cons_zero, one]), fun place found => ?_⟩
    have := below (place + 1) (by rw [List.getElem?_cons_succ, found])
    omega
  · rintro ⟨first, others⟩ place found
    cases place with
    | zero => exact first (Option.some.inj found)
    | succ place =>
      have := others place found
      omega

/-- Digits are read when all are binary and no one stands at or above the width. -/
theorem ofDigits_eq_ok_iff :
    ofDigits width position digits = .ok bits ↔ (∀ digit ∈ digits, digit = '0' ∨ digit = '1') ∧
      (∀ place, digits[place]? = some '1' → position + place < width) ∧
      bits = digits.map (· == '1') := by
  induction digits generalizing position bits with
  | nil => simp [ofDigits, eq_comm]
  | cons digit digits ih =>
    have mapped (bit : Bool) :
        (ofDigits width (position + 1) digits).map (bit :: ·) = .ok bits ↔
          (∀ digit ∈ digits, digit = '0' ∨ digit = '1') ∧
            (∀ place, digits[place]? = some '1' → position + 1 + place < width) ∧
            bits = bit :: digits.map (· == '1') := by
      simp only [map_eq_ok_iff, ih]
      constructor
      · rintro ⟨_, ⟨binary, below, rfl⟩, rfl⟩
        exact ⟨binary, below, rfl⟩
      · rintro ⟨binary, below, rfl⟩
        exact ⟨_, ⟨binary, below, rfl⟩, rfl⟩
    rw [forall_place_cons_iff]
    unfold ofDigits
    by_cases zero : digit = '0'
    · subst zero
      rw [if_pos rfl, mapped]
      simp
    · rw [if_neg zero]
      by_cases one : digit = '1'
      · subst one
        rw [if_pos rfl]
        by_cases within : position < width
        · rw [if_pos within, mapped]
          simp [within]
        · rw [if_neg within]
          simp [within]
      · rw [if_neg one]
        simp [zero, one]

/-- Binary digits are refused only for a one at or above the width. -/
theorem eq_tooWide_of_ofDigits {fault : LiteralFault}
    (binary : ∀ digit ∈ digits, digit = '0' ∨ digit = '1')
    (failed : ofDigits width position digits = .error fault) : fault = .tooWide width := by
  induction digits generalizing position with
  | nil => cases failed
  | cons digit digits ih =>
    obtain ⟨first, others⟩ := List.forall_mem_cons.mp binary
    unfold ofDigits at failed
    rcases first with rfl | rfl
    · rw [if_pos rfl, map_eq_error_iff] at failed
      exact ih others failed
    · rw [if_neg (by decide), if_pos rfl] at failed
      split at failed
      · exact ih others (map_eq_error_iff.mp failed)
      · exact (Except.error.inj failed).symm

/-- Digits cut or filled up with zeros are the low bits of their number. -/
theorem resize_map_reverse (digits : List Char) (width : Nat) :
    resize width (digits.reverse.map (· == '1')) = ofNat (value digits) width := by
  refine List.ext_getElem? fun position => ?_
  rw [resize, ofNat, List.getElem?_take, List.getElem?_map]
  by_cases within : position < width
  · rw [if_pos within, List.getElem?_range within, Option.map_some, testBit_value]
    by_cases inside : position < digits.reverse.length
    · rw [List.getElem?_append_left (by rw [List.length_map]; exact inside), List.getElem?_map,
        List.getElem?_eq_getElem inside, Option.map_some, Option.some.injEq]
      simp only [Option.some.injEq]
      rfl
    · rw [List.getElem?_append_right (by rw [List.length_map]; omega), List.length_map, zero,
        List.getElem?_replicate_of_lt (by omega), List.getElem?_eq_none (by omega)]
      rfl
  · rw [if_neg within, List.getElem?_eq_none (by rw [List.length_range]; omega)]
    rfl

/-- **A literal is read when it has binary digits and its number fits.** -/
theorem ofLiteral_eq_ok_iff {literal : String} :
    ofLiteral literal width = .ok bits ↔ ∃ digits, literal.toList = '0' :: 'b' :: digits ∧
      (∀ digit ∈ digits, digit = '0' ∨ digit = '1') ∧ value digits < 2 ^ width ∧
      bits = ofNat (value digits) width := by
  unfold ofLiteral
  split
  · rename_i digits same
    simp only [same, List.cons.injEq, true_and, exists_eq_left']
    cases read : ofDigits width 0 digits.reverse with
    | error fault =>
      refine iff_of_false nofun ?_
      rintro ⟨binary, fits, _⟩
      rw [value_lt_iff] at fits
      rw [ofDigits_eq_ok_iff.mpr ⟨fun digit member => binary digit (List.mem_reverse.mp member),
        fun place one => by rw [Nat.zero_add]; exact fits place one, rfl⟩] at read
      cases read
    | ok others =>
      obtain ⟨binary, below, rfl⟩ := ofDigits_eq_ok_iff.mp read
      have fits : value digits < 2 ^ width := value_lt_iff.mpr fun place one => by
        have := below place one
        omega
      show Except.ok (resize width _) = _ ↔ _
      rw [resize_map_reverse, Except.ok.injEq]
      constructor
      · rintro rfl
        exact ⟨fun digit member => binary digit (List.mem_reverse.mpr member), fits, rfl⟩
      · rintro ⟨_, _, rfl⟩
        rfl
  · rename_i other
    refine iff_of_false nofun ?_
    rintro ⟨digits, same, _⟩
    exact other digits same

/-- **A literal whose number does not fit** is refused for its width, and for nothing else. -/
theorem ofLiteral_eq_tooWide {literal : String} {digits : List Char}
    (same : literal.toList = '0' :: 'b' :: digits)
    (binary : ∀ digit ∈ digits, digit = '0' ∨ digit = '1') (great : ¬value digits < 2 ^ width) :
    ofLiteral literal width = .error (.tooWide width) := by
  cases read : ofLiteral literal width with
  | ok bits =>
    obtain ⟨others, also, _, fits, _⟩ := ofLiteral_eq_ok_iff.mp read
    cases same.symm.trans also
    exact absurd fits great
  | error fault =>
    unfold ofLiteral at read
    rw [same] at read
    have refused := map_eq_error_iff.mp read
    rw [eq_tooWide_of_ofDigits (fun digit member => binary digit (List.mem_reverse.mp member)) refused]

/-! ### Integers -/

/-- A place in a number of 64 bits is a shift as it is. -/
theorem toNat_smod_ofNat (within : position < 64) :
    ((Int64.ofNat position).toBitVec.smod 64).toNat = position := by
  have unsigned : (BitVec.ofNat 64 position).toNat = position := by
    rw [BitVec.toNat_ofNat]
    omega
  have sign : (BitVec.ofNat 64 position).msb = false := by
    rw [BitVec.msb_eq_decide, unsigned]
    exact decide_eq_false (by omega)
  rw [show (Int64.ofNat position).toBitVec = BitVec.ofNat 64 position from rfl, BitVec.smod_eq, sign,
    show (64 : BitVec 64).msb = false from rfl]
  show (BitVec.ofNat 64 position % 64).toNat = position
  rw [BitVec.toNat_umod, unsigned]
  exact Nat.mod_eq_of_lt within

/-- The last bit of an integer that is shifted is a bit of its two's complement form. The sign comes
in from above, and reaches the last bit only with shifts of 64 and more. -/
theorem shiftRight_and_one_eq_testBit {integer : Int64} (within : position < 64) :
    (integer >>> Int64.ofNat position &&& 1 == 1) = integer.toUInt64.toNat.testBit position := by
  have shifted : (integer >>> Int64.ofNat position).toBitVec.getLsbD 0 =
      integer.toBitVec.getLsbD position := by
    rw [Int64.toBitVec_shiftRight, BitVec.getLsbD_sshiftRight', toNat_smod_ofNat within]
    simp [within]
  show _ = integer.toBitVec.toNat.testBit position
  rw [BitVec.testBit_toNat, ← shifted, Bool.eq_iff_iff, beq_iff_eq, ← Int64.toBitVec_inj,
    Int64.toBitVec_and, show (1 : Int64).toBitVec = 1#64 from rfl,
    BitVec.and_one_eq_setWidth_ofBool_getLsbD]
  cases (integer >>> Int64.ofNat position).toBitVec.getLsbD 0 <;> decide

/-- **An integer is packed as its two's complement form.** -/
theorem ofInt_eq_ofNat (integer : Int64) (width : Nat) :
    ofInt integer width = ofNat integer.toUInt64.toNat width := by
  refine List.map_congr_left fun position _ => ?_
  by_cases within : position < 64
  · rw [decide_eq_true within, Bool.true_and, shiftRight_and_one_eq_testBit within]
  · have bound := integer.toUInt64.toNat_lt
    rw [decide_eq_false within, Bool.false_and]
    refine (Nat.testBit_lt_two_pow (Nat.lt_of_lt_of_le bound ?_)).symm
    exact Nat.pow_le_pow_right Nat.two_pos (Nat.le_of_not_lt within)

/-- Below the sign's place, one shifted is a power of two. -/
theorem toInt_one_shiftLeft (within : width < 63) :
    ((1 : Int64) <<< Int64.ofNat width).toInt = 2 ^ width := by
  have small : 2 ^ width < 2 ^ 63 := Nat.pow_lt_pow_right (by decide) within
  have unsigned : ((1 : Int64) <<< Int64.ofNat width).toBitVec.toNat = 2 ^ width := by
    rw [Int64.toBitVec_shiftLeft, BitVec.shiftLeft_eq', toNat_smod_ofNat (by omega),
      BitVec.toNat_shiftLeft, show (1 : Int64).toBitVec.toNat = 1 from rfl, Nat.one_shiftLeft]
    exact Nat.mod_eq_of_lt (by omega)
  rw [← Int64.toInt_toBitVec, BitVec.toInt_eq_toNat_of_lt (by omega), unsigned]
  push_cast
  rfl

/-- **The comparison with a shifted one tells what fits**, though it is made for widths below 63
only: no integer reaches the powers of two beyond. -/
theorem fits_iff {integer : Int64} :
    0 ≤ integer ∧ (63 ≤ width ∨ integer < 1 <<< Int64.ofNat width) ↔
      0 ≤ integer.toInt ∧ integer.toInt < 2 ^ width := by
  rw [Int64.le_iff_toInt_le, Int64.lt_iff_toInt_lt, show (0 : Int64).toInt = 0 from rfl]
  refine and_congr_right fun _ => ?_
  by_cases wide : 63 ≤ width
  · have bound : integer.toInt < 2 ^ 63 := integer.toInt_lt
    have wider : (2 : Int) ^ 63 ≤ 2 ^ width := by
      exact_mod_cast Nat.pow_le_pow_right (by decide) wide
    exact iff_of_true (.inl wide) (by omega)
  · rw [or_iff_right wide, toInt_one_shiftLeft (by omega)]

/-- An integer that does not fit is refused for the width. -/
theorem ofIntChecked_eq_tooWide {integer : Int64}
    (unfit : ¬(0 ≤ integer.toInt ∧ integer.toInt < 2 ^ width)) :
    ofIntChecked integer width = .error (.tooWide width) := if_neg (mt fits_iff.mp unfit)

/-- An integer as an unsigned number is the integer modulo `2 ^ 64`. -/
theorem toNat_toUInt64_integer (integer : Int64) :
    (integer.toUInt64.toNat : Int) = integer.toInt % 2 ^ 64 := by
  have wraps := integer.toInt_toBitVec
  rw [BitVec.toInt_eq_toNat_cond] at wraps
  have same : integer.toBitVec.toNat = integer.toUInt64.toNat := rfl
  have bound := integer.toUInt64.toNat_lt
  split at wraps <;> omega

/-- **An integer is packed when it is a number that fits.** -/
theorem ofIntChecked_eq_ok_iff {integer : Int64} :
    ofIntChecked integer width = .ok bits ↔ ∃ value : Nat, integer.toInt = value ∧
      value < 2 ^ width ∧ bits = ofNat value width := by
  unfold ofIntChecked
  split
  · rename_i guarded
    obtain ⟨nonnegative, fits⟩ := fits_iff.mp guarded
    have unsigned : integer.toUInt64.toNat = integer.toInt.toNat := by
      have wraps := toNat_toUInt64_integer integer
      have bound := integer.toInt_lt
      omega
    rw [Except.ok.injEq, ofInt_eq_ofNat, unsigned]
    constructor
    · rintro rfl
      refine ⟨integer.toInt.toNat, (Int.toNat_of_nonneg nonnegative).symm, ?_, rfl⟩
      rw [← Int.toNat_of_nonneg nonnegative] at fits
      exact_mod_cast fits
    · rintro ⟨value, same, _, rfl⟩
      rw [same]
      rfl
  · rename_i refused
    refine iff_of_false (fun packed => by cases packed) ?_
    rintro ⟨value, same, fits, _⟩
    refine refused (fits_iff.mpr ⟨by omega, ?_⟩)
    rw [same]
    exact_mod_cast fits

end FabricConfig.Bits
