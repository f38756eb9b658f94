import FabricConfig.Proofs.Words
import Mathlib.Algebra.Group.Int.Defs
import Mathlib.Algebra.Group.Nat.Defs
import Mathlib.Data.List.Induction
/-!
# Packing and unpacking

Numbers of 64 bits and words of at most as many bits tell each other bit by bit, so packing and
unpacking undo each other as far as both have places: up to the width of the word, and up to the
64th bit.

* `testBit_toUInt64`: the number of a word has the word's bits, up to the 64th.
* `toNat_toUInt64_ofNat`: the number of a packed number is what is left of it.
* `ofInt_toUInt64`: a word that is unpacked and packed again is as before.
* `toUInt64_ofInt_and_ofInt_toUInt64`: both ways, for integers with a sign.
-/

namespace FabricConfig.Bits

variable {width position place : Nat} {bits : Bits}

/-! ### Unpacking -/

/-- A bit that is put in is found at its own place, and all other bits stay as they are. -/
theorem testBit_putBit (value : UInt64) (bit : Bool) (within : place < 64) (position : Nat) :
    (putBit value bit place).toNat.testBit position =
      (value.toNat.testBit position || decide (position = place) && bit) := by
  have amount : (UInt64.ofNat place).toNat % 64 = place := by
    rw [UInt64.toNat_ofNat_of_lt' (Nat.lt_trans within (by decide)), Nat.mod_eq_of_lt within]
  rw [putBit, UInt64.toNat_or, Nat.testBit_or, UInt64.toNat_shiftLeft, amount,
    Nat.testBit_mod_two_pow, Nat.testBit_shiftLeft]
  congr 1
  cases bit with
  | false =>
    rw [show false.toUInt64.toNat = 0 from rfl, Nat.zero_testBit, Bool.and_false, Bool.and_false,
      Bool.and_false]
  | true =>
    rw [show true.toUInt64.toNat = 1 from rfl, Bool.and_true, Bool.eq_iff_iff]
    simp only [Bool.and_eq_true, decide_eq_true_eq, Nat.testBit_one_eq_true_iff_self_eq_zero]
    omega

/-- The bits of a word that are put in one by one, by induction on the end of the word: the last bit
goes to the place behind all others. -/
theorem testBit_foldl_putBit (bits : Bits) (short : bits.length ≤ 64) (position : Nat) :
    (bits.zipIdx.foldl (fun value (bit, position) => putBit value bit position) 0).toNat.testBit
      position = bits[position]?.getD false := by
  induction bits using List.reverseRecOn with
  | nil => exact Nat.zero_testBit position
  | append_singleton bits bit ih =>
    rw [List.length_append, List.length_singleton] at short
    rw [List.zipIdx_append, List.foldl_append, List.zipIdx_singleton, List.foldl_cons,
      List.foldl_nil, testBit_putBit _ _ (by omega), ih (by omega), Nat.zero_add]
    rcases Nat.lt_trichotomy position bits.length with before | rfl | beyond
    · rw [List.getElem?_append_left before, decide_eq_false (Nat.ne_of_lt before), Bool.false_and,
        Bool.or_false]
    · rw [List.getElem?_concat_length, List.getElem?_eq_none (Nat.le_refl _), decide_eq_true rfl]
      rfl
    · rw [List.getElem?_eq_none (Nat.le_of_lt beyond), decide_eq_false (Nat.ne_of_gt beyond),
        List.getElem?_eq_none (by rw [List.length_append, List.length_singleton]; omega)]
      rfl

/-- **The number of a word has the word's bits**, up to the 64th. -/
theorem testBit_toUInt64 (bits : Bits) (position : Nat) :
    bits.toUInt64.toNat.testBit position = (decide (position < 64) && bits[position]?.getD false) := by
  rw [toUInt64, testBit_foldl_putBit _ (List.length_take_le 64 bits), List.getElem?_take]
  by_cases within : position < 64
  · rw [if_pos within, decide_eq_true within, Bool.true_and]
  · rw [if_neg within, decide_eq_false within]
    rfl

/-! ### Packing -/

theorem getElem?_ofNat (value : Nat) (within : position < width) :
    (ofNat value width)[position]? = some (value.testBit position) := by
  rw [ofNat, List.getElem?_map, List.getElem?_range within, Option.map_some]

/-- **The number of a packed number** is what its bits below the width and below the 64th leave. -/
theorem toNat_toUInt64_ofNat (value width : Nat) :
    (ofNat value width).toUInt64.toNat = value % 2 ^ min width 64 := by
  refine Nat.eq_of_testBit_eq fun position => ?_
  rw [testBit_toUInt64, Nat.testBit_mod_two_pow]
  by_cases within : position < width
  · rw [getElem?_ofNat value within, Option.getD_some]
    congr 1
    exact decide_eq_decide.mpr (by omega)
  · rw [List.getElem?_eq_none (by rw [length_ofNat]; omega), Option.getD_none, Bool.and_false,
      decide_eq_false (by omega), Bool.false_and]

/-- A packed integer has no ones from the 64th bit on. -/
theorem getElem?_ofInt_of_le (integer : Int64) (beyond : 64 ≤ position) (within : position < width) :
    (ofInt integer width)[position]? = some false := by
  rw [ofInt, List.getElem?_map, List.getElem?_range within, Option.map_some,
    decide_eq_false (Nat.not_lt_of_le beyond), Bool.false_and]

/-- **The number of a packed integer** is the integer modulo a power of two. -/
theorem toNat_toUInt64_ofInt (integer : Int64) (width : Nat) :
    ((ofInt integer width).toUInt64.toNat : Int) = integer.toInt % 2 ^ min width 64 := by
  have divides : (2 : Int) ^ min width 64 ∣ 2 ^ 64 := by
    exact_mod_cast Nat.pow_dvd_pow 2 (Nat.min_le_right width 64)
  rw [ofInt_eq_ofNat, toNat_toUInt64_ofNat]
  push_cast
  rw [toNat_toUInt64_integer, Int.emod_emod_of_dvd _ divides]

/-- **A word that is unpacked and packed again is as before.** -/
theorem ofInt_toUInt64 (short : bits.length ≤ 64) :
    ofInt bits.toUInt64.toInt64 bits.length = bits := by
  refine List.ext_getElem? fun position => ?_
  rw [ofInt_eq_ofNat, UInt64.toUInt64_toInt64]
  by_cases within : position < bits.length
  · rw [getElem?_ofNat _ within, testBit_toUInt64, decide_eq_true (by omega), Bool.true_and,
      List.getElem?_eq_getElem within, Option.getD_some]
  · rw [List.getElem?_eq_none (by rw [length_ofNat]; omega), List.getElem?_eq_none (by omega)]

/-- **Packing and unpacking are inverse modulo the width.** An integer that is packed into a word and
unpacked is left modulo a power of two, with the width of the word as its exponent, but 64 at most,
where a negative integer counts as its two's complement; and a word that has a number of 64 bits is
what the number packs into. -/
theorem toUInt64_ofInt_and_ofInt_toUInt64 :
    (∀ (integer : Int64) (width : Nat),
      (ofInt integer width).length = width ∧
      ((ofInt integer width).toUInt64.toNat : Int) = integer.toInt % 2 ^ min width 64 ∧
      ∀ position, 64 ≤ position → position < width →
        (ofInt integer width)[position]? = some false) ∧
    ∀ bits : Bits, bits.length ≤ 64 → ofInt bits.toUInt64.toInt64 bits.length = bits := by
  refine ⟨fun integer width => ⟨length_ofInt integer width, toNat_toUInt64_ofInt integer width, ?_⟩,
    fun bits short => ofInt_toUInt64 short⟩
  intro position beyond within
  exact getElem?_ofInt_of_le integer beyond within

/-- A negative integer in a word that is wider than integers are, and a full word whose number is
negative as an integer. -/
theorem toUInt64_ofInt_and_ofInt_toUInt64_negative :
    (ofInt (-2) 70).toUInt64.toNat = 2 ^ 64 - 2 ∧ (ofInt (-2) 70)[69]? = some false ∧
      (toUInt64 (List.replicate 64 true)).toInt64 = -1 ∧
      ofInt (toUInt64 (List.replicate 64 true)).toInt64 64 = List.replicate 64 true := by
  obtain ⟨packed, unpacked⟩ := toUInt64_ofInt_and_ofInt_toUInt64
  obtain ⟨_, left, zeros⟩ := packed (-2) 70
  refine ⟨?_, zeros 69 (by decide) (by decide), by decide +kernel, ?_⟩
  · have modulo : (-2 : Int64).toInt % 2 ^ min 70 64 = 2 ^ 64 - 2 := by decide
    omega
  · exact unpacked (List.replicate 64 true) (by decide)

end FabricConfig.Bits
