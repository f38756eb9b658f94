import FabricConfig.Generation.Encoder
import FabricConfig.Proofs.Outcome
import FabricConfig.Proofs.Text.Cutting
import FabricConfig.Proofs.Words
/-!
# What settings are read from

A site's name and a cell's properties, as they are read by the encoders, and what they must be.

* `siteIndex_eq_ok_iff`: a site's name is its lead, one of four letters, and anything after that.
* `RefusesSite`, `siteIndex_eq_error_iff`: what is said of a name that is not so.
* `Property.word_eq_ok_iff`: a property gives a word when it stands for a number that fits.
* `wordOrZero_eq_ok_iff`: the word under a key, which is zero when there is no such key.
-/

namespace FabricConfig

open Text

/-! ### Sites -/

/-- The letters that tell the sites of a tile apart. -/
def siteLetters : List Char := ['A', 'B', 'C', 'D']

/-- A site's name: what its kind requires, the letter with the index, and anything after that. -/
def IsSite (lead site : String) (index : Nat) : Prop :=
  ∃ letter rest, site.toList = lead.toList ++ letter :: rest ∧ siteLetters[index]? = some letter

theorem siteLetters_getElem?_eq_some_iff {letter : Char} {index : Nat} :
    siteLetters[index]? = some letter ↔
      index < 4 ∧ (letter.toNat : Int) - 'A'.toNat = index := by
  have first : 'A'.toNat = 65 := rfl
  have known : ∀ other : Char, other.toNat = letter.toNat → other = letter := fun other same =>
    Char.toNat_inj.mp same
  match index with
  | 0 =>
    refine Option.some_inj.trans ⟨fun same => by subst same; decide, fun both => known _ ?_⟩
    show 65 = letter.toNat
    omega
  | 1 =>
    refine Option.some_inj.trans ⟨fun same => by subst same; decide, fun both => known _ ?_⟩
    show 66 = letter.toNat
    omega
  | 2 =>
    refine Option.some_inj.trans ⟨fun same => by subst same; decide, fun both => known _ ?_⟩
    show 67 = letter.toNat
    omega
  | 3 =>
    refine Option.some_inj.trans ⟨fun same => by subst same; decide, fun both => known _ ?_⟩
    show 68 = letter.toNat
    omega
  | index + 4 =>
    refine iff_of_false ?_ (by omega)
    rw [List.getElem?_eq_none (Nat.le_add_left 4 index)]
    exact nofun

theorem mem_siteLetters_iff {letter : Char} : letter ∈ siteLetters ↔
    0 ≤ (letter.toNat : Int) - 'A'.toNat ∧ (letter.toNat : Int) - 'A'.toNat < sitesPerTile := by
  have four : sitesPerTile = 4 := rfl
  simp only [List.mem_iff_getElem?, siteLetters_getElem?_eq_some_iff]
  constructor
  · rintro ⟨place, small, distance⟩
    omega
  · rintro ⟨reached, small⟩
    exact ⟨((letter.toNat : Int) - 'A'.toNat).toNat, by omega, by omega⟩

section Names

variable {site lead : String} {letter : Char} {rest : List Char} {index : Nat}

/-- The letter after the lead decides, whatever comes after it. -/
theorem siteIndex_of_toList_eq (starts : site.toList = lead.toList ++ letter :: rest) :
    siteIndex site lead =
      if letter ∈ siteLetters then .ok ((letter.toNat : Int) - 'A'.toNat).toNat
      else .error (.siteOutOfRange site (letter.toNat - 'A'.toNat)) := by
  unfold siteIndex
  rw [dropLead?_eq_some_iff.mpr starts]
  dsimp only
  simp only [mem_siteLetters_iff]

theorem siteIndex_of_forall_toList_ne
    (lacks : ∀ letter rest, site.toList ≠ lead.toList ++ letter :: rest) :
    siteIndex site lead = .error (.invalidSite site lead) := by
  unfold siteIndex
  split
  · rfl
  · rfl
  · rename_i letter rest found
    exact absurd (dropLead?_eq_some_iff.mp found) (lacks letter rest)

/-- **A site's name is its lead, one of four letters, and anything after that.** -/
theorem siteIndex_eq_ok_iff : siteIndex site lead = .ok index ↔ IsSite lead site index := by
  constructor
  · intro read
    by_cases starts : ∃ letter rest, site.toList = lead.toList ++ letter :: rest
    · obtain ⟨letter, rest, starts⟩ := starts
      rw [siteIndex_of_toList_eq starts] at read
      split at read
      · rename_i listed
        obtain ⟨reached, small⟩ := mem_siteLetters_iff.mp listed
        have four : sitesPerTile = 4 := rfl
        have same := Except.ok.inj read
        exact ⟨letter, rest, starts, siteLetters_getElem?_eq_some_iff.mpr ⟨by omega, by omega⟩⟩
      · cases read
    · rw [siteIndex_of_forall_toList_ne fun letter rest same => starts ⟨letter, rest, same⟩] at read
      cases read
  · rintro ⟨letter, rest, starts, place⟩
    obtain ⟨_, distance⟩ := siteLetters_getElem?_eq_some_iff.mp place
    rw [siteIndex_of_toList_eq starts, if_pos (List.mem_of_getElem? place), distance, Int.toNat_natCast]

/-- What is said of a name without an index: it lacks what its kind requires or has no letter after
that, or the letter is none of the four, and then how far it is from the first. -/
inductive RefusesSite (lead site : String) : GenerationError → Prop
  | noLetter (lacks : ∀ letter rest, site.toList ≠ lead.toList ++ letter :: rest) :
      RefusesSite lead site (.invalidSite site lead)
  | foreign {letter : Char} {rest : List Char} (starts : site.toList = lead.toList ++ letter :: rest)
      (unlisted : letter ∉ siteLetters) :
      RefusesSite lead site (.siteOutOfRange site (letter.toNat - 'A'.toNat))

/-- **Every other name is refused**, for the first reason that there is. -/
theorem siteIndex_eq_error_iff {error : GenerationError} :
    siteIndex site lead = .error error ↔ RefusesSite lead site error := by
  constructor
  · intro failed
    by_cases starts : ∃ letter rest, site.toList = lead.toList ++ letter :: rest
    · obtain ⟨letter, rest, starts⟩ := starts
      rw [siteIndex_of_toList_eq starts] at failed
      split at failed
      · cases failed
      · rename_i unlisted
        cases failed
        exact .foreign starts unlisted
    · have lacks (letter : Char) (rest : List Char) : site.toList ≠ lead.toList ++ letter :: rest :=
        fun same => starts ⟨letter, rest, same⟩
      rw [siteIndex_of_forall_toList_ne lacks] at failed
      cases failed
      exact .noLetter lacks
  · rintro (lacks | ⟨starts, unlisted⟩)
    · exact siteIndex_of_forall_toList_ne lacks
    · rw [siteIndex_of_toList_eq starts, if_neg unlisted]

end Names

/-! ### Words -/

/-- The number that a property stands for: the integer itself, or what the binary digits of a
literal give. -/
def Property.Denotes : Property → Nat → Prop
  | .integer given, value => given.toInt = value
  | .text literal, value => ∃ digits, literal.toList = '0' :: 'b' :: digits ∧
    (∀ digit ∈ digits, digit = '0' ∨ digit = '1') ∧ Bits.value digits = value

/-- **A property gives a word when it stands for a number that fits.** -/
theorem Property.word_eq_ok_iff {property : Property} {width : Nat} {bits : Bits} :
    property.word width = .ok bits ↔
      ∃ value, property.Denotes value ∧ value < 2 ^ width ∧ bits = Bits.ofNat value width := by
  cases property with
  | integer given => exact mapError_eq_ok_iff.trans Bits.ofIntChecked_eq_ok_iff
  | text literal =>
    refine (mapError_eq_ok_iff.trans Bits.ofLiteral_eq_ok_iff).trans ⟨?_, ?_⟩
    · rintro ⟨digits, same, binary, fits, rfl⟩
      exact ⟨Bits.value digits, ⟨digits, same, binary, rfl⟩, fits, rfl⟩
    · rintro ⟨_, ⟨digits, same, binary, rfl⟩, fits, rfl⟩
      exact ⟨digits, same, binary, fits, rfl⟩

/-- A property that is refused as a word is a malformed literal. -/
theorem Property.word_eq_error {property : Property} {width : Nat} {error : GenerationError}
    (failed : property.word width = .error error) :
    ∃ fault, error = .malformedLiteral property.display fault := by
  cases property with
  | integer given =>
    obtain ⟨fault, _, blamed⟩ := mapError_eq_error_iff.mp failed
    exact ⟨fault, blamed⟩
  | text literal =>
    obtain ⟨fault, _, blamed⟩ := mapError_eq_error_iff.mp failed
    exact ⟨fault, blamed⟩

/-- The number under a key of a cell's properties, zero when there is no such key. -/
def Design.Gives (design : Design) (properties : Properties) (key : String) (value : Nat) : Prop :=
  match design.property? properties key with
  | some property => property.Denotes value
  | none => value = 0

/-- **The word under a key** is that of its number, which must fit. -/
theorem Design.wordOrZero_eq_ok_iff {design : Design} {properties : Properties} {key : String}
    {width : Nat} {bits : Bits} :
    design.wordOrZero properties key width = .ok bits ↔
      ∃ value, design.Gives properties key value ∧ value < 2 ^ width ∧
        bits = Bits.ofNat value width := by
  unfold Design.wordOrZero Design.Gives
  cases design.property? properties key with
  | some property => exact Property.word_eq_ok_iff
  | none =>
    dsimp only
    rw [Except.ok.injEq, ← Bits.ofNat_zero]
    constructor
    · rintro rfl
      exact ⟨0, rfl, Nat.two_pow_pos width, rfl⟩
    · rintro ⟨_, rfl, _, rfl⟩
      rfl

/-- A word is refused as a malformed literal. -/
theorem Design.wordOrZero_eq_error {design : Design} {properties : Properties} {key : String}
    {width : Nat} {error : GenerationError}
    (failed : design.wordOrZero properties key width = .error error) :
    ∃ value fault, error = .malformedLiteral value fault := by
  unfold Design.wordOrZero at failed
  cases given : design.property? properties key with
  | none =>
    rw [given] at failed
    cases failed
  | some property =>
    rw [given] at failed
    exact ⟨property.display, Property.word_eq_error failed⟩

end FabricConfig
