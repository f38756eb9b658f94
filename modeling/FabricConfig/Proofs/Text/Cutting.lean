import FabricConfig.Text.Blank
import FabricConfig.Text.Numeral
import Mathlib.Data.List.TakeWhile
/-!
# Cutting a line

What trimming, cutting at blanks and cutting at a separator give on a text that is put together
from known parts.

* `IsTrimmed.trim_eq`, `isTrimmed_trim`: trimming keeps exactly the trimmed texts.
* `trimEnd_append`, `trimEnd_cons`: blanks are taken off the end of the last part only.
* `fields_append`: a field ends at the first blank after it.
* `splitOnce?_append`: a text is cut at its first separator.
* `uint32?_decimal`: a written 32-bit number reads back.
-/

namespace FabricConfig.Text

variable {drop : Char → Bool} {text rest : List Char} {c separator : Char}

/-- A text without blanks at its ends. -/
def IsTrimmed (text : List Char) : Prop :=
  (∀ c ∈ text.head?, isBlank c = false) ∧ ∀ c ∈ text.getLast?, isBlank c = false

-- The instances are named, as a search may find one that goes through all characters there are.
instance (text : List Char) : Decidable (IsTrimmed text) :=
  @instDecidableAnd _ _ (Option.decidableForallMem text.head?)
    (Option.decidableForallMem text.getLast?)

/-- A text that is not empty and holds no blank. -/
def IsField (text : List Char) : Prop := text ≠ [] ∧ ∀ c ∈ text, isBlank c = false

instance (text : List Char) : Decidable (IsField text) :=
  @instDecidableAnd _ _ inferInstance (List.decidableBAll _ text)

/-! ### Runs of characters -/

/-- A run of characters of a kind ends where another kind follows. -/
theorem takeWhile_append_eq {keep : Char → Bool} (inside : ∀ c ∈ text, keep c = true)
    (stops : ∀ c ∈ rest.head?, keep c = false) : (text ++ rest).takeWhile keep = text := by
  rw [List.takeWhile_append_of_pos inside]
  cases rest with
  | nil => rw [List.takeWhile_nil, List.append_nil]
  | cons c rest => rw [List.takeWhile_cons_of_neg (by simp [stops c rfl]), List.append_nil]

theorem dropWhile_append_eq {keep : Char → Bool} (inside : ∀ c ∈ text, keep c = true)
    (stops : ∀ c ∈ rest.head?, keep c = false) : (text ++ rest).dropWhile keep = rest := by
  rw [List.dropWhile_append_of_pos inside]
  cases rest with
  | nil => rfl
  | cons c rest => rw [List.dropWhile_cons_of_neg (by simp [stops c rfl])]

/-! ### Trimming -/

theorem dropWhile_eq_self (kept : ∀ c ∈ text.head?, drop c = false) :
    text.dropWhile drop = text := by
  cases text with
  | nil => rfl
  | cons c text => exact List.dropWhile_cons_of_neg (by simp [kept c rfl])

theorem dropEndWhile_eq_self (kept : ∀ c ∈ text.getLast?, drop c = false) :
    dropEndWhile drop text = text := by
  rw [dropEndWhile, dropWhile_eq_self (by simpa using kept), List.reverse_reverse]

/-- What is dropped at the end is dropped from the last part, and if nothing of it is left, from
the part before it. -/
theorem dropEndWhile_append (drop : Char → Bool) (text rest : List Char) :
    dropEndWhile drop (text ++ rest) =
      if dropEndWhile drop rest = [] then dropEndWhile drop text
      else text ++ dropEndWhile drop rest := by
  unfold dropEndWhile
  rw [List.reverse_append, List.dropWhile_append]
  by_cases gone : rest.reverse.dropWhile drop = []
  · simp [gone]
  · simp [gone]

theorem prefix_dropEndWhile (drop : Char → Bool) (text : List Char) :
    dropEndWhile drop text <+: text := by
  have suffix := List.dropWhile_suffix drop (l := text.reverse)
  rw [← List.reverse_prefix, List.reverse_reverse] at suffix
  exact suffix

/-- What is left does not end in a character to be dropped. -/
theorem getLast?_dropEndWhile (drop : Char → Bool) (text : List Char) :
    ∀ c ∈ (dropEndWhile drop text).getLast?, drop c = false := by
  intro c last
  rw [dropEndWhile, List.getLast?_reverse] at last
  have kept := List.head?_dropWhile_not drop text.reverse
  rw [Option.mem_def.mp last] at kept
  exact kept

theorem dropEndWhile_dropEndWhile {first second : Char → Bool}
    (covered : ∀ c, first c = true → second c = true) (text : List Char) :
    dropEndWhile second (dropEndWhile first text) = dropEndWhile second text := by
  have skip (rest : List Char) : (rest.dropWhile first).dropWhile second = rest.dropWhile second := by
    induction rest with
    | nil => rfl
    | cons c rest ih =>
      by_cases dropped : first c = true
      · simp [dropped, covered c dropped, ih]
      · simp [dropped]
  rw [dropEndWhile, dropEndWhile, dropEndWhile, List.reverse_reverse, skip]

/-- Behind a part that does not end in a blank, trimming stops. -/
theorem trimEnd_append (kept : ∀ c ∈ text.getLast?, isBlank c = false)
    (rest : List Char) : trimEnd (text ++ rest) = text ++ trimEnd rest := by
  unfold trimEnd
  rw [dropEndWhile_append]
  split
  · rename_i gone
    rw [gone, dropEndWhile_eq_self kept, List.append_nil]
  · rfl

/-- A blank before a text is trimmed with all of the text. -/
theorem trimEnd_cons (blank : isBlank c = true) (text : List Char) :
    trimEnd (c :: text) = if trimEnd text = [] then [] else c :: trimEnd text := by
  unfold trimEnd
  rw [show c :: text = [c] ++ text from rfl, dropEndWhile_append]
  split
  · simp [dropEndWhile, blank]
  · rfl

theorem IsTrimmed.trimStart_eq (trimmed : IsTrimmed text) : trimStart text = text :=
  dropWhile_eq_self trimmed.1

theorem IsTrimmed.trimEnd_eq (trimmed : IsTrimmed text) : trimEnd text = text :=
  dropEndWhile_eq_self trimmed.2

theorem IsTrimmed.trim_eq (trimmed : IsTrimmed text) : trim text = text := by
  rw [trim, trimmed.trimStart_eq, trimmed.trimEnd_eq]

theorem isTrimmed_trim (text : List Char) : IsTrimmed (trim text) := by
  refine ⟨fun c first => ?_, getLast?_dropEndWhile isBlank _⟩
  have kept := List.head?_dropWhile_not isBlank text
  obtain ⟨rest, whole⟩ := prefix_dropEndWhile isBlank (trimStart text)
  have head : (trimStart text).head? = some c := by
    rw [← whole, List.head?_append, show (dropEndWhile isBlank (trimStart text)).head? = some c
      from first, Option.some_or]
  rw [trimStart] at head
  rw [head] at kept
  exact kept

theorem trim_sublist (text : List Char) : (trim text).Sublist text :=
  (prefix_dropEndWhile isBlank _).sublist.trans (List.dropWhile_sublist isBlank)

theorem IsTrimmed.getLast?_ne (trimmed : IsTrimmed text) : text.getLast? ≠ some '\r' :=
  fun last => absurd (trimmed.2 '\r' last) (by decide)

theorem IsField.isTrimmed (field : IsField text) : IsTrimmed text :=
  ⟨fun c first => field.2 c (List.mem_of_mem_head? first),
    fun c last => field.2 c (List.mem_of_mem_getLast? last)⟩

theorem IsField.notMem (field : IsField text) (blank : isBlank c = true) : c ∉ text :=
  fun member => absurd (field.2 c member) (by simp [blank])

/-- A text from a trimmed start to a trimmed end is trimmed. -/
theorem IsTrimmed.append (first : IsTrimmed text) (second : IsTrimmed rest) (solid : text ≠ [])
    (last : rest ≠ []) (middle : List Char) : IsTrimmed (text ++ middle ++ rest) := by
  obtain ⟨c, text, rfl⟩ := List.exists_cons_of_ne_nil solid
  refine ⟨fun x head => first.1 x (by simpa using head), fun x final => second.2 x ?_⟩
  rw [List.getLast?_append, List.getLast?_eq_some_getLast last, Option.some_or] at final
  rw [List.getLast?_eq_some_getLast last]
  exact final

/-! ### Fields -/

theorem isField_of_mem_fields {field : List Char} (member : field ∈ fields text) :
    IsField field :=
  ⟨ne_nil_of_mem_fields member, not_isBlank_of_mem_fields member⟩

theorem fields_cons (blank : isBlank c = true) (text : List Char) :
    fields (c :: text) = fields text := by
  rw [fields, List.splitOnP_cons_eq_if_modifyHead, if_pos blank]
  rfl

theorem IsField.fields_eq (field : IsField text) : fields text = [text] := by
  rw [fields, List.splitOnP_eq_singleton field.2]
  simp [field.1]

/-- A field ends at the first blank after it. -/
theorem fields_append (field : IsField text) (blank : isBlank c = true) (rest : List Char) :
    fields (text ++ c :: rest) = text :: fields rest := by
  rw [fields, List.splitOnP_append_cons _ _ blank, List.splitOnP_eq_singleton field.2]
  simp [field.1, fields]

/-- Fields with a blank before each are found again. -/
theorem fields_flatMap {words : List (List Char)} (each : ∀ word ∈ words, IsField word)
    (blank : isBlank c = true) : fields (words.flatMap (c :: ·)) = words := by
  induction words with
  | nil => rfl
  | cons word words ih =>
    have field := each word List.mem_cons_self
    have later := ih fun other member => each other (List.mem_cons_of_mem _ member)
    rw [List.flatMap_cons, List.cons_append, fields_cons blank]
    cases words with
    | nil => rw [List.flatMap_nil, List.append_nil, field.fields_eq]
    | cons next words =>
      rw [List.flatMap_cons, List.cons_append] at later ⊢
      rw [fields_append field blank, ← fields_cons blank, later]

/-! ### Separators -/

/-- A text is cut at its first separator. -/
theorem splitOnce?_append (absent : separator ∉ text) (rest : List Char) :
    splitOnce? separator (text ++ separator :: rest) = some (text, rest) := by
  have differ : ∀ x ∈ text, (x != separator) = true := fun x member => by
    simpa using fun same : x = separator => absent (same ▸ member)
  rw [splitOnce?, List.dropWhile_append_of_pos differ, List.takeWhile_append_of_pos differ]
  simp

theorem splitOnce?_eq_none (absent : separator ∉ text) : splitOnce? separator text = none := by
  have differ : ∀ x ∈ text, (x != separator) = true := fun x member => by
    simpa using fun same : x = separator => absent (same ▸ member)
  rw [splitOnce?, List.dropWhile_eq_nil_iff.mpr differ]

/-- Cutting takes exactly the separator out of the text. -/
theorem eq_of_splitOnce?_eq_some {before after : List Char}
    (cut : splitOnce? separator text = some (before, after)) :
    text = before ++ separator :: after ∧ separator ∉ before := by
  unfold splitOnce? at cut
  split at cut
  · cases cut
  · rename_i x rest found
    cases cut
    have whole := List.takeWhile_append_dropWhile (p := (· != separator)) (l := text)
    have stop := List.head?_dropWhile_not (· != separator) text
    rw [found] at whole stop
    simp only [List.head?_cons, bne_eq_false_iff_eq] at stop
    subst stop
    refine ⟨whole.symm, fun member => ?_⟩
    simpa using List.mem_takeWhile_imp member

theorem splitOnce?_eq_some_iff {before after : List Char} :
    splitOnce? separator text = some (before, after) ↔
      text = before ++ separator :: after ∧ separator ∉ before := by
  refine ⟨eq_of_splitOnce?_eq_some, ?_⟩
  rintro ⟨rfl, absent⟩
  exact splitOnce?_append absent after

/-! ### Leads -/

theorem dropLead?_eq_some_iff {lead : List Char} :
    dropLead? lead text = some rest ↔ text = lead ++ rest := by
  unfold dropLead?
  constructor
  · intro dropped
    split at dropped
    · rename_i starts
      obtain ⟨tail, rfl⟩ := List.isPrefixOf_iff_prefix.mp starts
      simpa using dropped
    · cases dropped
  · rintro rfl
    simp

/-! ### Numerals -/

theorem isDigit_of_mem_decimal {n : Nat} (member : c ∈ decimal n) : c.isDigit = true :=
  Nat.isDigit_of_mem_toDigits (by decide) (by decide) member

theorem toNat_between_of_isDigit (digit : c.isDigit = true) : 48 ≤ c.toNat ∧ c.toNat ≤ 57 := by
  simpa [Char.isDigit, UInt32.le_iff_toNat_le] using digit

theorem not_isBlank_of_isDigit (digit : c.isDigit = true) : isBlank c = false := by
  have bounds := toNat_between_of_isDigit digit
  unfold isBlank
  simp only [Bool.or_eq_false_iff, Bool.and_eq_false_iff, decide_eq_false_iff_not, beq_eq_false_iff_ne]
  omega

theorem decimal_ne_nil (n : Nat) : decimal n ≠ [] := Nat.toDigits_ne_nil

theorem isField_decimal (n : Nat) : IsField (decimal n) :=
  ⟨decimal_ne_nil n, fun _ member => not_isBlank_of_isDigit (isDigit_of_mem_decimal member)⟩

/-- A written 32-bit number reads back. -/
theorem uint32?_decimal (n : UInt32) : uint32? (decimal n.toNat) = some n := by
  have unsigned : ∀ rest, decimal n.toNat ≠ '+' :: rest := fun rest same => by
    have digit := isDigit_of_mem_decimal (c := '+') (n := n.toNat) (by simp [same])
    exact absurd digit (by decide)
  unfold uint32?
  split
  · rename_i rest found
    exact absurd found (unsigned rest)
  · dsimp only
    rw [natural?_decimal]
    dsimp only
    rw [if_pos n.toNat_lt, UInt32.ofNat_toNat]

/-- A number of 32 bits: decimal digits, with a plus sign before them or not. -/
def IsNumeral (text : List Char) : Prop :=
  ∃ digits, (text = digits ∨ text = '+' :: digits) ∧ digits ≠ [] ∧
    (∀ digit ∈ digits, digit.isDigit = true) ∧ Nat.ofDigitChars 10 digits 0 < UInt32.size

theorem natural?_eq_some_iff {value : Nat} :
    natural? text = some value ↔
      text ≠ [] ∧ (∀ digit ∈ text, digit.isDigit = true) ∧ Nat.ofDigitChars 10 text 0 = value := by
  simp [natural?, and_assoc]

/-- What is read as a number of 32 bits. -/
theorem exists_uint32?_iff : (∃ value, uint32? text = some value) ↔ IsNumeral text := by
  have numeral : IsNumeral text ↔ ∃ digits value, (text = digits ∨ text = '+' :: digits) ∧
      natural? digits = some value ∧ value < UInt32.size := by
    simp [IsNumeral, natural?_eq_some_iff, and_assoc]
  -- A plus sign is no digit, so at most one of the two ways to see the digits is open.
  have unsigned : ∀ rest : List Char, natural? ('+' :: rest) = none := fun rest => by
    simp [natural?, show '+'.isDigit = false by decide]
  rw [numeral]
  unfold uint32?
  split
  · rename_i rest
    dsimp only
    cases found : natural? rest <;> simp [unsigned, found]
  · rename_i plain
    have other : ∀ rest, text ≠ '+' :: rest := plain
    dsimp only
    cases found : natural? text <;> simp [other, found]

theorem IsNumeral.notMem (numeral : IsNumeral text) (letter : c.isDigit = false) (noSign : c ≠ '+') :
    c ∉ text := by
  obtain ⟨digits, rfl | rfl, _, each, _⟩ := numeral
  · exact fun member => absurd (each c member) (by simp [letter])
  · intro member
    rcases List.mem_cons.mp member with same | member
    · exact noSign same
    · exact absurd (each c member) (by simp [letter])

end FabricConfig.Text
