/-!
# Blank characters

The characters with the Unicode property `White_Space`, and what reading text does with them:
trimming either end and cutting a line into fields.

* `ne_nil_of_mem_fields`, `not_isBlank_of_mem_fields`: a field is not empty and holds no blank.
-/

namespace FabricConfig.Text

/-- The twenty-five characters with the property `White_Space`. -/
def isBlank (c : Char) : Bool :=
  let n := c.toNat
  (9 ≤ n && n ≤ 13) || n == 0x20 || n == 0x85 || n == 0xA0 || n == 0x1680 ||
    (0x2000 ≤ n && n ≤ 0x200A) || n == 0x2028 || n == 0x2029 || n == 0x202F || n == 0x205F ||
    n == 0x3000

/-! ### Trimming -/

/-- Drops the longest end of `text` whose characters all satisfy `drop`. -/
def dropEndWhile (drop : Char → Bool) (text : List Char) : List Char :=
  (text.reverse.dropWhile drop).reverse

/-- Drops leading blanks. -/
def trimStart (text : List Char) : List Char := text.dropWhile isBlank

/-- Drops trailing blanks. -/
def trimEnd (text : List Char) : List Char := dropEndWhile isBlank text

/-- Drops blanks at both ends. -/
def trim (text : List Char) : List Char := trimEnd (trimStart text)

/-! ### Cutting -/

/-- The longest stretches of `text` without blanks. -/
def fields (text : List Char) : List (List Char) :=
  (text.splitOnP isBlank).filter (!·.isEmpty)

/-- What stands before and after the first `separator`, if there is one. -/
def splitOnce? (separator : Char) (text : List Char) : Option (List Char × List Char) :=
  match text.dropWhile (· != separator) with
  | [] => none
  | _ :: rest => some (text.takeWhile (· != separator), rest)

/-- What follows `lead`, if `text` starts with it. -/
def dropLead? (lead text : List Char) : Option (List Char) :=
  if lead.isPrefixOf text then some (text.drop lead.length) else none

/-- No field is empty. -/
theorem ne_nil_of_mem_fields {text field : List Char} (member : field ∈ fields text) :
    field ≠ [] := by
  have nonempty := (List.mem_filter.mp member).2
  intro empty
  simp [empty] at nonempty

/-- No piece holds a character that was cut at. -/
theorem not_cut_of_mem_splitOnP {cut : Char → Bool} {text piece : List Char}
    (member : piece ∈ text.splitOnP cut) : ∀ c ∈ piece, cut c = false := by
  induction text generalizing piece with
  | nil => simp_all [List.splitOnP_nil]
  | cons c text ih =>
    rw [List.splitOnP_cons_eq_if_modifyHead] at member
    split at member
    · rcases List.mem_cons.mp member with rfl | inside
      · simp
      · exact ih inside
    · rename_i uncut
      obtain ⟨first, rest, pieces⟩ := List.exists_cons_of_ne_nil (List.splitOnP_ne_nil cut text)
      rw [pieces, List.modifyHead_cons] at member
      rcases List.mem_cons.mp member with rfl | inside
      · intro x found
        rcases List.mem_cons.mp found with rfl | found
        · simpa using uncut
        · exact ih (pieces ▸ List.mem_cons_self ..) x found
      · exact ih (pieces ▸ List.mem_cons_of_mem _ inside)

/-- No field holds a blank. -/
theorem not_isBlank_of_mem_fields {text field : List Char} (member : field ∈ fields text) :
    ∀ c ∈ field, isBlank c = false :=
  not_cut_of_mem_splitOnP (List.mem_filter.mp member).1

end FabricConfig.Text
