import FabricConfig.Generation.WireName
import FabricConfig.Proofs.Text.Cutting
/-!
# Reading wire names

What a relative name says of a wire. The distances in front hold no underscore, so the first
underscore of the name ends them, whatever the wire's own name is; and of the letters and digits
before it each distance takes its own.

* `IsLeg`, `Tells`: the form of a distance and of a relative name.
* `IsLeg.readLeg_append`: a distance is read from its text.
* `IsRemote.tells`, `Tells.unique`: a relative name tells of its wire, and of no other.
* `relativeName_congr`: only the distances count.
-/

namespace FabricConfig

variable {forward backward : Char} {origin target : Location} {base : String}

/-! ### Distances -/

theorem distanceText_eq (forward backward : Char) (origin target : UInt32) :
    distanceText forward backward origin target =
      if origin.toNat < target.toNat then
        forward :: Text.decimal (target.toNat - origin.toNat)
      else if target.toNat < origin.toNat then
        backward :: Text.decimal (origin.toNat - target.toNat)
      else [] := by
  unfold distanceText
  simp only [UInt32.lt_iff_toNat_lt]
  by_cases ahead : origin.toNat < target.toNat
  · rw [if_pos ahead, if_pos ahead,
      UInt32.toNat_sub_of_le _ _ (UInt32.le_iff_toNat_le.mpr (Nat.le_of_lt ahead))]
  · rw [if_neg ahead, if_neg ahead]
    by_cases behind : target.toNat < origin.toNat
    · rw [if_pos behind, if_pos behind,
        UInt32.toNat_sub_of_le _ _ (UInt32.le_iff_toNat_le.mpr (Nat.le_of_lt behind))]
    · rw [if_neg behind, if_neg behind]

/-- How a distance is written: not at all if it is zero, and else as a letter for its direction and
its length in decimal digits. -/
inductive IsLeg (forward backward : Char) : Int → List Char → Prop
  | none : IsLeg forward backward 0 []
  | ahead {length : Nat} (positive : 0 < length) :
      IsLeg forward backward length (forward :: Text.decimal length)
  | behind {length : Nat} (positive : 0 < length) :
      IsLeg forward backward (-length) (backward :: Text.decimal length)

theorem isLeg_distanceText (forward backward : Char) (origin target : UInt32) :
    IsLeg forward backward (target.toNat - origin.toNat : Int)
      (distanceText forward backward origin target) := by
  rw [distanceText_eq]
  by_cases ahead : origin.toNat < target.toNat
  · rw [if_pos ahead, ← Int.ofNat_sub (Nat.le_of_lt ahead)]
    exact .ahead (Nat.sub_pos_of_lt ahead)
  · rw [if_neg ahead]
    by_cases behind : target.toNat < origin.toNat
    · rw [if_pos behind, ← Int.neg_sub, ← Int.ofNat_sub (Nat.le_of_lt behind)]
      exact .behind (Nat.sub_pos_of_lt behind)
    · rw [if_neg behind, Nat.le_antisymm (Nat.le_of_not_lt ahead) (Nat.le_of_not_lt behind),
        Int.sub_self]
      exact .none

/-- Only how far two coordinates are apart is written. -/
theorem distanceText_congr {first second origin target : UInt32}
    (same : (second.toNat - first.toNat : Int) = target.toNat - origin.toNat) :
    distanceText forward backward first second = distanceText forward backward origin target := by
  have ahead : second.toNat - first.toNat = target.toNat - origin.toNat := by omega
  have behind : first.toNat - second.toNat = origin.toNat - target.toNat := by omega
  rw [distanceText_eq, distanceText_eq, ahead, behind]
  exact if_congr (by omega) rfl (if_congr (by omega) rfl rfl)

/-- The distance that a text starts with, and the rest of the text. -/
def readLeg (forward backward : Char) : List Char → Int × List Char
  | [] => (0, [])
  | c :: text =>
    let length := Nat.ofDigitChars 10 (text.takeWhile Char.isDigit) 0
    let rest := text.dropWhile Char.isDigit
    if c = forward then (length, rest)
    else if c = backward then (-length, rest)
    else (0, c :: text)

/-- **A distance is read from its text**, if what follows starts with neither letter nor digit. -/
theorem IsLeg.readLeg_append {distance : Int} {text rest : List Char} (apart : forward ≠ backward)
    (leg : IsLeg forward backward distance text)
    (stops : ∀ c ∈ rest.head?, c ≠ forward ∧ c ≠ backward ∧ c.isDigit = false) :
    readLeg forward backward (text ++ rest) = (distance, rest) := by
  have digits (n : Nat) : ∀ c ∈ Text.decimal n, c.isDigit = true :=
    fun _ => Text.isDigit_of_mem_decimal
  have ends : ∀ c ∈ rest.head?, c.isDigit = false := fun c first => (stops c first).2.2
  have length (n : Nat) :
      Nat.ofDigitChars 10 ((Text.decimal n ++ rest).takeWhile Char.isDigit) 0 = n := by
    rw [Text.takeWhile_append_eq (digits n) ends]
    exact Nat.ofDigitChars_ten_toDigits
  have left (n : Nat) : (Text.decimal n ++ rest).dropWhile Char.isDigit = rest :=
    Text.dropWhile_append_eq (digits n) ends
  cases leg with
  | none =>
    cases rest with
    | nil => rfl
    | cons c rest =>
      obtain ⟨notForward, notBackward, _⟩ := stops c rfl
      rw [List.nil_append, readLeg, if_neg notForward, if_neg notBackward]
  | ahead positive => rw [List.cons_append, readLeg, if_pos rfl, length, left]
  | behind positive => rw [List.cons_append, readLeg, if_neg apart.symm, if_pos rfl, length, left]

theorem IsLeg.mem {distance : Int} {text : List Char} (leg : IsLeg forward backward distance text)
    {c : Char} (member : c ∈ text) : c = forward ∨ c = backward ∨ c.isDigit = true := by
  cases leg with
  | none => cases member
  | ahead positive =>
    rcases List.mem_cons.mp member with letter | digit
    · exact .inl letter
    · exact .inr (.inr (Text.isDigit_of_mem_decimal digit))
  | behind positive =>
    rcases List.mem_cons.mp member with letter | digit
    · exact .inr (.inl letter)
    · exact .inr (.inr (Text.isDigit_of_mem_decimal digit))

theorem IsLeg.head?_eq {distance : Int} {text : List Char}
    (leg : IsLeg forward backward distance text) {c : Char} (first : c ∈ text.head?) :
    c = forward ∨ c = backward := by
  cases leg with
  | none => cases first
  | ahead positive => exact .inl (Option.some.inj first).symm
  | behind positive => exact .inr (Option.some.inj first).symm

/-- Both distances are read from what stands before the underscore. -/
theorem readLeg_front {rows cols : Int} {vertical horizontal : List Char}
    (rowLeg : IsLeg 'N' 'S' rows vertical) (colLeg : IsLeg 'E' 'W' cols horizontal) :
    readLeg 'N' 'S' (vertical ++ horizontal) = (rows, horizontal) ∧
      readLeg 'E' 'W' horizontal = (cols, []) := by
  have last : readLeg 'E' 'W' (horizontal ++ []) = (cols, []) :=
    colLeg.readLeg_append (by decide) nofun
  rw [List.append_nil] at last
  refine ⟨rowLeg.readLeg_append (by decide) fun c first => ?_, last⟩
  rcases colLeg.head?_eq first with rfl | rfl
  · decide
  · decide

/-! ### Relative names -/

/-- One location is some rows to the north and columns to the east of another. -/
structure Location.IsMoved (origin : Location) (rows cols : Int) (target : Location) : Prop where
  row : (target.row.toNat : Int) = origin.row.toNat + rows
  col : (target.col.toNat : Int) = origin.col.toNat + cols

theorem Location.eq_iff {first second : Location} :
    first = second ↔ first.row.toNat = second.row.toNat ∧ first.col.toNat = second.col.toNat := by
  rcases first with ⟨row, col⟩
  rcases second with ⟨row', col'⟩
  rw [Location.mk.injEq, UInt32.toNat_inj, UInt32.toNat_inj]

theorem Location.IsMoved.unique {rows cols : Int} {other : Location}
    (first : origin.IsMoved rows cols target) (second : origin.IsMoved rows cols other) :
    target = other :=
  Location.eq_iff.mpr ⟨Int.ofNat.inj (first.row.trans second.row.symm),
    Int.ofNat.inj (first.col.trans second.col.symm)⟩

/-- A name tells of the wire `base` at `target`: up to its first underscore it holds the distances
to the north or south and to the east or west, not both zero, and from there on the wire's name. -/
def Tells (origin : Location) (name : String) (target : Location) (base : String) : Prop :=
  ∃ rows cols vertical horizontal,
    name.toList = vertical ++ horizontal ++ '_' :: base.toList ∧ '_' ∉ vertical ++ horizontal ∧
    IsLeg 'N' 'S' rows vertical ∧ IsLeg 'E' 'W' cols horizontal ∧ (rows ≠ 0 ∨ cols ≠ 0) ∧
    origin.IsMoved rows cols target

/-- A wire that is named by its distance: it is not global, and not at the origin. -/
structure IsRemote (origin target : Location) (base : String) : Prop where
  relative : isGlobalName base = false
  apart : target ≠ origin

/-- **A relative name tells of its wire.** -/
theorem IsRemote.tells (remote : IsRemote origin target base) :
    Tells origin (relativeName origin target base) target base := by
  obtain ⟨relative, apart⟩ := remote
  have vertical := isLeg_distanceText 'N' 'S' origin.row target.row
  have horizontal := isLeg_distanceText 'E' 'W' origin.col target.col
  refine ⟨_, _, _, _, ?_, ?_, vertical, horizontal, ?_, ⟨by omega, by omega⟩⟩
  · rw [relativeName, if_neg (by simp [relative, apart]), String.toList_ofList]
  · intro member
    rcases List.mem_append.mp member with inside | inside
    · exact absurd (vertical.mem inside) (by decide)
    · exact absurd (horizontal.mem inside) (by decide)
  · rw [Ne, Location.eq_iff] at apart
    omega

/-- **No name tells of two wires.** -/
theorem Tells.unique {name : String} {first second : Location} {base other : String}
    (tells : Tells origin name first base) (also : Tells origin name second other) :
    first = second ∧ base = other := by
  obtain ⟨rows, cols, vertical, horizontal, whole, solid, rowLeg, colLeg, _, moved⟩ := tells
  obtain ⟨_, _, _, _, whole', solid', rowLeg', colLeg', _, moved'⟩ := also
  -- The first underscore is where both cut the name, as no distance holds one.
  have cut := Text.splitOnce?_append solid base.toList
  rw [← whole, whole', Text.splitOnce?_append solid'] at cut
  obtain ⟨front, same⟩ := Prod.mk.inj (Option.some.inj cut)
  obtain ⟨rowRead, colRead⟩ := readLeg_front rowLeg colLeg
  obtain ⟨rowRead', colRead'⟩ := readLeg_front rowLeg' colLeg'
  rw [front, rowRead] at rowRead'
  obtain ⟨rfl, rfl⟩ := Prod.mk.inj rowRead'
  rw [colRead] at colRead'
  obtain ⟨rfl, _⟩ := Prod.mk.inj colRead'
  exact ⟨moved.unique moved', String.toList_inj.mp same.symm⟩

/-- A global wire has the same name everywhere. -/
theorem relativeName_of_isGlobalName (isGlobal : isGlobalName base = true) :
    relativeName origin target base = base := by
  rw [relativeName, isGlobal, Bool.true_or, if_pos rfl]

theorem isGlobalName_of_direction {name : String} {c : Char} {text : List Char}
    (written : name.toList = c :: text) (direction : c ∈ ['N', 'S', 'E', 'W']) :
    isGlobalName name = false := by
  have leads : ∀ lead ∈ globalLeads,
      lead.toList.head?.any (['N', 'S', 'E', 'W'].contains ·) = false := by decide
  have some : ∀ lead ∈ globalLeads, lead.toList ≠ [] := by decide
  rw [isGlobalName, List.any_eq_false]
  intro lead listed starts
  obtain ⟨rest, same⟩ := List.isPrefixOf_iff_prefix.mp starts
  obtain ⟨d, others, lettered⟩ := List.exists_cons_of_ne_nil (some lead listed)
  rw [lettered, written] at same
  obtain ⟨rfl, _⟩ := List.cons.inj same
  have outside := leads lead listed
  rw [lettered, List.head?_cons, Option.any_some, List.contains_iff_mem.mpr direction] at outside
  cases outside

/-- **A name that tells of a wire is not global**, as it starts with a direction. -/
theorem Tells.isGlobalName_eq {name : String} (tells : Tells origin name target base) :
    isGlobalName name = false := by
  obtain ⟨rows, cols, _, _, whole, _, rowLeg, colLeg, apart, _⟩ := tells
  cases rowLeg with
  | ahead positive => exact isGlobalName_of_direction whole (by decide)
  | behind positive => exact isGlobalName_of_direction whole (by decide)
  | none =>
    cases colLeg with
    | none => simp at apart
    | ahead positive => exact isGlobalName_of_direction whole (by decide)
    | behind positive => exact isGlobalName_of_direction whole (by decide)

/-- **Only how far wire and origin are apart is in a name.** -/
theorem relativeName_congr {rows cols : Int} {shifted moved : Location} (base : String)
    (originMoved : origin.IsMoved rows cols shifted) (targetMoved : target.IsMoved rows cols moved) :
    relativeName shifted moved base = relativeName origin target base := by
  obtain ⟨originRow, originCol⟩ := originMoved
  obtain ⟨targetRow, targetCol⟩ := targetMoved
  have here : moved = shifted ↔ target = origin := by
    rw [Location.eq_iff, Location.eq_iff]
    omega
  have rows : distanceText 'N' 'S' shifted.row moved.row =
      distanceText 'N' 'S' origin.row target.row := distanceText_congr (by omega)
  have cols : distanceText 'E' 'W' shifted.col moved.col =
      distanceText 'E' 'W' origin.col target.col := distanceText_congr (by omega)
  rw [relativeName, relativeName, rows, cols]
  simp only [here]

/-- **Relative names can be read back.** Such a name tells of its wire and of no other, is the name
of no global wire, and stays when both locations are moved alike. -/
theorem relativeName_tells_only (origin : Location) :
    (∀ target base, IsRemote origin target base →
        Tells origin (relativeName origin target base) target base) ∧
      (∀ name first base second other, Tells origin name first base →
        Tells origin name second other → first = second ∧ base = other) ∧
      (∀ first base second other, IsRemote origin first base → IsRemote origin second other →
        relativeName origin first base = relativeName origin second other →
        first = second ∧ base = other) ∧
      (∀ target base place wire other, IsRemote origin target base → isGlobalName other = true →
        relativeName origin target base ≠ relativeName place wire other) ∧
      ∀ target base rows cols shifted moved, origin.IsMoved rows cols shifted →
        target.IsMoved rows cols moved →
        relativeName shifted moved base = relativeName origin target base := by
  refine ⟨fun _ _ => IsRemote.tells, fun _ _ _ _ _ => Tells.unique, ?_, ?_,
    fun _ base _ _ _ _ => relativeName_congr base⟩
  · intro first base second other remote also same
    have tells := remote.tells
    rw [same] at tells
    exact tells.unique also.tells
  · intro target base place wire other remote isGlobal same
    have relative := remote.tells.isGlobalName_eq
    rw [same, relativeName_of_isGlobalName isGlobal, isGlobal] at relative
    cases relative

/-- From one corner of the range of coordinates to another, with a base that is like a name. -/
theorem tells_only_corners :
    let origin : Location := ⟨0, 7⟩
    let corner : Location := ⟨4294967295, 0⟩
    Tells origin "N4294967295W7_E1_x" corner "E1_x" ∧
      (∀ target base, Tells origin "N4294967295W7_E1_x" target base →
        corner = target ∧ "E1_x" = base) ∧
      (∀ base, isGlobalName base = false →
        relativeName origin corner "E1_x" = relativeName origin corner base → "E1_x" = base) ∧
      relativeName origin corner "E1_x" ≠ relativeName corner origin "G_HPBX0000" ∧
      relativeName ⟨0, 8⟩ ⟨4294967295, 1⟩ "E1_x" = "N4294967295W7_E1_x" := by
  intro origin corner
  have remote : IsRemote origin corner "E1_x" := ⟨by decide, by decide⟩
  have written : relativeName origin corner "E1_x" = "N4294967295W7_E1_x" := by decide +kernel
  obtain ⟨tells, unique, injective, other, shift⟩ := relativeName_tells_only origin
  have told := tells corner "E1_x" remote
  rw [written] at told
  refine ⟨told, fun target base => unique _ _ _ _ _ told, fun base relative same => ?_,
    other _ _ _ _ _ remote (by decide), ?_⟩
  · exact (injective _ _ _ _ remote ⟨relative, remote.apart⟩ same).2
  · exact (shift corner "E1_x" 0 1 ⟨0, 8⟩ ⟨4294967295, 1⟩ ⟨rfl, rfl⟩ ⟨rfl, rfl⟩).trans written

end FabricConfig
