import FabricConfig.Device.Description
import FabricConfig.Proofs.Project.Job
import FabricConfig.Proofs.Text.Cutting
/-!
# The names of variants

A variant is known by the last part of its name, alone or with the name of its family in front.
Separators may stand anywhere in a name, and letters in either case: two texts have one normal form
exactly if each is a respelling of the other. So a name and its respellings name one variant or
none.

* `normalize_eq_iff_respelled`: what a normal form leaves out.
* `parse_eq_ok_iff_names`, `Names.unique`: the normal forms that name a variant.
* `parse_iff_names_and_respelled`: all of this, and how a text that names none is refused.
-/

namespace FabricConfig

namespace Variant

variable {c d : Char} {text other normal : List Char}

/-! ### Letters -/

/-- The upper case of a letter comes 32 codes before its lower case. -/
theorem toNat_toUpper (c : Char) :
    c.toUpper.toNat = if 97 ≤ c.toNat ∧ c.toNat ≤ 122 then c.toNat - 32 else c.toNat := by
  have lower : ('a'.val ≤ c.val ∧ c.val ≤ 'z'.val) ↔ (97 ≤ c.toNat ∧ c.toNat ≤ 122) := .rfl
  unfold Char.toUpper
  split <;> rename_i letter <;> rw [lower] at letter
  · rw [if_pos letter]
    -- The distance to the upper case is negative, so the sum of the words wraps around.
    have sum : (c.val + ('A'.val - 'a'.val)).toNat = (c.toNat + 4294967264) % 4294967296 :=
      UInt32.toNat_add ..
    exact sum.trans (by omega)
  · rw [if_neg letter]

theorem toNat_toLower (c : Char) :
    c.toLower.toNat = if 65 ≤ c.toNat ∧ c.toNat ≤ 90 then c.toNat + 32 else c.toNat := by
  have upper : (c.val ≥ 'A'.val ∧ c.val ≤ 'Z'.val) ↔ (65 ≤ c.toNat ∧ c.toNat ≤ 90) := .rfl
  unfold Char.toLower
  split <;> rename_i letter <;> rw [upper] at letter
  · rw [if_pos letter]
    have sum : (c.val + ('a'.val - 'A'.val)).toNat = (c.toNat + 32) % 4294967296 :=
      UInt32.toNat_add ..
    exact sum.trans (by omega)
  · rw [if_neg letter]

/-- Characters have one upper case if they differ in their case only. -/
theorem toUpper_eq_toUpper_iff : c.toUpper = d.toUpper ↔ d = c.toUpper ∨ d = c.toLower := by
  simp only [← Char.toNat_inj, toNat_toUpper, toNat_toLower]
  grind

/-! ### Spellings -/

/-- A character that a name may be broken up with. -/
def IsSeparator (c : Char) : Prop := c = '-' ∨ c = '_'

instance (c : Char) : Decidable (IsSeparator c) := inferInstanceAs (Decidable (_ ∨ _))

/-- Separators are put in or taken out anywhere, and letters of ASCII are changed from one case to
the other. -/
inductive Respelled : List Char → List Char → Prop
  | nil : Respelled [] []
  | kept {c : Char} {text other : List Char} (rest : Respelled text other) :
      Respelled (c :: text) (c :: other)
  | raised {c : Char} {text other : List Char} (rest : Respelled text other) :
      Respelled (c :: text) (c.toUpper :: other)
  | lowered {c : Char} {text other : List Char} (rest : Respelled text other) :
      Respelled (c :: text) (c.toLower :: other)
  | inserted {c : Char} {text other : List Char} (separator : IsSeparator c)
      (rest : Respelled text other) : Respelled text (c :: other)
  | removed {c : Char} {text other : List Char} (separator : IsSeparator c)
      (rest : Respelled text other) : Respelled (c :: text) other

/-- The normal form of a list of characters. -/
def compact (text : List Char) : List Char :=
  (text.filter fun c => c != '-' && c != '_').map Char.toUpper

theorem compact_cons_of_isSeparator (separator : IsSeparator c) :
    compact (c :: text) = compact text := by
  rcases separator with rfl | rfl <;> rfl

theorem compact_cons_of_not_isSeparator (solid : ¬IsSeparator c) :
    compact (c :: text) = c.toUpper :: compact text := by
  have passes : (c != '-' && c != '_') = true := by
    rw [Bool.and_eq_true, bne_iff_ne, bne_iff_ne]
    exact not_or.mp solid
  rw [compact, List.filter_cons, if_pos passes, List.map_cons, compact]

/-- A separator has no case. -/
theorem isSeparator_toUpper_iff : IsSeparator c.toUpper ↔ IsSeparator c := by
  have coded (d : Char) : IsSeparator d ↔ d.toNat = 45 ∨ d.toNat = 95 :=
    or_congr Char.toNat_inj.symm Char.toNat_inj.symm
  rw [coded, coded, toNat_toUpper]
  split <;> omega

/-- A letter counts alike in both of its cases. -/
theorem compact_cons_congr (same : c.toUpper = d.toUpper) (rest : compact text = compact other) :
    compact (c :: text) = compact (d :: other) := by
  have alike : IsSeparator c ↔ IsSeparator d := by
    rw [← isSeparator_toUpper_iff, same, isSeparator_toUpper_iff]
  by_cases separator : IsSeparator c
  · rw [compact_cons_of_isSeparator separator, compact_cons_of_isSeparator (alike.mp separator),
      rest]
  · rw [compact_cons_of_not_isSeparator separator,
      compact_cons_of_not_isSeparator (mt alike.mpr separator), same, rest]

theorem Respelled.compact_eq (respelled : Respelled text other) : compact text = compact other := by
  induction respelled with
  | nil => rfl
  | kept _ ih => exact compact_cons_congr rfl ih
  | raised _ ih => exact compact_cons_congr (toUpper_eq_toUpper_iff.mpr (.inl rfl)) ih
  | lowered _ ih => exact compact_cons_congr (toUpper_eq_toUpper_iff.mpr (.inr rfl)) ih
  | inserted separator _ ih => rw [compact_cons_of_isSeparator separator, ih]
  | removed separator _ ih => rw [compact_cons_of_isSeparator separator, ih]

theorem respelled_of_compact_eq (same : compact text = compact other) : Respelled text other := by
  induction text generalizing other with
  | nil =>
    induction other with
    | nil => exact .nil
    | cons d other ih =>
      by_cases separator : IsSeparator d
      · rw [compact_cons_of_isSeparator separator] at same
        exact .inserted separator (ih same)
      · rw [compact_cons_of_not_isSeparator separator] at same
        cases same
  | cons c text ih =>
    by_cases separator : IsSeparator c
    · rw [compact_cons_of_isSeparator separator] at same
      exact .removed separator (ih same)
    · rw [compact_cons_of_not_isSeparator separator] at same
      -- In the other text, separators may stand in front of the letter.
      induction other with
      | nil => cases same
      | cons d other inner =>
        by_cases between : IsSeparator d
        · rw [compact_cons_of_isSeparator between] at same
          exact .inserted between (inner same)
        · rw [compact_cons_of_not_isSeparator between] at same
          obtain ⟨letter, rest⟩ := List.cons.inj same
          rcases toUpper_eq_toUpper_iff.mp letter with rfl | rfl
          · exact .raised (ih rest)
          · exact .lowered (ih rest)

/-- **Two texts have one normal form exactly if each is a respelling of the other.** -/
theorem normalize_eq_iff_respelled {text other : String} :
    normalize text = normalize other ↔ Respelled text.toList other.toList :=
  ⟨respelled_of_compact_eq, Respelled.compact_eq⟩

/-! ### Names -/

/-- A normal form names a variant. It is what follows the family in the variant's name, or the
family and that. -/
def Names (variant : Variant) (normal : List Char) : Prop :=
  ∃ short : String, variant.name = "LCMXO2-" ++ short ∧
    (normal = short.toList ∨ normal = "LCMXO2".toList ++ short.toList)

variable {variant first second : Variant}

theorem names_iff : variant.Names normal ↔
    normal = variant.shortName.toList ∨ normal = "LCMXO2".toList ++ variant.shortName.toList := by
  constructor
  · rintro ⟨short, named, normal⟩
    obtain rfl := (String.append_right_inj _).mp named
    exact normal
  · exact fun normal => ⟨variant.shortName, rfl, normal⟩

/-- A short name starts with a digit, and the family does not. -/
theorem family_append_ne (variant : Variant) (rest : List Char) :
    "LCMXO2".toList ++ rest ≠ variant.shortName.toList := by
  cases variant <;> simp [shortName]

theorem shortName_injective : Function.Injective shortName := by
  intro first second same
  cases first <;> cases second <;> first | rfl | simp [shortName] at same

/-- **A normal form names one variant at most.** -/
theorem Names.unique (isFirst : first.Names normal) (isSecond : second.Names normal) :
    first = second := by
  rw [names_iff] at isFirst isSecond
  rcases isFirst with rfl | rfl <;> rcases isSecond with same | same
  · exact shortName_injective (String.toList_injective same)
  · exact absurd same.symm (family_append_ne first _)
  · exact absurd same (family_append_ne second _)
  · exact shortName_injective (String.toList_injective (List.append_cancel_left same))

theorem find?_shortName_iff :
    (all.find? fun variant => variant.shortName.toList = normal) = some variant ↔
      normal = variant.shortName.toList := by
  constructor
  · intro found
    have same := List.find?_some (p := fun variant : Variant => variant.shortName.toList = normal)
      found
    exact (of_decide_eq_true same).symm
  · rintro rfl
    cases variant <;> rfl

/-- Which variant a text names, and whether it names one, is a matter of its normal form. -/
theorem toOption_parse (text : String) :
    (parse text).toOption = all.find? fun variant => variant.shortName.toList =
      (Text.dropLead? "LCMXO2".toList (normalize text)).getD (normalize text) := by
  simp only [parse]
  split <;> rename_i found <;> exact found.symm

/-- **A text names a variant exactly if its normal form does.** -/
theorem parse_eq_ok_iff_names {text : String} :
    parse text = .ok variant ↔ variant.Names (normalize text) := by
  have named : parse text = .ok variant ↔ (parse text).toOption = some variant := by
    cases parse text <;> simp [Except.toOption]
  rw [named, toOption_parse, find?_shortName_iff, names_iff]
  cases dropped : Text.dropLead? "LCMXO2".toList (normalize text) with
  | none =>
    have bare : normalize text ≠ "LCMXO2".toList ++ variant.shortName.toList := fun same => by
      rw [Text.dropLead?_eq_some_iff.mpr same] at dropped
      cases dropped
    rw [Option.getD_none, or_iff_left bare]
  | some rest =>
    rw [Text.dropLead?_eq_some_iff.mp dropped, Option.getD_some, List.append_cancel_left_eq,
      or_iff_right (family_append_ne variant rest)]

/-! ### Unknown names -/

/-- **A text that names no variant is refused with the text as it was given.** -/
theorem parse_eq_error_iff {text : String} {unknown : UnknownVariant} :
    parse text = .error unknown ↔
      (∀ variant : Variant, ¬variant.Names (normalize text)) ∧ unknown = ⟨text⟩ := by
  simp only [← parse_eq_ok_iff_names]
  constructor
  · intro refused
    refine ⟨fun variant named => ?_, eq_of_parse_eq_error refused⟩
    rw [refused] at named
    cases named
  · rintro ⟨nameless, rfl⟩
    cases parsed : parse text with
    | ok variant => exact absurd parsed (nameless variant)
    | error unknown => rw [eq_of_parse_eq_error parsed]

/-- A description of an unknown variant is refused before anything else in it is looked at. -/
theorem ofDescription_eq_unknownVariant {description : Description} {unknown : UnknownVariant}
    (refused : parse description.variant = .error unknown) :
    Database.ofDescription description = .error (.unknownVariant unknown) := by
  rw [Database.ofDescription, refused]

/-- **A variant is known by its name, however it is spelled.** For every text:

* it names a variant exactly if its normal form does, which is for one variant at most;
* if it names none, it is refused as it was given, and so it is by both readers of names;
* separators and the case of letters make no difference to which variant it names, if any. -/
theorem parse_iff_names_and_respelled (text : String) :
    (∀ variant : Variant, parse text = .ok variant ↔ variant.Names (normalize text)) ∧
    (∀ (first second : Variant) (normal : List Char),
      first.Names normal → second.Names normal → first = second) ∧
    ((∀ variant : Variant, ¬variant.Names (normalize text)) →
      parse text = .error ⟨text⟩ ∧
      Settings.checkVariant (some text) = .error (.unknownDevice text) ∧
      ∀ description : Description, description.variant = text →
        Database.ofDescription description = .error (.unknownVariant ⟨text⟩)) ∧
    ∀ other : String, Respelled text.toList other.toList →
      (parse other).toOption = (parse text).toOption := by
  refine ⟨fun variant => parse_eq_ok_iff_names, fun _ _ _ => Names.unique, fun nameless => ?_,
    fun other respelled => ?_⟩
  · have refused := parse_eq_error_iff.mpr ⟨nameless, rfl⟩
    refine ⟨refused, Settings.checkVariant_eq_error_iff.mpr ⟨text, rfl, refused, rfl⟩, ?_⟩
    rintro description rfl
    exact ofDescription_eq_unknownVariant refused
  · have normal := normalize_eq_iff_respelled.mpr respelled
    rw [toOption_parse, toOption_parse, normal]

/-- The name of another family is unknown in all of its spellings. -/
theorem refuses_otherFamily :
    (∀ variant : Variant, ¬variant.Names (normalize "LFE5U-25F")) ∧
      Settings.checkVariant (some "LFE5U-25F") = .error (.unknownDevice "LFE5U-25F") ∧
      Respelled "LFE5U-25F".toList "lfe5U_2-5F".toList ∧
      (parse "lfe5U_2-5F").toOption = none := by
  have nameless : ∀ variant : Variant, ¬variant.Names (normalize "LFE5U-25F") := fun variant => by
    rw [names_iff]
    cases variant <;> decide
  have respelled : Respelled "LFE5U-25F".toList "lfe5U_2-5F".toList :=
    normalize_eq_iff_respelled.mp (by decide)
  obtain ⟨_, _, refused, alike⟩ := parse_iff_names_and_respelled "LFE5U-25F"
  obtain ⟨unknown, check, _⟩ := refused nameless
  refine ⟨nameless, check, respelled, (alike _ respelled).trans ?_⟩
  rw [unknown]
  rfl

/-- The family stands in front once at most. -/
example : parse "lcmxo2_12-00hC" = .ok .hc1200 ∧
    parse "LCMXO2-LCMXO2-1200HC" = .error ⟨"LCMXO2-LCMXO2-1200HC"⟩ := by
  decide

end Variant

end FabricConfig
