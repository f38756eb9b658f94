import FabricConfig.Proofs.Document.LastEdit
import Mathlib.Data.List.Pairwise
/-!
# Edits in any order

Two lots of edits that set no slot in common may be made in either order, and so may many lots.

* `AreApart`: lots that set no slot in common.
* `AreApart.applyAll_comm`: two of them commute.
* `applyAll_flatMap_perm`: many of them may be made in any order.
-/

namespace FabricConfig

variable {first second : List Edit}

/-- Two edits that set the same slot of the same tile. -/
def Edit.Meets : Edit → Edit → Prop
  | .set tile feature, .set other given => tile = other ∧ feature.slot = given.slot
  | _, _ => False

instance : DecidableRel Edit.Meets := fun edit other => by
  cases edit <;> cases other <;> unfold Edit.Meets <;> infer_instance

theorem Edit.Meets.symm {edit other : Edit} (meets : edit.Meets other) : other.Meets edit := by
  cases edit with
  | create tile => cases meets
  | set tile feature =>
    cases other with
    | create other => cases meets
    | set other given => exact ⟨meets.1.symm, meets.2.symm⟩

/-- Two lots of edits that set no slot in common. -/
def AreApart (first second : List Edit) : Prop :=
  ∀ edit ∈ first, ∀ other ∈ second, ¬edit.Meets other

instance : DecidableRel AreApart := fun first second =>
  inferInstanceAs (Decidable (∀ edit ∈ first, ∀ other ∈ second, ¬edit.Meets other))

theorem AreApart.symm (apart : AreApart first second) : AreApart second first :=
  fun edit inside other within meets => apart other within edit inside meets.symm

/-- Of two such lots, one at most puts something into a slot. -/
theorem AreApart.filterMap_feature? (apart : AreApart first second) (tile : String) (slot : Slot) :
    first.filterMap (·.feature? tile slot) = [] ∨ second.filterMap (·.feature? tile slot) = [] := by
  by_contra some
  rw [not_or] at some
  obtain ⟨feature, put⟩ := List.exists_mem_of_ne_nil _ some.1
  obtain ⟨other, also⟩ := List.exists_mem_of_ne_nil _ some.2
  obtain ⟨inside, own⟩ := mem_filterMap_feature?_iff.mp put
  obtain ⟨within, same⟩ := mem_filterMap_feature?_iff.mp also
  exact apart _ inside _ within ⟨rfl, own.trans same.symm⟩

/-- **Lots that set no slot in common commute.** -/
theorem AreApart.applyAll_comm (apart : AreApart first second) (document : Document) :
    (document.applyAll first).applyAll second = (document.applyAll second).applyAll first := by
  refine Document.ext_feature? ?_ ?_ (fun tile => ?_) fun tile slot => ?_
  · simp only [Document.deviceName_applyAll]
  · simp only [Document.metadata_applyAll]
  · simp only [Document.mem_tiles_applyAll]
    exact or_left_comm
  · simp only [Document.feature?_applyAll]
    rcases apart.filterMap_feature? tile slot with none | none
    · rw [none, List.getLast?_nil, Option.none_or, Option.none_or]
    · rw [none, List.getLast?_nil, Option.none_or, Option.none_or]

/-- **Lots that set no slots in common may be made in any order.** -/
theorem applyAll_flatMap_perm {α : Type} {items others : List α} {lot : α → List Edit}
    (permuted : items.Perm others)
    (apart : items.Pairwise fun item other => AreApart (lot item) (lot other))
    (document : Document) :
    document.applyAll (items.flatMap lot) = document.applyAll (others.flatMap lot) := by
  -- An item that stands at two places commutes with itself, whatever its lot sets.
  have commute : ∀ item ∈ items, ∀ other ∈ items, ∀ document : Document,
      (document.applyAll (lot item)).applyAll (lot other) =
        (document.applyAll (lot other)).applyAll (lot item) := by
    intro item inside other within document
    by_cases same : item = other
    · rw [same]
    · have symmetric : Std.Symm fun item other => AreApart (lot item) (lot other) :=
        ⟨fun _ _ apart => apart.symm⟩
      exact (apart.forall inside within same).applyAll_comm document
  unfold Document.applyAll
  rw [List.foldl_flatMap, List.foldl_flatMap]
  exact permuted.foldl_eq' commute document

end FabricConfig
