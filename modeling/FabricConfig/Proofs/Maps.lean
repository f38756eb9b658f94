import Std.Data.ExtTreeMap
import Std.Data.ExtTreeSet
/-!
# Maps and sets as lists

* `ofList_toList`, `ofItems_toList`: a map and a set are what their lists are put together to.
* `ascending_toList`: a map lists its keys in strictly ascending order.
* `eq_of_mem_iff_of_pairwise`: a list in strict order is known by its members.
-/

namespace FabricConfig

/-- A map is put together again from its entries. -/
theorem ofList_toList {α : Type} (map : Std.ExtTreeMap String α) :
    Std.ExtTreeMap.ofList map.toList = map := by
  refine Std.ExtTreeMap.ext_getElem? fun key => ?_
  cases found : map[key]? with
  | none =>
    refine Std.ExtTreeMap.getElem?_ofList_of_contains_eq_false ?_
    rw [Std.ExtTreeMap.map_fst_toList_eq_keys]
    simpa using found
  | some value =>
    exact Std.ExtTreeMap.getElem?_ofList_of_mem Std.ReflCmp.compare_self
      Std.ExtTreeMap.distinct_keys_toList (Std.ExtTreeMap.mem_toList_iff_getElem?_eq_some.mpr found)

/-- A set is put together again from its items. -/
theorem ofItems_toList {α : Type} [Ord α] [Std.TransOrd α] [Std.LawfulEqOrd α] [BEq α]
    [LawfulBEq α] (set : Std.ExtTreeSet α) : Std.ExtTreeSet.ofList set.toList = set := by
  refine Std.ExtTreeSet.ext_mem fun item => ?_
  rw [Std.ExtTreeSet.mem_ofList, List.contains_iff_mem, Std.ExtTreeSet.mem_toList]

/-- **A map lists its keys in strictly ascending order**, which is that of code points. -/
theorem ascending_toList {α : Type} (map : Std.ExtTreeMap String α) :
    map.toList.Pairwise fun first second => first.1 < second.1 := by
  have ordered : map.toList.Pairwise fun first second => compare first.1 second.1 = .lt :=
    Std.ExtTreeMap.ordered_keys_toList
  exact ordered.imp fun less => compareOfLessAndEq_eq_lt.mp less

/-- **A list in strict order is known by its members.** -/
theorem eq_of_mem_iff_of_pairwise {α : Type} {precedes : α → α → Prop}
    (asymm : ∀ first second, precedes first second → ¬precedes second first)
    {items others : List α} (ordered : items.Pairwise precedes)
    (otherOrdered : others.Pairwise precedes) (same : ∀ item, item ∈ items ↔ item ∈ others) :
    items = others := by
  have different {first second : α} (before : precedes first second) : first ≠ second :=
    fun equal => asymm first second before (equal ▸ equal ▸ before)
  have permuted : items.Perm others := (List.perm_ext_iff_of_nodup
    (ordered.imp different) (otherOrdered.imp different)).mpr same
  exact permuted.eq_of_pairwise
    (fun first second _ _ before after => absurd after (asymm first second before)) ordered
    otherOrdered

end FabricConfig
