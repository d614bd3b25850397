import UsbDescriptors.ClassCounts
import UsbDescriptors.Proofs.OrderedMaps
import Mathlib.Data.List.Perm.Basic

/-!
# Counts of classes

Counts are read by class alone: two classes are the same if their identifiers are, and then their
counts are stored under the same define. Adding changes the count of one class on one side, and
merging takes the greater of two counts for every class. So what merging several counts gives
depends neither on their order nor on the order in which the defines are listed.
-/

namespace UsbDescriptors

namespace ClassCounts

variable {counts others : ClassCounts} {bus : Bus} {className : String}

/-- Counts as they are built up: every define is listed once. -/
def NamesDistinct (counts : ClassCounts) : Prop :=
  ∀ bus, (counts.side bus).keys.Nodup

theorem symbol_eq_iff {first second : String} :
    symbol bus first = symbol bus second ↔ identifier first = identifier second :=
  String.append_right_inj _

theorem get_congr {first second : String} (same : identifier first = identifier second) :
    counts.get bus first = counts.get bus second := by
  rw [get, get, symbol_eq_iff.mpr same]

@[simp]
theorem get_empty : empty.get bus className = 0 := by
  cases bus <;> rfl

theorem namesDistinct_empty : empty.NamesDistinct := by
  intro bus
  cases bus <;> exact List.nodup_nil

theorem side_add_self {number : Nat} :
    (counts.add bus className number).side bus =
      (counts.side bus).insert (symbol bus className) (counts.get bus className + number) := by
  cases bus <;> rfl

theorem side_add_of_ne {other : Bus} {number : Nat} (different : other ≠ bus) :
    (counts.add bus className number).side other = counts.side other := by
  cases bus with
  | device =>
      cases other with
      | device => exact absurd rfl different
      | host => rfl
  | host =>
      cases other with
      | device => rfl
      | host => exact absurd rfl different

theorem NamesDistinct.add {number : Nat} (distinct : counts.NamesDistinct) :
    (counts.add bus className number).NamesDistinct := by
  intro other
  by_cases same : other = bus
  · subst other
    rw [side_add_self]
    exact OrderedMap.nodup_keys_insert (distinct bus)
  · rw [side_add_of_ne same]
    exact distinct other

/-- Adding raises the count of one class on one side. -/
theorem get_add {other : Bus} {otherName : String} {number : Nat} :
    (counts.add bus className number).get other otherName =
      counts.get other otherName +
        if other = bus ∧ identifier otherName = identifier className then number else 0 := by
  by_cases sameBus : other = bus
  · subst other
    by_cases sameClass : identifier otherName = identifier className
    · rw [if_pos ⟨rfl, sameClass⟩, get_congr sameClass, get_congr sameClass, get, side_add_self,
        OrderedMap.get?_insert_self, Option.getD_some]
    · have apart : symbol bus className ≠ symbol bus otherName :=
        fun same => sameClass (symbol_eq_iff.mp same).symm
      rw [if_neg fun both => sameClass both.2, get, side_add_self,
        OrderedMap.get?_insert_of_ne _ _ apart]
      rfl
  · rw [if_neg fun both => sameBus both.1, get, side_add_of_ne sameBus]
    rfl

theorem get?_raise {raised numbers : OrderedMap Nat} (distinct : numbers.keys.Nodup)
    {name : String} :
    ((raise raised numbers).get? name).getD 0 =
      max ((raised.get? name).getD 0) ((numbers.get? name).getD 0) := by
  induction numbers generalizing raised with
  | nil => simp [raise]
  | cons entry rest ih =>
      rcases entry with ⟨first, number⟩
      rcases List.nodup_cons.mp distinct with ⟨absent, restDistinct⟩
      have step := @ih (raised.insert first (max ((raised.get? first).getD 0) number)) restDistinct
      rw [raise, List.foldl_cons]
      refine step.trans ?_
      by_cases same : first = name
      · subst same
        have nothing : OrderedMap.get? rest first = none := OrderedMap.get?_of_not_mem absent
        simp [nothing]
      · rw [OrderedMap.get?_insert_of_ne _ _ same, OrderedMap.get?_cons, if_neg same]

theorem side_mergeMax :
    (counts.mergeMax others).side bus = raise (counts.side bus) (others.side bus) := by
  cases bus <;> rfl

theorem get_mergeMax (distinct : others.NamesDistinct) :
    (counts.mergeMax others).get bus className =
      max (counts.get bus className) (others.get bus className) := by
  rw [get, side_mergeMax, get?_raise (distinct bus)]
  rfl

/-- The counts that a list of counts is merged into, one after the other. -/
def mergeAll (counts : ClassCounts) (merged : List ClassCounts) : ClassCounts :=
  merged.foldl mergeMax counts

theorem mergeAll_append {first second : List ClassCounts} :
    counts.mergeAll (first ++ second) = (counts.mergeAll first).mergeAll second :=
  List.foldl_append

/-- Of merged counts the greatest one is left. -/
theorem get_mergeAll {merged : List ClassCounts}
    (distinct : ∀ others ∈ merged, others.NamesDistinct) :
    (counts.mergeAll merged).get bus className =
      max (counts.get bus className)
        ((merged.map fun others => others.get bus className).foldr max 0) := by
  induction merged generalizing counts with
  | nil => exact (Nat.max_zero _).symm
  | cons others rest ih =>
      have restDistinct : ∀ others ∈ rest, others.NamesDistinct :=
        fun others mem => distinct others (List.mem_cons_of_mem _ mem)
      calc (counts.mergeAll (others :: rest)).get bus className
          = ((counts.mergeMax others).mergeAll rest).get bus className := rfl
        _ = max ((counts.mergeMax others).get bus className)
              ((rest.map fun others => others.get bus className).foldr max 0) := ih restDistinct
        _ = max (max (counts.get bus className) (others.get bus className))
              ((rest.map fun others => others.get bus className).foldr max 0) := by
            rw [get_mergeMax (distinct others List.mem_cons_self)]
        _ = _ := Nat.max_assoc _ _ _

/-- The order in which counts are merged does not matter. -/
theorem get_mergeAll_perm {merged reordered : List ClassCounts} (order : merged.Perm reordered)
    (distinct : ∀ others ∈ merged, others.NamesDistinct) :
    (counts.mergeAll merged).get bus className =
      (counts.mergeAll reordered).get bus className := by
  have reorderedDistinct : ∀ others ∈ reordered, others.NamesDistinct :=
    fun others mem => distinct others (order.mem_iff.mpr mem)
  rw [get_mergeAll distinct, get_mergeAll reorderedDistinct, (order.map _).foldr_op_eq]

end ClassCounts

end UsbDescriptors
