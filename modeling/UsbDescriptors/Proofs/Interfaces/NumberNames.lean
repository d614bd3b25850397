import UsbDescriptors.Interface.Resolved
import Mathlib.Data.List.Nodup
import Mathlib.Data.List.Pairwise

/-!
# Names of interface numbers

The first number of an interface is named after its tag alone, every other one with its position
behind an underscore. Positions are written in digits, so the last underscore of such a name shows
where the tag ends; the names of two interfaces agree only if the tag of one looks like a later
number of the other.
-/

namespace UsbDescriptors

/-- What stands behind the common prefix in the symbol of an interface number. -/
def numberName (tag : String) (index : Nat) : String :=
  if index = 0 then identifier tag else identifier tag ++ "_" ++ toString index

/-- A list is split at the last place of a separator in one way only. -/
theorem split_at_last {separator : Char} {left right ending other : List Char}
    (noneLeft : separator ∉ ending) (noneRight : separator ∉ other)
    (same : left ++ separator :: ending = right ++ separator :: other) :
    left = right ∧ ending = other := by
  rcases List.append_eq_append_iff.mp same with ⟨middle, rfl, rest⟩ | ⟨middle, rfl, rest⟩
  · cases middle with
    | nil => exact ⟨(List.append_nil _).symm, (List.cons.inj rest).2⟩
    | cons first middle =>
        have inside : ending = middle ++ separator :: other := (List.cons.inj rest).2
        exact absurd (inside ▸ List.mem_append_right _ List.mem_cons_self) noneLeft
  · cases middle with
    | nil => exact ⟨List.append_nil _, (List.cons.inj rest).2.symm⟩
    | cons first middle =>
        have inside : other = middle ++ separator :: ending := (List.cons.inj rest).2
        exact absurd (inside ▸ List.mem_append_right _ List.mem_cons_self) noneRight

theorem indexed_inj {left right : String} {index position : Nat}
    (same : left ++ "_" ++ toString index = right ++ "_" ++ toString position) :
    left = right ∧ index = position := by
  have underscore : "_".toList = ['_'] := rfl
  have characters := congrArg String.toList same
  simp only [String.toList_append, List.append_assoc, underscore, List.singleton_append,
    Nat.toString_eq_repr, Nat.toList_repr] at characters
  rcases split_at_last Nat.underscore_not_in_toDigits Nat.underscore_not_in_toDigits
    characters with ⟨fronts, digits⟩
  have numbers := congrArg (fun written => Nat.ofDigitChars 10 written 0) digits
  simp only [Nat.ofDigitChars_ten_toDigits] at numbers
  exact ⟨String.toList_injective fronts, numbers⟩

theorem ne_indexed (left : String) (index : Nat) : left ≠ left ++ "_" ++ toString index := by
  intro same
  have lengths := congrArg String.length same
  simp only [String.length_append, show "_".length = 1 by rfl] at lengths
  omega

/-- Two names of interface numbers that agree belong to the same position of the same identifier,
unless one of the tags looks like a later number of the other. -/
theorem numberName_eq {tag other : String} {index position : Nat}
    (same : numberName tag index = numberName other position) :
    (identifier tag = identifier other ∧ index = position) ∨
      (0 < position ∧ identifier tag = identifier other ++ "_" ++ toString position) ∨
      (0 < index ∧ identifier other = identifier tag ++ "_" ++ toString index) := by
  by_cases first : index = 0
  · by_cases otherFirst : position = 0
    · simp only [numberName, first, otherFirst, if_true] at same
      exact Or.inl ⟨same, first.trans otherFirst.symm⟩
    -- Only the name of a first number can be spelled like that of a later one.
    · simp only [numberName, first, otherFirst, if_true, if_false] at same
      exact Or.inr (Or.inl ⟨Nat.pos_of_ne_zero otherFirst, same⟩)
  · by_cases otherFirst : position = 0
    · simp only [numberName, first, otherFirst, if_true, if_false] at same
      exact Or.inr (Or.inr ⟨Nat.pos_of_ne_zero first, same.symm⟩)
    · simp only [numberName, first, otherFirst, if_false] at same
      exact Or.inl (indexed_inj same)

theorem numberName_inj {tag : String} {index position : Nat}
    (same : numberName tag index = numberName tag position) : index = position := by
  rcases numberName_eq same with ⟨-, equal⟩ | ⟨-, longer⟩ | ⟨-, longer⟩
  · exact equal
  · exact absurd longer (ne_indexed _ _)
  · exact absurd longer (ne_indexed _ _)

/-- How many interface numbers an interface takes. -/
def Interface.numberCount (interface : Interface) (catalog : Catalog) : Nat :=
  max (((catalog.templates.get? interface.template).map Template.interfaces).getD 0) 1

def Interface.numberNames (interface : Interface) (catalog : Catalog) (tag : String) :
    List String :=
  (List.range (interface.numberCount catalog)).map (numberName tag)

theorem Interface.mem_numberNames_iff {interface : Interface} {catalog : Catalog}
    {tag name : String} : name ∈ interface.numberNames catalog tag ↔
      ∃ index < interface.numberCount catalog, numberName tag index = name := by
  simp [numberNames]

/-- No tag of an interface looks like a later number of another interface. -/
def InterfacesApart (catalog : Catalog) (interfaces : List (String × Interface)) : Prop :=
  ∀ first ∈ interfaces, ∀ second ∈ interfaces, ∀ index, 0 < index →
    index < first.2.numberCount catalog →
      identifier second.1 ≠ identifier first.1 ++ "_" ++ toString index

/-- Interfaces whose tags have distinct identifiers have distinct names of interface numbers if and
only if no tag looks like a later number. -/
theorem nodup_numberNames_iff {catalog : Catalog} {interfaces : List (String × Interface)}
    (distinct : (interfaces.map fun entry => identifier entry.1).Nodup) :
    (interfaces.flatMap fun entry => entry.2.numberNames catalog entry.1).Nodup ↔
      InterfacesApart catalog interfaces := by
  rw [List.nodup_flatMap]
  constructor
  · rintro ⟨-, disjoint⟩ first firstMem second secondMem index positive bound looks
    by_cases same : first = second
    · subst same
      exact ne_indexed _ _ looks
    · have symmetric : Std.Symm (Function.onFun List.Disjoint
          fun entry : String × Interface => entry.2.numberNames catalog entry.1) :=
        ⟨fun _ _ apart _ inSecond inFirst => apart inFirst inSecond⟩
      have apart := disjoint.forall firstMem secondMem same
      have later : numberName first.1 index ∈ first.2.numberNames catalog first.1 :=
        Interface.mem_numberNames_iff.mpr ⟨index, bound, rfl⟩
      have own : numberName first.1 index ∈ second.2.numberNames catalog second.1 := by
        refine Interface.mem_numberNames_iff.mpr ⟨0, ?_, ?_⟩
        · exact Nat.lt_of_lt_of_le Nat.zero_lt_one (Nat.le_max_right _ _)
        · rw [numberName, if_pos rfl, looks, numberName, if_neg (Nat.ne_of_gt positive)]
      exact apart later own
  · intro apart
    constructor
    · intro entry _
      exact List.Nodup.map (fun _ _ => numberName_inj) List.nodup_range
    · refine List.Pairwise.imp_of_mem ?_ (List.pairwise_map.mp distinct)
      intro first second firstMem secondMem different name inFirst inSecond
      rcases Interface.mem_numberNames_iff.mp inFirst with ⟨index, bound, rfl⟩
      rcases Interface.mem_numberNames_iff.mp inSecond with ⟨position, otherBound, same⟩
      rcases numberName_eq same with ⟨equal, -⟩ | ⟨positive, looks⟩ | ⟨positive, looks⟩
      · exact different equal.symm
      · exact apart first firstMem second secondMem index positive bound looks
      · exact apart second secondMem first firstMem position positive otherBound looks

end UsbDescriptors
