import Mathlib.Data.List.Forall2

/-!
# Lists related item by item

The plans, blocks and documents of a run are lists whose items belong together one by one. These
lemmas carry facts from the items of one list to those of the other.
-/

namespace UsbDescriptors.Related

universe u v w

variable {α : Type u} {β : Type v} {γ : Type w} {relation : α → β → Prop}
  {left : List α} {right : List β}

theorem exists_left (related : List.Forall₂ relation left right) {item : β}
    (mem : item ∈ right) : ∃ other ∈ left, relation other item := by
  induction related with
  | nil => cases mem
  | cons head _ ih =>
      rcases List.mem_cons.mp mem with rfl | later
      · exact ⟨_, List.mem_cons_self, head⟩
      · rcases ih later with ⟨other, otherMem, holds⟩
        exact ⟨other, List.mem_cons_of_mem _ otherMem, holds⟩

theorem exists_right (related : List.Forall₂ relation left right) {item : α}
    (mem : item ∈ left) : ∃ other ∈ right, relation item other :=
  exists_left related.flip mem

theorem exists_getElem? (related : List.Forall₂ relation left right) {index : Nat} {item : α}
    (present : left[index]? = some item) :
    ∃ other, right[index]? = some other ∧ relation item other := by
  induction related generalizing index with
  | nil => cases present
  | cons head _ ih =>
      cases index with
      | zero =>
          rcases Option.some.inj present with rfl
          exact ⟨_, rfl, head⟩
      | succ index => exact ih present

theorem imp_of_members {stronger : α → β → Prop} (related : List.Forall₂ relation left right)
    (implied : ∀ item ∈ left, ∀ other ∈ right, relation item other → stronger item other) :
    List.Forall₂ stronger left right := by
  induction related with
  | nil => exact .nil
  | cons head _ ih =>
      refine .cons (implied _ List.mem_cons_self _ List.mem_cons_self head) (ih ?_)
      intro item mem other otherMem
      exact implied item (List.mem_cons_of_mem _ mem) other (List.mem_cons_of_mem _ otherMem)

theorem imp_of_mem {stronger : α → β → Prop} (related : List.Forall₂ relation left right)
    (implied : ∀ item ∈ left, ∀ other, relation item other → stronger item other) :
    List.Forall₂ stronger left right :=
  imp_of_members related fun item mem other _ => implied item mem other

/-- Items that are related to the same items are the same if the relation leaves no choice. -/
theorem unique {others : List β}
    (single : ∀ item first second, relation item first → relation item second → first = second)
    (related : List.Forall₂ relation left right) (again : List.Forall₂ relation left others) :
    right = others := by
  induction related generalizing others with
  | nil =>
      cases again
      rfl
  | cons head _ ih =>
      cases again with
      | cons otherHead rest => rw [single _ _ _ head otherHead, ih rest]

theorem flatMap_eq {first : α → List γ} {second : β → List γ}
    (agree : ∀ item other, relation item other → first item = second other)
    (related : List.Forall₂ relation left right) :
    left.flatMap first = right.flatMap second := by
  induction related with
  | nil => rfl
  | cons head _ ih => rw [List.flatMap_cons, List.flatMap_cons, agree _ _ head, ih]

theorem map_eq {first : α → γ} {second : β → γ}
    (agree : ∀ item other, relation item other → first item = second other)
    (related : List.Forall₂ relation left right) : left.map first = right.map second := by
  induction related with
  | nil => rfl
  | cons head _ ih => rw [List.map_cons, List.map_cons, agree _ _ head, ih]

/-- Lists with the same images have for each item of one an item of the other with its image. -/
theorem exists_of_map_eq {first : α → γ} {second : β → γ}
    (same : left.map first = right.map second) {item : α} (mem : item ∈ left) :
    ∃ other ∈ right, second other = first item := by
  apply List.mem_map.mp
  rw [← same]
  exact List.mem_map_of_mem mem

/-- Parts of related items that are related one by one are related all together. -/
theorem flatMap {δ : Type*} {first : α → List γ} {second : β → List δ} {part : γ → δ → Prop}
    (agree : ∀ item other, relation item other → List.Forall₂ part (first item) (second other))
    (related : List.Forall₂ relation left right) :
    List.Forall₂ part (left.flatMap first) (right.flatMap second) := by
  induction related with
  | nil => exact .nil
  | cons head _ ih =>
      rw [List.flatMap_cons, List.flatMap_cons]
      exact List.rel_append (agree _ _ head) ih

theorem trans {third : List γ} {next : β → γ → Prop}
    (related : List.Forall₂ relation left right) (continued : List.Forall₂ next right third) :
    List.Forall₂ (fun item last => ∃ middle, relation item middle ∧ next middle last)
      left third := by
  induction related generalizing third with
  | nil =>
      cases continued
      exact .nil
  | cons head _ ih =>
      cases continued with
      | cons nextHead rest => exact .cons ⟨_, head, nextHead⟩ (ih rest)

theorem zipIdx (related : List.Forall₂ relation left right) (start : Nat) :
    List.Forall₂ (fun item other => relation item.1 other.1 ∧ item.2 = other.2)
      (left.zipIdx start) (right.zipIdx start) := by
  induction related generalizing start with
  | nil => exact .nil
  | cons head _ ih =>
      rw [List.zipIdx_cons, List.zipIdx_cons]
      exact .cons ⟨head, rfl⟩ (ih (start + 1))

end UsbDescriptors.Related
