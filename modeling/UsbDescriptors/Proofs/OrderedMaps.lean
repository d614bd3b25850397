import UsbDescriptors.OrderedMap
import Mathlib.Data.List.Nodup

/-!
# Names of ordered maps

Storing entries keeps the names distinct, and entries whose names are distinct already are stored
as they are. In entries with distinct names every value is the one that is found under its name.
-/

namespace UsbDescriptors.OrderedMap

universe u

variable {α : Type u} {entries : OrderedMap α} {name : String} {value : α}

@[simp]
theorem get?_cons {present : String} {stored : α} :
    get? ((present, stored) :: entries) name =
      if present = name then some stored else get? entries name := rfl

theorem get?_eq_none_iff : entries.get? name = none ↔ name ∉ entries.keys := by
  induction entries with
  | nil => simp [keys]
  | cons entry rest ih =>
      rcases entry with ⟨present, stored⟩
      by_cases same : present = name
      · simp [get?, keys, same]
      · have other : name ≠ present := fun equal => same equal.symm
        simp only [get?, same, if_false, ih]
        simp [keys, other]

theorem contains_iff_mem_keys : entries.contains name = true ↔ name ∈ entries.keys := by
  rw [contains, Option.isSome_iff_ne_none, ne_eq, get?_eq_none_iff, Decidable.not_not]

@[simp]
theorem get?_of_not_mem (absent : name ∉ entries.keys) : entries.get? name = none :=
  get?_eq_none_iff.mpr absent

theorem get?_append {others : OrderedMap α} :
    get? (entries ++ others) name = (entries.get? name).or (others.get? name) := by
  induction entries with
  | nil => rfl
  | cons entry rest ih =>
      rcases entry with ⟨present, stored⟩
      by_cases same : present = name
      · simp [same]
      · simpa [same] using ih

theorem mem_of_get?_eq_some (found : entries.get? name = some value) :
    (name, value) ∈ entries := by
  induction entries with
  | nil => cases found
  | cons entry rest ih =>
      rcases entry with ⟨present, stored⟩
      by_cases same : present = name
      · simp only [get?, same, if_true, Option.some.injEq] at found
        rw [same, found]
        exact List.mem_cons_self
      · simp only [get?, same, if_false] at found
        exact List.mem_cons_of_mem _ (ih found)

theorem get?_eq_some_of_mem (distinct : entries.keys.Nodup) (mem : (name, value) ∈ entries) :
    entries.get? name = some value := by
  induction entries with
  | nil => cases mem
  | cons entry rest ih =>
      rcases entry with ⟨present, stored⟩
      rcases List.nodup_cons.mp distinct with ⟨absent, restDistinct⟩
      rcases List.mem_cons.mp mem with same | later
      · rcases Prod.mk.inj same with ⟨rfl, rfl⟩
        simp [get?]
      · have different : present ≠ name := by
          rintro rfl
          exact absent (List.mem_map.mpr ⟨(present, value), later, rfl⟩)
        simp only [get?, different, if_false]
        exact ih restDistinct later

theorem insert_of_not_mem (absent : name ∉ entries.keys) :
    entries.insert name value = entries ++ [(name, value)] := by
  induction entries with
  | nil => rfl
  | cons entry rest ih =>
      rcases entry with ⟨present, stored⟩
      have parts : name ≠ present ∧ name ∉ keys rest := by simpa [keys] using absent
      have different : ¬ present = name := fun equal => parts.1 equal.symm
      simp only [insert, different, if_false, ih parts.2, List.cons_append]

/-- Storing what is found under a name changes nothing. -/
theorem insert_of_get?_eq_some (found : entries.get? name = some value) :
    entries.insert name value = entries := by
  induction entries with
  | nil => cases found
  | cons entry rest ih =>
      rcases entry with ⟨present, stored⟩
      by_cases same : present = name
      · simp only [get?_cons, if_pos same, Option.some.injEq] at found
        simp [insert, same, found]
      · simp only [get?_cons, if_neg same] at found
        simp [insert, same, ih found]

/-- A value is stored at the first place of its name. -/
theorem insert_append_cons {before after : OrderedMap α} {old : α} (absent : name ∉ before.keys) :
    insert (before ++ (name, old) :: after) name value = before ++ (name, value) :: after := by
  induction before with
  | nil => simp [insert]
  | cons entry rest ih =>
      rcases entry with ⟨present, stored⟩
      have parts : name ≠ present ∧ name ∉ keys rest := by simpa [keys] using absent
      simp [insert, Ne.symm parts.1, ih parts.2]

theorem mem_insert {entry : String × α} (mem : entry ∈ entries.insert name value) :
    entry = (name, value) ∨ entry ∈ entries := by
  induction entries with
  | nil => exact Or.inl (List.mem_singleton.mp mem)
  | cons first rest ih =>
      rcases first with ⟨present, stored⟩
      by_cases same : present = name
      · simp only [insert, same, if_true] at mem
        rcases List.mem_cons.mp mem with found | later
        · exact Or.inl found
        · exact Or.inr (List.mem_cons_of_mem _ later)
      · simp only [insert, same, if_false] at mem
        rcases List.mem_cons.mp mem with found | later
        · exact Or.inr (found ▸ List.mem_cons_self)
        · rcases ih later with found | stored
          · exact Or.inl found
          · exact Or.inr (List.mem_cons_of_mem _ stored)

theorem keys_insert_of_mem (present : name ∈ entries.keys) :
    (entries.insert name value).keys = entries.keys := by
  induction entries with
  | nil => cases present
  | cons entry rest ih =>
      rcases entry with ⟨first, stored⟩
      by_cases same : first = name
      · simp [insert, keys, same]
      · have later : name ∈ keys rest := by
          rcases List.mem_cons.mp present with equal | later
          · exact absurd equal.symm same
          · exact later
        have step := ih later
        simp only [keys] at step
        simp [insert, keys, same, step]

theorem mem_keys_insert {other : String} :
    other ∈ (entries.insert name value).keys ↔ other = name ∨ other ∈ entries.keys := by
  by_cases present : name ∈ entries.keys
  · rw [keys_insert_of_mem present]
    constructor
    · exact Or.inr
    · rintro (rfl | stored)
      · exact present
      · exact stored
  · simp [insert_of_not_mem present, keys, or_comm]

theorem mem_keys_foldl_insert {added : List (String × α)} :
    name ∈ keys (added.foldl (fun stored entry => insert stored entry.1 entry.2) entries) ↔
      name ∈ keys added ∨ name ∈ entries.keys := by
  induction added generalizing entries with
  | nil => simp [keys]
  | cons entry rest ih =>
      have first : name ∈ keys (entry :: rest) ↔ name = entry.1 ∨ name ∈ keys rest :=
        List.mem_cons
      rw [List.foldl_cons, ih, mem_keys_insert, first, or_left_comm, or_assoc]

/-- Entries under other names do not count. -/
theorem get?_foldl_insert_of_not_mem {added : List (String × α)} (absent : name ∉ keys added) :
    (added.foldl (fun stored entry => insert stored entry.1 entry.2) entries).get? name =
      entries.get? name := by
  induction added generalizing entries with
  | nil => rfl
  | cons entry rest ih =>
      rw [keys, List.map_cons, List.mem_cons, not_or] at absent
      rw [List.foldl_cons, ih absent.2, get?_insert_of_ne _ _ (Ne.symm absent.1)]

theorem mem_keys_ofList {added : List (String × α)} :
    name ∈ (ofList added).keys ↔ name ∈ keys added := by
  rw [ofList, mem_keys_foldl_insert]
  simp [keys]

theorem nodup_keys_insert (distinct : entries.keys.Nodup) :
    (entries.insert name value).keys.Nodup := by
  by_cases present : name ∈ entries.keys
  · rw [keys_insert_of_mem present]
    exact distinct
  · rw [insert_of_not_mem present]
    simp only [keys, List.map_append, List.map_cons, List.map_nil] at distinct present ⊢
    refine List.nodup_append.mpr ⟨distinct, List.nodup_singleton _, ?_⟩
    intro stored storedMem new newMem equal
    rw [List.mem_singleton.mp newMem] at equal
    exact present (equal ▸ storedMem)

theorem nodup_keys_foldl_insert (added : List (String × α)) (distinct : entries.keys.Nodup) :
    keys (added.foldl (fun stored entry => insert stored entry.1 entry.2) entries)
      |>.Nodup := by
  induction added generalizing entries with
  | nil => exact distinct
  | cons entry rest ih => exact ih (nodup_keys_insert distinct)

theorem nodup_keys_ofList (added : List (String × α)) : (ofList added).keys.Nodup :=
  nodup_keys_foldl_insert added List.nodup_nil

theorem mem_foldl_insert {added : List (String × α)} {entry : String × α}
    (mem : entry ∈ added.foldl (fun stored entry => insert stored entry.1 entry.2) entries) :
    entry ∈ added ∨ entry ∈ entries := by
  induction added generalizing entries with
  | nil => exact Or.inr mem
  | cons first rest ih =>
      rcases ih mem with later | stored
      · exact Or.inl (List.mem_cons_of_mem _ later)
      · rcases mem_insert stored with found | before
        · exact Or.inl (found ▸ List.mem_cons_self)
        · exact Or.inr before

theorem mem_of_mem_ofList {added : List (String × α)} {entry : String × α}
    (mem : entry ∈ ofList added) : entry ∈ added := by
  rcases mem_foldl_insert mem with found | nothing
  · exact found
  · cases nothing

theorem foldl_insert_of_nodup {added : List (String × α)}
    (distinct : (keys (entries ++ added)).Nodup) :
    added.foldl (fun stored entry => insert stored entry.1 entry.2) entries =
      entries ++ added := by
  induction added generalizing entries with
  | nil => simp
  | cons entry rest ih =>
      have absent : entry.1 ∉ entries.keys := by
        simp only [keys, List.map_append, List.map_cons] at distinct ⊢
        intro present
        exact (List.nodup_append.mp distinct).2.2 _ present _ List.mem_cons_self rfl
      rw [List.foldl_cons, insert_of_not_mem absent]
      have moved : entries ++ [(entry.1, entry.2)] ++ rest = entries ++ entry :: rest := by simp
      rw [ih (by rw [moved]; exact distinct), moved]

/-- A name that has appeared before changes nothing in the order of first appearance. -/
theorem eraseDups_concat_of_mem {names : List String} (present : name ∈ names) :
    (names ++ [name]).eraseDups = names.eraseDups := by
  have nothing : [name].removeAll names = [] := by simp [List.removeAll, present]
  rw [List.eraseDups_append, nothing, List.eraseDups_nil, List.append_nil]

theorem eraseDups_concat_of_not_mem {names : List String} (absent : name ∉ names) :
    (names ++ [name]).eraseDups = names.eraseDups ++ [name] := by
  have own : [name].removeAll names = [name] := by simp [List.removeAll, absent]
  rw [List.eraseDups_append, own]
  simp [List.eraseDups_cons]

/-- Entries with distinct names are stored as they are. -/
theorem ofList_of_nodup {added : List (String × α)} (distinct : (keys added).Nodup) :
    ofList added = added :=
  foldl_insert_of_nodup distinct

end UsbDescriptors.OrderedMap
