import UsbDescriptors.Interface.Evaluated
import UsbDescriptors.Proofs.Interfaces.NumberNames
import UsbDescriptors.Proofs.Strings.Tables

/-!
# Symbols of strings

The symbol of a string joins its owner and its property by an underscore, and the later items of a
list are numbered behind another one. Owners may hold underscores, so a symbol does not show where
its owner ends by itself; it does if the properties are named by words, which hold no underscore
and are not numbers. The strings of owners with distinct identifiers then have distinct symbols.
-/

namespace UsbDescriptors

open StringTable (symbol)

theorem identifier_append (first second : String) :
    identifier (first ++ second) = identifier first ++ identifier second := by
  apply String.toList_injective
  simp

theorem identifierChar_of_isDigit {c : Char} (digit : c.isDigit = true) :
    identifierChar c = c := by
  have same : c.toUpper = c := by
    unfold Char.toUpper
    simp only [Char.isDigit, Bool.and_eq_true, decide_eq_true_eq] at digit
    grind
  simp [identifierChar, Char.isAlphanum, digit, same]

theorem identifier_toString (number : Nat) : identifier (toString number) = toString number := by
  apply String.toList_injective
  rw [toList_identifier, Nat.toString_eq_repr, Nat.toList_repr]
  refine (List.map_congr_left ?_).trans (List.map_id _)
  intro c mem
  exact identifierChar_of_isDigit (Nat.isDigit_of_mem_toDigits (by omega) (by omega) mem)

/-- The property that an item of a list gives. -/
def itemName (field : String) (index : Nat) : String :=
  if index = 0 then field else field ++ "_" ++ toString index

theorem identifier_itemName {field : String} {index : Nat} :
    identifier (itemName field index) = numberName field index := by
  unfold itemName numberName
  split
  · rfl
  · rw [identifier_append (field ++ "_"), identifier_append field "_", identifier_toString]
    rfl

/-- A name whose identifier is written in letters. -/
def IsWord (name : String) : Prop :=
  identifier name ≠ "" ∧ ∀ c ∈ (identifier name).toList, c.isUpper = true

instance (name : String) : Decidable (IsWord name) :=
  decidable_of_iff (identifier name ≠ "" ∧ (identifier name).toList.all Char.isUpper = true)
    (and_congr_right' List.all_eq_true)

namespace IsWord

variable {name other : String}

theorem no_underscore (word : IsWord name) : '_' ∉ (identifier name).toList := by
  intro mem
  exact absurd (word.2 _ mem) (by decide)

/-- A word is no number, so what ends in a word does not end in a number. -/
theorem ne_indexed (word : IsWord name) (left right : String) (index : Nat) :
    left ++ "_" ++ identifier name ≠ right ++ "_" ++ toString index := by
  intro same
  have underscore : "_".toList = ['_'] := rfl
  have characters := congrArg String.toList same
  simp only [String.toList_append, List.append_assoc, underscore, List.singleton_append,
    Nat.toString_eq_repr, Nat.toList_repr] at characters
  rcases split_at_last word.no_underscore Nat.underscore_not_in_toDigits characters with
    ⟨-, digits⟩
  cases letters : (identifier name).toList with
  | nil => exact word.1 (String.toList_injective letters)
  | cons first rest =>
      have mem : first ∈ (identifier name).toList := by
        rw [letters]
        exact List.mem_cons_self
      have upper : 'A'.val ≤ first.val ∧ first.val ≤ 'Z'.val :=
        of_decide_eq_true (word.2 first mem)
      rw [digits] at mem
      have digit := Nat.isDigit_of_mem_toDigits (by omega) (by omega) mem
      simp only [Char.isDigit, Bool.and_eq_true, decide_eq_true_eq] at digit
      grind

theorem joined_inj (word : IsWord name) (otherWord : IsWord other) {left right : String}
    (same : left ++ "_" ++ identifier name = right ++ "_" ++ identifier other) :
    left = right ∧ identifier name = identifier other := by
  have underscore : "_".toList = ['_'] := rfl
  have characters := congrArg String.toList same
  simp only [String.toList_append, List.append_assoc, underscore, List.singleton_append]
    at characters
  rcases split_at_last word.no_underscore otherWord.no_underscore characters with
    ⟨fronts, names⟩
  exact ⟨String.toList_injective fronts, String.toList_injective names⟩

/-- The names of the items of two words agree only if the words do. -/
theorem numberName_inj (word : IsWord name) (otherWord : IsWord other) {index position : Nat}
    (same : numberName name index = numberName other position) :
    identifier name = identifier other := by
  rcases numberName_eq same with ⟨equal, -⟩ | ⟨-, longer⟩ | ⟨-, longer⟩
  · exact equal
  · have inside := word.no_underscore
    simp [longer] at inside
  · have inside := otherWord.no_underscore
    simp [longer] at inside

end IsWord

theorem symbol_itemName {owner field : String} {index : Nat} :
    symbol owner (itemName field index) =
      "STRING_INDEX_" ++ numberName (owner ++ "_" ++ field) index := by
  have underscore : identifier "_" = "_" := by decide
  change "STRING_INDEX_" ++ identifier owner ++ "_" ++ identifier (itemName field index) = _
  rw [identifier_itemName]
  unfold numberName
  split
  · simp only [identifier_append, underscore, String.append_assoc]
  · simp only [identifier_append, underscore, String.append_assoc]

/-- Properties that are named by words have one symbol only if their owners are the same. -/
theorem owner_of_symbol {owner other field otherField : String} {index position : Nat}
    (word : IsWord field) (otherWord : IsWord otherField)
    (same : symbol owner (itemName field index) = symbol other (itemName otherField position)) :
    identifier owner = identifier other := by
  have underscore : identifier "_" = "_" := by decide
  rw [symbol_itemName, symbol_itemName, String.append_right_inj] at same
  rcases numberName_eq same with ⟨equal, -⟩ | ⟨-, longer⟩ | ⟨-, longer⟩
  · simp only [identifier_append, underscore] at equal
    exact (word.joined_inj otherWord equal).1
  · simp only [identifier_append, underscore] at longer
    exact absurd longer (word.ne_indexed _ _ _)
  · simp only [identifier_append, underscore] at longer
    exact absurd longer (otherWord.ne_indexed _ _ _)

/-- The strings of one owner, each with the property that it gives. -/
structure StringGroup where
  owner : String
  strings : List (String × Option String)
deriving DecidableEq, Repr

namespace StringGroup

def requests (group : StringGroup) : List StringRequest :=
  group.strings.map fun string => ⟨group.owner, string.1, string.2⟩

/-- Strings whose properties are named by words and differ from each other. -/
structure Apart (group : StringGroup) : Prop where
  named : ∀ string ∈ group.strings, ∃ field index, IsWord field ∧ string.1 = itemName field index
  distinct : (group.strings.map fun string => identifier string.1).Nodup

theorem Apart.nodup {group : StringGroup} (apart : group.Apart) :
    (group.requests.map StringRequest.symbol).Nodup := by
  have symbols : group.requests.map StringRequest.symbol =
      (group.strings.map fun string => identifier string.1).map fun name =>
        "STRING_INDEX_" ++ identifier group.owner ++ "_" ++ name := by
    rw [requests, List.map_map, List.map_map]
    rfl
  rw [symbols]
  exact apart.distinct.map fun _ _ same => (String.append_right_inj _).mp same

/-- The strings of owners with distinct identifiers have distinct symbols. -/
theorem nodup_symbols {groups : List StringGroup}
    (owners : (groups.map fun group => identifier group.owner).Nodup)
    (apart : ∀ group ∈ groups, group.Apart) :
    ((groups.flatMap requests).map StringRequest.symbol).Nodup := by
  rw [List.map_flatMap, List.nodup_flatMap]
  refine ⟨fun group mem => (apart group mem).nodup, ?_⟩
  refine List.Pairwise.imp_of_mem ?_ (List.pairwise_map.mp owners)
  intro group other mem otherMem different id inGroup inOther
  simp only [requests, List.map_map, List.mem_map] at inGroup inOther
  rcases inGroup with ⟨string, stringMem, rfl⟩
  rcases inOther with ⟨otherString, otherStringMem, same⟩
  rcases (apart group mem).named string stringMem with ⟨field, index, word, name⟩
  rcases (apart other otherMem).named otherString otherStringMem with
    ⟨otherField, position, otherWord, otherName⟩
  simp only [Function.comp_apply, StringRequest.symbol, name, otherName] at same
  exact different (owner_of_symbol otherWord word same).symm

end StringGroup

end UsbDescriptors
