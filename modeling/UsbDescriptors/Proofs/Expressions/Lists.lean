import UsbDescriptors.Proofs.Expressions.Values
import UsbDescriptors.Proofs.Json.Recognition
import UsbDescriptors.Proofs.Json.RoundTrip

/-!
# Arrays in expressions

A property whose value is an array stands in an expression as a text, and a text that gives strings
is taken for a list if it is an array. What is put together again in this way is the list of the
items of the property, each as it would appear alone, because the text of an array is read as the
array. The names in an object are distinct in every value that is read, and that is all that is
assumed of objects. In the other direction nothing else is taken for a list: the text has to be an
array of the grammar.
-/

namespace UsbDescriptors

open Expression (IsKey referTo)
open Json (Value)

theorem listItems?_plainText {items : List Value} (shallow : (Value.array items).depth ≤ 127)
    (integers : (Value.array items).HasIntegers) (distinct : (Value.array items).DistinctNames) :
    listItems? (Value.array items).plainText = some (items.map Value.plainText) := by
  have text : (Value.array items).plainText = (Value.array items).compact := rfl
  rw [listItems?, text, Value.read_compact shallow integers distinct]

theorem exists_spelledBy_of_listItems? {text : String} {texts : List String}
    (found : listItems? text = some texts) :
    ∃ items, (Value.array items).SpelledBy text ∧ texts = items.map Value.plainText := by
  rw [listItems?] at found
  split at found
  next items read =>
    cases found
    exact ⟨items, Value.spelledBy_of_read read, rfl⟩
  next => cases found

namespace Context

variable {context : Context} {name : String} {value : Value} {mask : Option String}

/-- The further variables of a property have other names than the property. -/
theorem not_mem_keys_derived : name ∉ OrderedMap.keys (derived name mask value) := by
  have longer (suffix : String) (nonempty : suffix.toList ≠ []) : name ≠ name ++ suffix := by
    intro same
    have characters := congrArg String.toList same
    rw [String.toList_append, List.self_eq_append_right] at characters
    exact nonempty characters
  have id := longer ".id" (by decide)
  have length := longer ".length" (by decide)
  have maskName := longer ".mask" (by decide)
  cases value with
  | string text => simp [derived, OrderedMap.keys, id, length]
  | array items => simp [derived, OrderedMap.keys, id, length, maskName]
  | null | boolean | number | object => simp [derived, OrderedMap.keys]

theorem get?_insertProperty : (context.insertProperty name value mask).get? name =
    some value.plainText := by
  rw [insertProperty, List.foldl_cons, OrderedMap.get?_foldl_insert_of_not_mem not_mem_keys_derived,
    OrderedMap.get?_insert_self]

end Context

/-- The items of an array come out of an expression that refers to the array, in their order and
each as it appears alone. No text but an array with blanks around it gives any items at all. -/
theorem array_survives_substitution :
    (∀ items : List Value, (Value.array items).depth ≤ 127 → (Value.array items).HasIntegers →
      (Value.array items).DistinctNames →
        listItems? (Value.array items).plainText = some (items.map Value.plainText) ∧
          ∀ (context : Context) (name : String) (mask : Option String), IsKey name →
            (substitute (context.insertProperty name (.array items) mask) (referTo name)).map
              listItems? = .ok (some (items.map Value.plainText))) ∧
      ∀ (text : String) (texts : List String), listItems? text = some texts →
        ∃ items, (Value.array items).SpelledBy text ∧ texts = items.map Value.plainText := by
  refine ⟨?_, fun text texts found => exists_spelledBy_of_listItems? found⟩
  intro items shallow integers distinct
  have read := listItems?_plainText shallow integers distinct
  refine ⟨read, ?_⟩
  intro context name mask isKey
  rw [substitute_referTo isKey Context.get?_insertProperty]
  exact congrArg Except.ok read

/-- Strings with a quote, a backslash, control characters and a character outside the basic plane,
the extreme integers, and items that are arrays and objects themselves. -/
def assortedItems : List Value :=
  [.string "a\"b\\c", .string "\x01\n\x7f𝄞", .null, .boolean true,
    .number (.integer 18446744073709551615), .number (.integer (-9223372036854775808)),
    .array [.array [], .string ""], .object [("𝄞", .null), ("k", .array [.boolean false])]]

/-- The items of the array above as they appear alone, and a list that is written with blanks. -/
theorem array_survives_assortedItems :
    (Value.array assortedItems).depth ≤ 127 ∧ (Value.array assortedItems).HasIntegers ∧
      (Value.array assortedItems).DistinctNames ∧ IsKey "list" ∧
      (substitute (Context.insertProperty [] "list" (.array assortedItems) none)
          "$\x7blist\x7d").map listItems? =
        .ok (some ["a\"b\\c", "\x01\n\x7f𝄞", "", "true", "18446744073709551615",
          "-9223372036854775808", "[[],\"\"]", "\x7b\"𝄞\":null,\"k\":[false]\x7d"]) ∧
      listItems? " [1 , \"x\"]\n" = some ["1", "x"] ∧
      ∃ items, (Value.array items).SpelledBy " [1 , \"x\"]\n" ∧
        ["1", "x"] = items.map Value.plainText := by
  have shallow : (Value.array assortedItems).depth ≤ 127 := by decide
  have integers : (Value.array assortedItems).HasIntegers := by
    simp [assortedItems, Value.HasIntegers, Value.itemsHaveIntegers, Value.membersHaveIntegers,
      Json.Number.IsInteger64]
  have distinct : (Value.array assortedItems).DistinctNames := by
    simp [assortedItems, Value.DistinctNames, Value.itemsDistinct, Value.membersDistinct]
  have isKey : IsKey "list" := by decide
  have texts : assortedItems.map Value.plainText = ["a\"b\\c", "\x01\n\x7f𝄞", "", "true",
      "18446744073709551615", "-9223372036854775808", "[[],\"\"]",
      "\x7b\"𝄞\":null,\"k\":[false]\x7d"] := by
    decide +kernel
  have blanks : listItems? " [1 , \"x\"]\n" = some ["1", "x"] := by decide +kernel
  refine ⟨shallow, integers, distinct, isKey, ?_, blanks, ?_⟩
  · rw [← texts]
    exact (array_survives_substitution.1 assortedItems shallow integers distinct).2 [] "list" none
      isKey
  · exact array_survives_substitution.2 _ _ blanks

end UsbDescriptors
