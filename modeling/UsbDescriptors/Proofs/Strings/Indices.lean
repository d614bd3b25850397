import UsbDescriptors.Proofs.Interfaces.Enumerators
import UsbDescriptors.Proofs.Strings.Descriptions
import UsbDescriptors.Proofs.Strings.Histories

/-!
# Indices of strings

The indices of strings are the values of an enumeration that starts with the language record. As
all strings of a run have their own symbols, the index of a string is the number of strings that are
added before it, and one more for the language record.
-/

namespace UsbDescriptors

namespace StringTable

/-- The enumerators of the indices. -/
def enumerators (table : StringTable) : List String :=
  "STRING_INDEX_LANGUAGE" :: table.ids ++ ["STRING_INDEX_COUNT"]

theorem enumLines_eq (table : StringTable) :
    table.enumLines = table.enumerators.map fun enumerator => "\t" ++ enumerator ++ "," := by
  have first : "\tSTRING_INDEX_LANGUAGE," = "\t" ++ "STRING_INDEX_LANGUAGE" ++ "," := by decide
  have last : "\tSTRING_INDEX_COUNT," = "\t" ++ "STRING_INDEX_COUNT" ++ "," := by decide
  simp [enumLines, enumerators, ids, first, last]

/-- The value of an enumerator: the enumeration gives none, so they are counted from zero. -/
def index? (table : StringTable) (symbol : String) : Option Nat :=
  table.enumerators.idxOf? symbol

/-- A string is numbered by the strings that are added before it, from one on. -/
theorem Holds.index? {table : StringTable} {before after : List StringRequest}
    {request : StringRequest} (holds : table.Holds (before ++ request :: after))
    (distinct : ((before ++ request :: after).map StringRequest.symbol).Nodup) :
    table.index? request.symbol = some (before.length + 1) := by
  have listed : table.enumerators = ("STRING_INDEX_LANGUAGE" :: before.map StringRequest.symbol) ++
      request.symbol :: (after.map StringRequest.symbol ++ ["STRING_INDEX_COUNT"]) := by
    rw [enumerators, ids, ids_of_entered holds.entries]
    simp
  have absent : request.symbol ∉ "STRING_INDEX_LANGUAGE" :: before.map StringRequest.symbol := by
    rw [List.mem_cons, not_or]
    refine ⟨(unreserved_symbol request).1, ?_⟩
    intro mem
    rw [List.map_append, List.map_cons, List.nodup_append] at distinct
    exact distinct.2.2 _ mem _ List.mem_cons_self rfl
  rw [StringTable.index?, listed, idxOf?_of_not_mem absent]
  simp

end StringTable

/-- The properties whose strings are referred to in descriptors. -/
def referredProperties : List String :=
  ["manufacturer", "product", "serial", "description"]

/-- The items of a list but the first one are named by other properties. -/
theorem eq_of_itemName_mem {field : String} {index : Nat}
    (mem : itemName field index ∈ referredProperties) : itemName field index = field := by
  have free : ∀ property ∈ referredProperties, '_' ∉ property.toList := by decide
  by_cases first : index = 0
  · rw [itemName, if_pos first]
  · have inside := free _ mem
    rw [itemName, if_neg first] at inside
    simp at inside

namespace ResolvedInterface

/-- The argument of a string field stands in the call as the symbol of the field. -/
theorem inCall_stringArgument (tag name text : String) :
    (stringArgument name text).inCall tag = StringTable.symbol tag name := by
  unfold stringArgument
  cases listItems? text with
  | none => rfl
  | some items =>
      cases items with
      | nil => rfl
      | cons first rest => rfl

end ResolvedInterface

end UsbDescriptors
