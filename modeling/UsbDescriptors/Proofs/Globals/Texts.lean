import UsbDescriptors.Context
import UsbDescriptors.Proofs.Globals.Recordings
import UsbDescriptors.Proofs.Json.Numbers
import UsbDescriptors.Proofs.Outputs.Lines
import Mathlib.Data.List.Nodup

/-!
# Texts of defines

A define is written as one line if its value holds no line feed, and then the text defines the names
in their order and nothing else. Otherwise the further lines of the value are lines of the text like
any other, and one that reads as a define defines a name once more. Of the values that a document
can give only a string holds line feeds, since the printer of JSON escapes them. What a sequence of
recordings leaves is written in this way, whoever records.
-/

namespace UsbDescriptors

/-! ## Values in one line -/

namespace Json

theorem lineFeed_not_mem_escapedChar (c : Char) : '\n' ∉ escapedChar c := by
  unfold escapedChar
  split
  next marked => rcases marked with rfl | rfl <;> decide
  split
  next => decide
  split
  next => decide
  split
  next => decide
  next other =>
    split
    next => decide
    split
    next => decide
    split
    next =>
      have digits := (identifierTail_paddedHex 4 c.toNat).singleLine
      rw [SingleLine, paddedHex, String.toList_ofList] at digits
      simpa using digits
    next => simpa using Ne.symm other

theorem lineFeed_not_mem_writeString (text : String) : '\n' ∉ writeString text := by
  have escaped : '\n' ∉ text.toList.flatMap escapedChar := fun mem => by
    rcases List.mem_flatMap.mp mem with ⟨c, -, inside⟩
    exact lineFeed_not_mem_escapedChar c inside
  simpa [writeString] using escaped

theorem Number.lineFeed_not_mem_write (number : Number) : '\n' ∉ number.write :=
  fun mem => absurd (number.isNumberChar_write _ mem) (by decide)

mutual

/-- Compact JSON holds no line feeds. -/
theorem Value.lineFeed_not_mem_write : ∀ value : Value, '\n' ∉ value.write
  | .null => by decide
  | .boolean true => by decide
  | .boolean false => by decide
  | .number number => number.lineFeed_not_mem_write
  | .string text => lineFeed_not_mem_writeString text
  | .array items => by simpa [Value.write] using lineFeed_not_mem_writeItems items
  | .object members => by simpa [Value.write] using lineFeed_not_mem_writeMembers members

theorem lineFeed_not_mem_writeItems : ∀ items : List Value, '\n' ∉ writeItems items
  | [] => List.not_mem_nil
  | item :: rest => by
      simp [writeItems, item.lineFeed_not_mem_write, lineFeed_not_mem_writeMoreItems rest]

theorem lineFeed_not_mem_writeMoreItems : ∀ items : List Value, '\n' ∉ writeMoreItems items
  | [] => List.not_mem_nil
  | item :: rest => by
      simp [writeMoreItems, item.lineFeed_not_mem_write, lineFeed_not_mem_writeMoreItems rest]

theorem lineFeed_not_mem_writeMembers :
    ∀ members : List (String × Value), '\n' ∉ writeMembers members
  | [] => List.not_mem_nil
  | (name, value) :: rest => by
      simp [writeMembers, lineFeed_not_mem_writeString name, value.lineFeed_not_mem_write,
        lineFeed_not_mem_writeMoreMembers rest]

theorem lineFeed_not_mem_writeMoreMembers :
    ∀ members : List (String × Value), '\n' ∉ writeMoreMembers members
  | [] => List.not_mem_nil
  | (name, value) :: rest => by
      simp [writeMoreMembers, lineFeed_not_mem_writeString name, value.lineFeed_not_mem_write,
        lineFeed_not_mem_writeMoreMembers rest]

end

/-- A value stands in one line unless it is a string of several lines. -/
theorem Value.singleLine_plainText_iff {value : Value} :
    SingleLine value.plainText ↔ ∀ text, value = .string text → SingleLine text := by
  have compact : SingleLine value.compact := by
    rw [SingleLine, Value.compact, String.toList_ofList]
    exact value.lineFeed_not_mem_write
  cases value with
  | string text => simp [Value.plainText]
  | null => simp [Value.plainText, SingleLine]
  | boolean _ | number _ | array _ | object _ => simpa [Value.plainText] using compact

end Json

/-! ## Defines -/

/-- How the lines of a text give defines, which are names with values. -/
structure ListsDefines (defines : List (String × String)) (lines : List String) : Prop where
  /-- The text has a define for every name, one behind the other, each with all lines of its value,
  and nothing else. -/
  lines_eq : lines =
    (if defines.isEmpty then ["// none"]
    else defines.flatMap fun define => textLines ("#define " ++ define.1 ++ " " ++ define.2)) ++
      [""]
  /-- A name is defined in front of what the further lines of its value define. -/
  names_eq : definedNames lines =
    defines.flatMap fun define => define.1 :: definedNames (textLines define.2).tail
  /-- Every name is defined once exactly if no further line of a value defines one of them. -/
  once_iff : (∀ define ∈ defines, (definedNames lines).count define.1 = 1) ↔
    ∀ define ∈ defines, ∀ other ∈ defines, define.1 ∉ definedNames (textLines other.2).tail
  /-- Values in one line have no further lines. -/
  single : (∀ define ∈ defines, SingleLine define.2) →
    lines = (if defines.isEmpty then ["// none"]
      else defines.map fun define => "#define " ++ define.1 ++ " " ++ define.2) ++ [""] ∧
    definedNames lines = defines.map Prod.fst

section Defines

variable {name value : String} {defines : List (String × String)}

theorem definedNames_append {first rest : List String} :
    definedNames (first ++ rest) = definedNames first ++ definedNames rest :=
  List.filterMap_append

theorem definedNames_define (isName : IsName name) :
    definedNames (textLines ("#define " ++ name ++ " " ++ value)) =
      name :: definedNames (textLines value).tail := by
  have front : SingleLine ("#define " ++ name ++ " ") := by
    simp only [singleLine_append]
    exact ⟨⟨by decide, isName.characters.singleLine⟩, by decide⟩
  rcases exists_textLines_cons value with ⟨first, rest, lines, whole⟩
  rw [whole _ front, lines]
  exact List.filterMap_cons_some (isName.defined first)

theorem textLines_defineText : textLines (defineText defines) =
    (if defines.isEmpty then ["// none"]
    else defines.flatMap fun define => textLines ("#define " ++ define.1 ++ " " ++ define.2)) ++
      [""] := by
  cases defines with
  | nil => decide
  | cons first rest =>
      have text : defineText (first :: rest) =
          unlines ((first :: rest).map fun define => defineLine define.1 define.2) := rfl
      rw [text, textLines_unlines, List.flatMap_map]
      rfl

theorem definedNames_defineText (names : ∀ define ∈ defines, IsName define.1) :
    definedNames (textLines (defineText defines)) =
      defines.flatMap fun define => define.1 :: definedNames (textLines define.2).tail := by
  have last : definedNames [""] = [] := by decide
  rw [textLines_defineText, definedNames_append, last, List.append_nil]
  cases defines with
  | nil => decide
  | cons first rest =>
      rw [List.isEmpty_cons, if_neg Bool.false_ne_true, definedNames, List.filterMap_flatMap]
      exact List.flatMap_congr fun define mem => definedNames_define (names define mem)

/-- What the further lines of values define comes on top of one definition for each name. -/
theorem count_definedNames (names : ∀ define ∈ defines, IsName define.1)
    (distinct : (defines.map Prod.fst).Nodup) (mem : name ∈ defines.map Prod.fst) :
    (definedNames (textLines (defineText defines))).count name =
      1 + (defines.flatMap fun define => definedNames (textLines define.2).tail).count name := by
  have split := List.flatMap_append_perm defines (fun define => [define.1])
    fun define => definedNames (textLines define.2).tail
  have own : (defines.flatMap fun define => [define.1]) = defines.map Prod.fst :=
    List.map_eq_flatMap.symm
  rw [definedNames_defineText names, ← List.count_eq_one_of_mem distinct mem, ← own,
    ← List.count_append]
  exact (split.count_eq name).symm

theorem listsDefines_defineText (names : ∀ define ∈ defines, IsName define.1)
    (distinct : (defines.map Prod.fst).Nodup) :
    ListsDefines defines (textLines (defineText defines)) where
  lines_eq := textLines_defineText
  names_eq := definedNames_defineText names
  once_iff := by
    have once : ∀ define ∈ defines,
        ((definedNames (textLines (defineText defines))).count define.1 = 1 ↔
          ∀ other ∈ defines, define.1 ∉ definedNames (textLines other.2).tail) := by
      intro define mem
      rw [count_definedNames names distinct (List.mem_map_of_mem mem), Nat.add_eq_left,
        List.count_eq_zero, List.mem_flatMap]
      simp only [not_exists, not_and]
    exact forall₂_congr once
  single := by
    intro single
    have alone : ∀ define ∈ defines, textLines ("#define " ++ define.1 ++ " " ++ define.2) =
        ["#define " ++ define.1 ++ " " ++ define.2] := by
      intro define mem
      apply textLines_of_single
      simp only [singleLine_append]
      exact ⟨⟨⟨by decide, (names define mem).characters.singleLine⟩, by decide⟩, single define mem⟩
    have values : ∀ define ∈ defines,
        define.1 :: definedNames (textLines define.2).tail = [define.1] := by
      intro define mem
      rw [textLines_of_single (single define mem)]
      rfl
    constructor
    · rw [textLines_defineText, List.flatMap_congr alone, List.map_eq_flatMap]
    · rw [definedNames_defineText names, List.flatMap_congr values, List.map_eq_flatMap]

end Defines

namespace GlobalDefines.Recorded

variable {defines : GlobalDefines} {recordings : List Recording}

theorem map_fst_pairs (recorded : defines.Recorded recordings) :
    defines.pairs.map Prod.fst = (recordings.map Recording.name).eraseDups := by
  rw [GlobalDefines.map_fst_pairs, recorded.names]

/-- The text of what a sequence of recordings leaves has a define for every name. -/
theorem listsDefines (recorded : defines.Recorded recordings)
    (names : ∀ recording ∈ recordings, IsName recording.name) :
    ListsDefines defines.pairs (textLines defines.text) := by
  refine listsDefines_defineText (fun define mem => ?_) ?_
  · rcases recorded.mem_pairs_iff.mp mem with ⟨recording, recordingMem, rfl⟩
    exact names recording recordingMem
  · rw [GlobalDefines.map_fst_pairs]
    exact recorded.distinct

theorem definedNames_text (recorded : defines.Recorded recordings)
    (names : ∀ recording ∈ recordings, IsName recording.name)
    (single : ∀ recording ∈ recordings, SingleLine recording.value) :
    definedNames (textLines defines.text) = (recordings.map Recording.name).eraseDups := by
  rw [← recorded.map_fst_pairs]
  refine ((recorded.listsDefines names).single fun define mem => ?_).2
  rcases recorded.mem_pairs_iff.mp mem with ⟨recording, recordingMem, rfl⟩
  exact single recording recordingMem

end GlobalDefines.Recorded

end UsbDescriptors
