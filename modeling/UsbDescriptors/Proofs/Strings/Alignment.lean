import UsbDescriptors.Proofs.Outputs.CallReading
import UsbDescriptors.Proofs.Outputs.Listings
import UsbDescriptors.Proofs.Strings.Indices

/-!
# Indices and records

The header numbers the strings of a table by an enumeration, and the source holds their records in
an array. Both are put together from the table, one line for each string, and nothing else ties an
index to its record but the place of the lines. A record line shows the text of its string in a
comment, and a text may hold line feeds, backslashes and any other characters.

The comment holds them as escapes. It is decoded from the payload of the entry, which gives back the
text, so it is printable ASCII between single quotes. Each of the two texts therefore has the lines
that it is put together from, and a C compiler finds an enumerator or an initializer on each of
them: the index of a string is the place of its own record.
-/

namespace UsbDescriptors

/-- A text is made of lines, each with a line feed behind it. -/
def ConsistsOf (text : String) (lines : List String) : Prop :=
  textLines text = lines ++ [""]

theorem consistsOf_unlines {lines : List String} (single : ∀ line ∈ lines, SingleLine line) :
    ConsistsOf (unlines lines) lines := by
  have each : lines.flatMap textLines = lines := by
    rw [List.flatMap_congr fun line mem => textLines_of_single (single line mem)]
    simp
  rw [ConsistsOf, textLines_unlines, each]

/-- In a list without repetitions an item is found at its own place. -/
theorem idxOf?_of_getElem? {names : List String} (distinct : names.Nodup) {index : Nat}
    {name : String} (listed : names[index]? = some name) : names.idxOf? name = some index := by
  rcases List.getElem?_eq_some_iff.mp listed with ⟨inside, rfl⟩
  refine List.idxOf?_eq_some_iff.mpr ⟨inside, rfl, ?_⟩
  intro before earlier same
  have equal := distinct.getElem_inj_iff.mp same
  omega

/-- All characters stand for themselves in one line of ASCII. -/
def PrintableAscii (text : String) : Prop :=
  ∀ c ∈ text.toList, isPrintableAscii c = true

instance (text : String) : Decidable (PrintableAscii text) :=
  decidable_of_iff (text.toList.all isPrintableAscii = true) List.all_eq_true

section Printable

variable {first second text : String}

theorem printableAscii_append :
    PrintableAscii (first ++ second) ↔ PrintableAscii first ∧ PrintableAscii second := by
  simp [PrintableAscii, or_imp, forall_and]

theorem PrintableAscii.singleLine (printable : PrintableAscii text) : SingleLine text := by
  intro mem
  exact absurd (printable _ mem) (by decide)

theorem IdentifierTail.printableAscii (tail : IdentifierTail text) : PrintableAscii text :=
  fun c mem => isPrintableAscii_of_isIdentifierTail (tail c mem)

/-- A character is escaped by a backslash and another one, stands as it is, or is written by its
code point. -/
theorem escapedAsciiChar_cases (c : Char) :
    (∃ d ∈ ['t', 'r', 'n', '\'', '"', '\\'], escapedAsciiChar c = ['\\', d]) ∨
      (isPrintableAscii c = true ∧ escapedAsciiChar c = [c]) ∨
        escapedAsciiChar c = codePointEscape c := by
  unfold escapedAsciiChar
  split_ifs with tab return_ feed quote printable
  · exact Or.inl ⟨'t', by decide, rfl⟩
  · exact Or.inl ⟨'r', by decide, rfl⟩
  · exact Or.inl ⟨'n', by decide, rfl⟩
  · refine Or.inl ⟨c, ?_, rfl⟩
    rcases quote with rfl | rfl | rfl <;> decide
  · refine Or.inr (Or.inl ⟨?_, rfl⟩)
    simpa [isPrintableAscii, UInt32.le_iff_toNat_le] using printable
  · exact Or.inr (Or.inr rfl)

/-- Whatever the text is, its escaped form is printable. -/
theorem printableAscii_escapedAscii (text : String) : PrintableAscii (escapedAscii text) := by
  intro escape mem
  rw [escapedAscii, String.toList_ofList] at mem
  rcases List.mem_flatMap.mp mem with ⟨c, -, own⟩
  rcases escapedAsciiChar_cases c with ⟨d, fixed, spelled⟩ | ⟨printable, spelled⟩ | spelled
  · have letters : ∀ d ∈ ['t', 'r', 'n', '\'', '"', '\\'], isPrintableAscii d = true :=
      List.all_eq_true.mp (by decide)
    rw [spelled, List.mem_pair] at own
    rcases own with rfl | rfl
    · decide
    · exact letters _ fixed
  · rw [spelled, List.mem_singleton] at own
    exact own ▸ printable
  · have ends : ∀ d ∈ ['\\', 'u', '\x7b', '\x7d'], isPrintableAscii d = true :=
      List.all_eq_true.mp (by decide)
    simp only [spelled, codePointEscape, List.mem_append] at own
    rcases own with (front | digit) | last
    · exact ends _ (List.mem_append_left ['\x7d'] front)
    · exact isPrintableAscii_of_isIdentifierTail (isIdentifierTail_of_mem_hexDigits digit)
    · exact ends _ (List.mem_append_right ['\\', 'u', '\x7b'] last)

end Printable

namespace StringDescriptor

/-- The comment that is decoded from the payload of a text shows this text. -/
theorem shown_of_payload? {text : String} {payload : List UInt8}
    (encoded : payload? text = some payload) : shown payload = comment text := by
  have units : Utf16.unitsOfBytes payload = Utf16.units text := by
    rw [(payload?_eq_some_iff.mp encoded).1]
    exact Utf16.unitsOfBytes_of_readUnits? (Utf16.readUnits?_bytes text)
  have chars : Utf16.decoded (Utf16.units text) = text.toList.map some :=
    Utf16.decoded_of_readChars? (Utf16.readChars?_units text)
  simp [shown, units, chars]

theorem printableAscii_comment (text : String) : PrintableAscii (comment text) := by
  simp only [comment, printableAscii_append, printableAscii_escapedAscii]
  decide

theorem getLast?_comment (text : String) : (comment text).toList.getLast? = some '\'' := by
  rw [comment, String.toList_append, List.getLast?_append]
  rfl

end StringDescriptor

namespace StringEntry

/-- What the line of a record has behind the slashes of its comment. -/
def remark (entry : StringEntry) : String :=
  " " ++ entry.id ++ ": " ++ StringDescriptor.comment entry.text

variable {entry : StringEntry}

theorem recordLine_eq (encoded : StringDescriptor.payload? entry.text = some entry.payload) :
    entry.recordLine = "\t" ++ entry.record ++ ", //" ++ entry.remark := by
  rw [recordLine, remark, StringDescriptor.shown_of_payload? encoded]
  apply String.toList_injective
  simp

theorem printableAscii_remark (isName : IsName entry.id) : PrintableAscii entry.remark := by
  simp only [remark, printableAscii_append, isName.characters.printableAscii,
    StringDescriptor.printableAscii_comment, and_true]
  decide

theorem getLast?_remark (entry : StringEntry) : entry.remark.toList.getLast? = some '\'' := by
  rw [remark, String.toList_append, List.getLast?_append, StringDescriptor.getLast?_comment]
  rfl

/-- A record is read as one initializer. -/
theorem isWord_record (entry : StringEntry) : CList.IsWord entry.record := by
  unfold record
  split
  next => exact CList.isWord_of_isName (by decide)
  next => exact CList.isWord_literal _

theorem singleLine_record (entry : StringEntry) : SingleLine entry.record := by
  have escape (byte : UInt8) : SingleLine (byteEscape byte) :=
    singleLine_append.mpr ⟨by decide, (identifierTail_paddedHex 2 byte.toNat).singleLine⟩
  unfold record
  split
  next => decide
  next =>
    rw [SingleLine, toList_literal, List.mem_cons, List.mem_append, List.mem_flatMap]
    rintro (opening | ⟨byte, -, inside⟩ | closing)
    · exact absurd opening (by decide)
    · exact escape byte inside
    · exact absurd closing (by decide)

theorem lineOf_recordLine (encoded : StringDescriptor.payload? entry.text = some entry.payload)
    (isName : IsName entry.id) : CList.LineOf entry.recordLine entry.record := by
  rw [recordLine_eq encoded]
  apply CList.lineOf_commented entry.isWord_record (printableAscii_remark isName).singleLine
  rw [entry.getLast?_remark]
  decide

end StringEntry

theorem StringRequest.isName_symbol (request : StringRequest) : IsName request.symbol := by
  have start : IsName "STRING_INDEX_" := by decide
  have between : IdentifierTail "_" := by decide
  exact ((start.append (identifierTail_identifier request.owner)).append between).append
    (identifierTail_identifier request.property)

namespace StringTable

/-- The initializer of the language record. -/
def languageRecord : String :=
  "\"\\x04\\x03\\x09\\x04\""

/-- The names that are listed between the braces of the enumeration. -/
def listedNames (table : StringTable) : List String :=
  CList.items (unlines table.enumLines)

/-- The initializers that are listed between the braces of the array. -/
def listedRecords (table : StringTable) : List String :=
  CList.items (unlines table.recordLines)

/-- The lines with a number belong to an entry, and a C compiler gives its name the place of its
record. -/
structure EntryAt (table : StringTable) (entry : StringEntry) (number : Nat) : Prop where
  enumLine : table.enumLines[number]? = some ("\t" ++ entry.id ++ ",")
  recordLine : table.recordLines[number]? =
    some ("\t" ++ entry.record ++ ", //" ++ entry.remark)
  /-- The comment has no line feed, and a compiler does not take the next line to it. -/
  printable : PrintableAscii entry.remark
  last : entry.remark.toList.getLast? ≠ some '\\'
  value : table.listedNames.idxOf? entry.id = some number
  record : table.listedRecords[number]? = some entry.record

/-- The enumeration and the array of a table fit together line by line, and item by item. -/
structure Aligned (table : StringTable) : Prop where
  enumText : ConsistsOf (unlines table.enumLines) table.enumLines
  enumLength : table.enumLines.length = table.size + 2
  recordText : ConsistsOf (unlines table.recordLines) table.recordLines
  recordLength : table.recordLines.length = table.size + 1
  entries : ∀ index entry, table.entries[index]? = some entry → table.EntryAt entry (index + 1)
  language : table.listedNames.idxOf? "STRING_INDEX_LANGUAGE" = some 0 ∧
    table.listedRecords[0]? = some languageRecord
  count : table.listedNames.idxOf? "STRING_INDEX_COUNT" = some table.listedRecords.length

theorem languageRecord_eq : languageRecord =
    "\"" ++ String.join (([4, 3, 9, 4] : List UInt8).map StringEntry.byteEscape) ++ "\"" := by
  decide +kernel

theorem lineOf_languageRecord : CList.LineOf
    "\t\"\\x04\\x03\\x09\\x04\", // Language: English (0x0409)" languageRecord := by
  have line : "\t\"\\x04\\x03\\x09\\x04\", // Language: English (0x0409)" =
      "\t" ++ languageRecord ++ ", //" ++ " Language: English (0x0409)" := by
    decide
  rw [line]
  apply CList.lineOf_commented
  · rw [languageRecord_eq]
    exact CList.isWord_literal _
  · decide
  · decide

section Names

variable {table : StringTable}

/-- Identifiers are names, whatever strings are added. -/
theorem isName_of_after (names : ∀ id ∈ table.ids, IsName id) (requests : List StringRequest) :
    ∀ id ∈ (table.after requests).ids, IsName id := by
  induction requests generalizing table with
  | nil => exact names
  | cons request rest ih =>
      apply ih
      rcases table.afterAdding_cases request with same | ⟨-, entry, entered, grown⟩
      · rwa [same]
      · rw [grown, ids, List.map_append, List.forall_mem_append]
        refine ⟨names, ?_⟩
        rw [List.map_singleton, List.forall_mem_singleton, entered.id]
        exact request.isName_symbol

theorem isName_of_mem_enumerators (names : ∀ id ∈ table.ids, IsName id) :
    ∀ name ∈ table.enumerators, IsName name := by
  rw [enumerators, List.forall_mem_append, List.forall_mem_cons, List.forall_mem_singleton]
  exact ⟨⟨by decide, names⟩, by decide⟩

theorem listedNames_eq (names : ∀ id ∈ table.ids, IsName id) :
    table.listedNames = table.enumerators := by
  apply CList.items_unlines
  rw [enumLines_eq, List.forall₂_map_left_iff, List.forall₂_same]
  intro name mem
  apply CList.lineOf_enumerator
  exact CList.isWord_of_isName (isName_of_mem_enumerators names name mem)

theorem getElem?_enumerators {index : Nat} {entry : StringEntry}
    (found : table.entries[index]? = some entry) :
    table.enumerators[index + 1]? = some entry.id := by
  have own : table.ids[index]? = some entry.id := by simp [ids, found]
  have inside := (List.getElem?_eq_some_iff.mp own).1
  rw [enumerators, List.cons_append, List.getElem?_cons_succ, List.getElem?_append_left inside, own]

theorem getElem?_enumerators_count (table : StringTable) :
    table.enumerators[table.size + 1]? = some "STRING_INDEX_COUNT" := by
  have length : ("STRING_INDEX_LANGUAGE" :: table.ids).length = table.size + 1 := by
    simp [ids, size]
  rw [enumerators, ← length]
  exact List.getElem?_concat_length

end Names

namespace Sound

variable {table : StringTable}

theorem payload?_eq (sound : table.Sound) {entry : StringEntry} (mem : entry ∈ table.entries) :
    StringDescriptor.payload? entry.text = some entry.payload :=
  StringDescriptor.payload?_eq_some_iff.mpr ⟨sound.encoded entry mem, sound.fits entry mem⟩

theorem nodup_enumerators (sound : table.Sound) : table.enumerators.Nodup := by
  rw [enumerators, List.nodup_append, List.nodup_cons]
  refine ⟨⟨?_, sound.distinct⟩, by simp, ?_⟩
  · intro mem
    exact (sound.unreserved _ mem).1 rfl
  · intro name mem other single same
    rw [List.mem_singleton] at single
    subst other name
    rcases List.mem_cons.mp mem with language | own
    · exact absurd language (by decide)
    · exact (sound.unreserved _ own).2 rfl

variable (sound : table.Sound) (names : ∀ id ∈ table.ids, IsName id)
include sound names

theorem singleLine_recordLines : ∀ line ∈ table.recordLines, SingleLine line := by
  rw [recordLines, List.forall_mem_cons]
  refine ⟨by decide, List.forall_mem_map.mpr fun entry mem => ?_⟩
  have remark := StringEntry.printableAscii_remark (names entry.id (List.mem_map_of_mem mem))
  simp only [StringEntry.recordLine_eq (sound.payload?_eq mem), singleLine_append,
    entry.singleLine_record, remark.singleLine, and_true]
  decide

theorem listedRecords_eq : table.listedRecords =
    languageRecord :: table.entries.map StringEntry.record := by
  apply CList.items_unlines
  refine .cons lineOf_languageRecord ?_
  rw [List.forall₂_map_left_iff, List.forall₂_map_right_iff, List.forall₂_same]
  intro entry mem
  exact StringEntry.lineOf_recordLine (sound.payload?_eq mem)
    (names entry.id (List.mem_map_of_mem mem))

theorem entryAt {index : Nat} {entry : StringEntry}
    (found : table.entries[index]? = some entry) : table.EntryAt entry (index + 1) := by
  have mem := List.mem_of_getElem? found
  have name := getElem?_enumerators found
  constructor
  · rw [enumLines_eq, List.getElem?_map, name]
    rfl
  · rw [recordLines, List.getElem?_cons_succ, List.getElem?_map, found, Option.map_some,
      StringEntry.recordLine_eq (sound.payload?_eq mem)]
  · exact StringEntry.printableAscii_remark (names entry.id (List.mem_map_of_mem mem))
  · rw [entry.getLast?_remark]
    decide
  · rw [listedNames_eq names]
    exact idxOf?_of_getElem? sound.nodup_enumerators name
  · rw [sound.listedRecords_eq names, List.getElem?_cons_succ, List.getElem?_map, found]
    rfl

theorem aligned : table.Aligned := by
  have records : table.listedRecords.length = table.size + 1 := by
    simp [sound.listedRecords_eq names, size]
  constructor
  · apply consistsOf_unlines
    rw [enumLines_eq]
    refine List.forall_mem_map.mpr fun name mem => ?_
    have isName := isName_of_mem_enumerators names name mem
    simp only [singleLine_append, isName.characters.singleLine, and_true]
    decide
  · simp [enumLines, size]
  · exact consistsOf_unlines (sound.singleLine_recordLines names)
  · simp [recordLines, size]
  · exact fun index entry found => sound.entryAt names found
  · rw [listedNames_eq names, sound.listedRecords_eq names]
    exact ⟨idxOf?_of_getElem? sound.nodup_enumerators rfl, rfl⟩
  · rw [listedNames_eq names, records]
    exact idxOf?_of_getElem? sound.nodup_enumerators table.getElem?_enumerators_count

end Sound

/-- Whatever strings are added to the empty table, and whichever of them are refused, its
enumeration and its array are aligned: a C compiler numbers every string by the place of its own
record, and the count by the number of records. -/
theorem aligned_after (requests : List StringRequest) : (empty.after requests).Aligned := by
  apply (sound_empty.after requests).aligned
  exact isName_of_after (List.forall_mem_nil _) requests

/-- A text that looks like the end of its line. -/
example : (empty.after [⟨"dev0", "serial", some "\n,"⟩]).listedRecords =
    [languageRecord, "\"\\x06\\x03\\x0a\\x00\\x2c\\x00\""] := by
  decide +kernel

end StringTable

end UsbDescriptors
