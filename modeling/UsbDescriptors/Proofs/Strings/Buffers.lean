import UsbDescriptors.Proofs.Outputs.Sections
import UsbDescriptors.Proofs.Strings.Alignment

/-!
# The buffer of the string callback

The callback that serves the strings copies a record into a buffer that is declared once for all
records. It copies as many bytes as the first byte of the record says, whatever the buffer holds.
The declaration gives the buffer one code unit for the header and half as many units as the longest
text has bytes, so halving must not lose a byte. It never does: a text in UTF-16 has an even number
of bytes.

The buffer is as long as the longest record. No entry needs more of it, and neither does the language
record, which is longer than all others if every text is empty.
-/

namespace UsbDescriptors

namespace StringTable

variable {table : StringTable}

/-- The size in bytes that the declaration gives to the buffer: code units of two bytes each, one of
them for the header. -/
def bufferSize (table : StringTable) : Nat :=
  2 * (1 + table.maxTextLength / 2)

/-- A list of bytes is copied whole, and it fits into a buffer of a size. -/
structure CopiedInto (size : Nat) (bytes : List UInt8) : Prop where
  counted : bytes.head?.map UInt8.toNat = some bytes.length
  fits : bytes.length ≤ size

/-- Every record is a null pointer or fits into the buffer, and some record fills it. -/
structure FitsBuffer (table : StringTable) : Prop where
  copied : ∀ record ∈ table.listedRecords, record ≠ "NULL" →
    ∃ bytes, CLiteral.bytes? record = some bytes ∧ CopiedInto table.bufferSize bytes
  filled : ∃ record ∈ table.listedRecords,
    ∃ bytes, CLiteral.bytes? record = some bytes ∧ bytes.length = table.bufferSize

/-- The bound of a text is the least one that holds for all entries. -/
theorem maxLength_le_iff {bound : Nat} :
    table.maxLength ≤ bound ↔ ∀ entry ∈ table.entries, entry.payload.length ≤ bound := by
  have each (entries : List StringEntry) (start : Nat) :
      entries.foldl (fun longest entry => max longest entry.payload.length) start ≤ bound ↔
        start ≤ bound ∧ ∀ entry ∈ entries, entry.payload.length ≤ bound := by
    induction entries generalizing start with
    | nil => simp
    | cons entry rest ih => rw [List.foldl_cons, ih, List.forall_mem_cons, max_le_iff, and_assoc]
  rw [maxLength, each]
  simp

theorem length_le_maxLength {entry : StringEntry} (mem : entry ∈ table.entries) :
    entry.payload.length ≤ table.maxLength :=
  maxLength_le_iff.mp (Nat.le_refl _) entry mem

/-- Unless all texts are empty, some text is as long as the bound. -/
theorem exists_length_eq_maxLength (positive : 0 < table.maxLength) :
    ∃ entry ∈ table.entries, entry.payload.length = table.maxLength := by
  by_contra! none
  have smaller : table.maxLength ≤ table.maxLength - 1 := by
    refine maxLength_le_iff.mpr fun entry mem => ?_
    have bound := length_le_maxLength mem
    have different := none entry mem
    omega
  omega

theorem bytes?_languageRecord : CLiteral.bytes? languageRecord = some [4, 3, 9, 4] := by
  rw [languageRecord_eq, StringEntry.bytes?_literal]

theorem bytes?_record {entry : StringEntry} (text : entry.payload ≠ []) :
    CLiteral.bytes? entry.record = some (StringDescriptor.bytes entry.payload) := by
  have literal : entry.record = "\"" ++
      String.join ((StringDescriptor.bytes entry.payload).map StringEntry.byteEscape) ++ "\"" :=
    if_neg (by simpa using text)
  rw [literal, StringEntry.bytes?_literal]

namespace Sound

variable (sound : table.Sound)
include sound

theorem even_length {entry : StringEntry} (mem : entry ∈ table.entries) :
    entry.payload.length % 2 = 0 := by
  rw [sound.encoded entry mem, Utf16.length_bytes, Utf16.byteCount, Nat.mul_mod_right]

/-- The descriptor of an entry takes two bytes more than its text, and halving the bound of all texts
loses nothing of it. -/
theorem length_bytes_le {entry : StringEntry} (mem : entry ∈ table.entries) :
    (StringDescriptor.bytes entry.payload).length ≤ table.bufferSize := by
  have bound := length_le_maxLength mem
  have even := sound.even_length mem
  simp only [StringDescriptor.bytes, List.length_cons, bufferSize, maxTextLength]
  omega

theorem fitsBuffer (names : ∀ id ∈ table.ids, IsName id) : table.FitsBuffer := by
  have records := sound.listedRecords_eq names
  constructor
  · rw [records, List.forall_mem_cons]
    constructor
    · intro _
      refine ⟨_, bytes?_languageRecord, rfl, ?_⟩
      simp only [List.length_cons, List.length_nil, bufferSize, maxTextLength]
      omega
    · refine List.forall_mem_map.mpr fun entry mem notNull => ?_
      have text : entry.payload ≠ [] := by
        intro empty
        exact notNull (if_pos (by simp [empty]))
      have described := StringDescriptor.describes_bytes (sound.payload?_eq mem)
      exact ⟨_, bytes?_record text, described.length, sound.length_bytes_le mem⟩
  · rw [records]
    by_cases positive : 0 < table.maxLength
    · rcases exists_length_eq_maxLength positive with ⟨entry, mem, longest⟩
      have text : entry.payload ≠ [] := by
        intro empty
        simp [empty] at longest
        omega
      refine ⟨entry.record, List.mem_cons_of_mem _ (List.mem_map_of_mem mem), _,
        bytes?_record text, ?_⟩
      have even := sound.even_length mem
      simp only [StringDescriptor.bytes, List.length_cons, bufferSize, maxTextLength]
      omega
    · refine ⟨_, List.mem_cons_self, _, bytes?_languageRecord, ?_⟩
      simp only [List.length_cons, List.length_nil, bufferSize, maxTextLength]
      omega

end Sound

end StringTable

namespace Generated

/-- The source of a run holds the records of its strings in an array, and behind it the callback
with the declaration of its buffer, whose bound the header takes from the strings. -/
structure ServesStrings (generated : Generated) : Prop where
  source : ∃ before behind, generated.variables.get? "strings" = some (unlines
      (before ++ "static const char* const string_desc_arr[] = \x7b" ::
        generated.strings.recordLines ++ "\x7d;" :: behind)) ∧
    "\tstatic uint16_t desc_str[1 + STRING_DESC_MAX_LENGTH / 2];" ∈ behind ∧
    "\tmemcpy(desc_str, record, (uint8_t)record[0]);" ∈ behind
  bound : generated.variables.get? "string_max_length" =
    some (toString generated.strings.maxTextLength)

theorem servesStrings (generated : Generated) : generated.ServesStrings where
  source := ⟨bannerLines "String Descriptors", _, rfl, by decide, by decide⟩
  bound := rfl

end Generated

/-- Whatever strings are added to the empty table, the callback cannot write behind its buffer:
every record but the null pointers starts with its own length, which is at most the size of the
buffer. The size is the least one, as some record has exactly this length. -/
theorem fitsBuffer_after (requests : List StringRequest) (generated : Generated) :
    (StringTable.empty.after requests).FitsBuffer ∧
      ({ generated with strings := StringTable.empty.after requests } : Generated).ServesStrings := by
  refine ⟨?_, Generated.servesStrings _⟩
  apply (StringTable.sound_empty.after requests).fitsBuffer
  exact StringTable.isName_of_after (List.forall_mem_nil _) requests

end UsbDescriptors
