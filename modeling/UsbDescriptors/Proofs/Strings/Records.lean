import UsbDescriptors.Proofs.Expressions.References
import UsbDescriptors.Proofs.Strings.Histories
import UsbDescriptors.Proofs.Text.Utf16

/-!
# Records of strings

The record of an entry is an initializer in C: a null pointer, or a string literal with the bytes of
the descriptor as hexadecimal escapes. What it initializes is said here by the rules of C and of
string descriptors, without a look at how a record is written. An escape has no fixed length in C
but takes every hexadecimal digit behind it, so two digits are a byte only because a backslash or
the closing quote follows.

A payload has at most 252 bytes, as every code unit takes two and 253 would fit. The length in front
of the descriptor is therefore the true one, and what a host reads behind it is the text.
-/

namespace UsbDescriptors

namespace CLiteral

def isHexDigit (c : Char) : Bool :=
  (Json.hexDigit? c).isSome

/-- The number that is written with hexadecimal digits. -/
def hexValue (digits : List Char) : Nat :=
  digits.foldl (fun value digit => value * 16 + (Json.hexDigit? digit).getD 0) 0

/-- The bytes of hexadecimal escapes up to the closing quote, which ends the text. -/
def bytesBehind? : List Char → Option (List UInt8)
  | ['"'] => some []
  | '\\' :: 'x' :: rest =>
      let digits := rest.takeWhile isHexDigit
      if digits = [] ∨ 0xFF < hexValue digits then none
      else (bytesBehind? (rest.dropWhile isHexDigit)).map (UInt8.ofNat (hexValue digits) :: ·)
  | _ => none
termination_by chars => chars.length
decreasing_by
  have shorter : (rest.dropWhile isHexDigit).length ≤ rest.length :=
    (List.dropWhile_sublist isHexDigit).length_le
  simp only [List.length_cons]
  omega

/-- The bytes of a string literal that consists of hexadecimal escapes. -/
def bytes? (text : String) : Option (List UInt8) :=
  match text.toList with
  | '"' :: rest => bytesBehind? rest
  | _ => none

theorem bytesBehind?_quote : bytesBehind? ['"'] = some [] := by
  rw [bytesBehind?]

theorem bytesBehind?_byteEscape {byte : UInt8} {rest : List Char}
    (ends : ∀ c ∈ rest.head?, isHexDigit c = false) :
    bytesBehind? ((StringEntry.byteEscape byte).toList ++ rest) =
      (bytesBehind? rest).map (byte :: ·) := by
  have spelled : ∀ value < 256, (paddedHexDigits 2 value).all isHexDigit = true ∧
      paddedHexDigits 2 value ≠ [] ∧ hexValue (paddedHexDigits 2 value) = value := by
    decide +kernel
  rcases spelled byte.toNat byte.toNat_lt with ⟨digits, nonempty, value⟩
  have text : (StringEntry.byteEscape byte).toList =
      '\\' :: 'x' :: paddedHexDigits 2 byte.toNat := by
    simp [StringEntry.byteEscape, paddedHex]
  rw [List.all_eq_true] at digits
  have fits : ¬ 0xFF < byte.toNat := by
    have bound := byte.toNat_lt
    omega
  rw [text, List.cons_append, List.cons_append, bytesBehind?]
  simp only [Expression.takeWhile_append_of_ends digits ends,
    Expression.dropWhile_append_of_ends digits ends, value, nonempty, fits, or_self, if_false,
    UInt8.ofNat_toNat]

end CLiteral

namespace StringDescriptor

/-- The bytes are a complete string descriptor of a text: the first one is their number, the second
one is the type, and the others are the text in UTF-16. -/
structure Describes (bytes : List UInt8) (text : String) : Prop where
  length : bytes.head?.map UInt8.toNat = some bytes.length
  length_le : bytes.length ≤ 254
  type : bytes[1]? = some 3
  text : Utf16.read? (bytes.drop 2) = some text

theorem length_of_payload? {text : String} {payload : List UInt8}
    (encoded : payload? text = some payload) : payload.length ≤ 252 := by
  rcases payload?_eq_some_iff.mp encoded with ⟨rfl, fits⟩
  rw [Utf16.length_bytes] at fits ⊢
  simp only [maxPayload, Utf16.byteCount] at fits ⊢
  omega

theorem describes_bytes {text : String} {payload : List UInt8}
    (encoded : payload? text = some payload) : Describes (bytes payload) text := by
  have short := length_of_payload? encoded
  constructor
  · have fits : 2 + payload.length < UInt8.size := by
      unfold UInt8.size
      omega
    simp only [bytes, List.head?_cons, Option.map_some, List.length_cons, Option.some.injEq]
    rw [UInt8.toNat_ofNat_of_lt' fits]
    omega
  · simp only [bytes, List.length_cons]
    omega
  · rfl
  · rw [(payload?_eq_some_iff.mp encoded).1]
    exact Utf16.read?_bytes text

/-- A text has a payload if it has at most 126 code units. -/
theorem payload?_isSome_iff (text : String) :
    (payload? text).isSome = true ↔ (Utf16.units text).length ≤ 126 := by
  have isSome : (payload? text).isSome = true ↔ Utf16.byteCount text ≤ maxPayload := by
    simp [payload?, Utf16.length_bytes]
  rw [isSome]
  simp only [maxPayload, Utf16.byteCount]
  omega

end StringDescriptor

namespace StringEntry

/-- What the record of an entry initializes: nothing for an empty text, and the descriptor of any
other text. -/
structure Records (entry : StringEntry) : Prop where
  null : entry.record = "NULL" ↔ entry.text = ""
  literal : entry.text ≠ "" →
    ∃ bytes, CLiteral.bytes? entry.record = some bytes ∧
      StringDescriptor.Describes bytes entry.text

variable {entry : StringEntry}

theorem isEmpty_bytes_iff {text : String} : (Utf16.bytes text).isEmpty = true ↔ text = "" := by
  rw [List.isEmpty_iff]
  constructor
  · intro empty
    have read := Utf16.read?_bytes text
    rw [empty] at read
    exact (Option.some.inj read).symm
  · rintro rfl
    rfl

theorem toList_literal (bytes : List UInt8) :
    ("\"" ++ String.join (bytes.map byteEscape) ++ "\"").toList =
      '"' :: (bytes.flatMap (fun byte => (byteEscape byte).toList) ++ ['"']) := by
  simp [String.toList_join, List.flatMap_map]

theorem bytes?_literal (bytes : List UInt8) :
    CLiteral.bytes? ("\"" ++ String.join (bytes.map byteEscape) ++ "\"") = some bytes := by
  have notDigit : CLiteral.isHexDigit '"' = false ∧ CLiteral.isHexDigit '\\' = false := by decide
  have escapes : CLiteral.bytesBehind?
      (bytes.flatMap (fun byte => (byteEscape byte).toList) ++ ['"']) = some bytes := by
    induction bytes with
    | nil => exact CLiteral.bytesBehind?_quote
    | cons byte rest ih =>
        -- Behind an escape there is the backslash of the next one or the closing quote.
        have ends : ∀ c ∈ (rest.flatMap (fun byte => (byteEscape byte).toList) ++ ['"']).head?,
            CLiteral.isHexDigit c = false := by
          cases rest with
          | nil => simp [notDigit]
          | cons next more => simp [byteEscape, notDigit]
        rw [List.flatMap_cons, List.append_assoc, CLiteral.bytesBehind?_byteEscape ends, ih]
        rfl
  rw [CLiteral.bytes?, toList_literal]
  exact escapes

theorem records (encoded : StringDescriptor.payload? entry.text = some entry.payload) :
    entry.Records := by
  have empty : entry.payload.isEmpty = true ↔ entry.text = "" := by
    rw [(StringDescriptor.payload?_eq_some_iff.mp encoded).1]
    exact isEmpty_bytes_iff
  by_cases noText : entry.text = ""
  · have null : entry.record = "NULL" := if_pos (empty.mpr noText)
    exact ⟨iff_of_true null noText, fun text => absurd noText text⟩
  · have literal : entry.record =
        "\"" ++ String.join ((StringDescriptor.bytes entry.payload).map byteEscape) ++ "\"" :=
      if_neg fun isEmpty => noText (empty.mp isEmpty)
    have spelled := bytes?_literal (StringDescriptor.bytes entry.payload)
    rw [← literal] at spelled
    refine ⟨iff_of_false ?_ noText, fun _ => ⟨_, spelled, StringDescriptor.describes_bytes encoded⟩⟩
    intro null
    have nothing : CLiteral.bytes? "NULL" = none := rfl
    rw [null, nothing] at spelled
    cases spelled

end StringEntry

/-- A text can be encoded if it has at most 126 code units in UTF-16. Whatever strings are added to
the empty table, the record of every entry is a null pointer exactly if its text is empty, and it is
otherwise a literal whose bytes are a descriptor of exactly this text. -/
theorem records_after (requests : List StringRequest) :
    (∀ text, (StringDescriptor.payload? text).isSome = true ↔ (Utf16.units text).length ≤ 126) ∧
      ∀ entry ∈ (StringTable.empty.after requests).entries, entry.Records := by
  refine ⟨StringDescriptor.payload?_isSome_iff, ?_⟩
  intro entry mem
  have sound := StringTable.sound_empty.after requests
  apply StringEntry.records
  exact StringDescriptor.payload?_eq_some_iff.mpr ⟨sound.encoded entry mem, sound.fits entry mem⟩

/-- A string with a surrogate pair behind one without a text. -/
def pairedRequests : List StringRequest :=
  [⟨"dev0", "serial", none⟩, ⟨"dev0", "product", some "A😀"⟩]

theorem records_pairedRequests :
    ⟨"STRING_INDEX_DEV0_PRODUCT", "A😀", [0x41, 0, 0x3D, 0xD8, 0x00, 0xDE]⟩ ∈
        (StringTable.empty.after pairedRequests).entries ∧
      StringEntry.Records
        ⟨"STRING_INDEX_DEV0_PRODUCT", "A😀", [0x41, 0, 0x3D, 0xD8, 0x00, 0xDE]⟩ ∧
      StringEntry.record
          ⟨"STRING_INDEX_DEV0_PRODUCT", "A😀", [0x41, 0, 0x3D, 0xD8, 0x00, 0xDE]⟩ =
        "\"\\x08\\x03\\x41\\x00\\x3d\\xd8\\x00\\xde\"" := by
  have entered : (⟨"STRING_INDEX_DEV0_PRODUCT", "A😀", [0x41, 0, 0x3D, 0xD8, 0x00, 0xDE]⟩ :
      StringEntry) ∈ (StringTable.empty.after pairedRequests).entries := by
    decide +kernel
  exact ⟨entered, (records_after pairedRequests).2 _ entered, by decide +kernel⟩

end UsbDescriptors
