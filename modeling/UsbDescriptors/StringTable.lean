import UsbDescriptors.Fault
import UsbDescriptors.Text.Writing
import UsbDescriptors.Vocabulary

/-!
# The string table

All strings of the generated descriptors, in the order in which they are added. A string is
identified by its owner and the property that it gives; adding an identifier a second time changes
nothing. Index zero belongs to the language record, so the entries are numbered from one.
-/

namespace UsbDescriptors

structure StringEntry where
  /-- The symbol of the index, which names the owner and the property. -/
  id : String
  text : String
  /-- The text as it stands in the descriptor. -/
  payload : List UInt8
deriving DecidableEq, Repr

namespace StringEntry

/-- A byte as an escape inside a C string. -/
def byteEscape (byte : UInt8) : String :=
  "\\x" ++ paddedHex 2 byte.toNat

/-- The initializer of the entry: its descriptor as a C string, or no pointer for no text. -/
def record (entry : StringEntry) : String :=
  if entry.payload.isEmpty then "NULL"
  else "\"" ++ String.join ((StringDescriptor.bytes entry.payload).map byteEscape) ++ "\""

/-- The line that initializes the entry, with the text in a comment. -/
def recordLine (entry : StringEntry) : String :=
  "\t" ++ entry.record ++ ", // " ++ entry.id ++ ": " ++ StringDescriptor.shown entry.payload

end StringEntry

/-- The strings of a run in the order of their indices. -/
structure StringTable where
  entries : List StringEntry
deriving DecidableEq, Repr

namespace StringTable

def empty : StringTable := ⟨[]⟩

/-- The symbol of the string that gives a property of an owner. -/
def symbol (owner property : String) : String :=
  "STRING_INDEX_" ++ identifier owner ++ "_" ++ identifier property

def contains (table : StringTable) (id : String) : Bool :=
  table.entries.any fun entry => entry.id = id

/-- Adds a string and gives its symbol. A known symbol keeps its first text, whatever the new one
is, and a string without a value has an empty text. -/
def add (table : StringTable) (owner property : String) (value : Option String) :
    Except Fault (String × StringTable) :=
  let id := symbol owner property
  if table.contains id then .ok (id, table)
  else
    let text := value.getD ""
    match StringDescriptor.payload? text with
    | some payload => .ok (id, ⟨table.entries ++ [{ id, text, payload }]⟩)
    | none => .error (.stringTooLong id (Utf16.byteCount text) StringDescriptor.maxPayload)

def size (table : StringTable) : Nat :=
  table.entries.length

/-- The most bytes that the text of an entry takes. -/
def maxLength (table : StringTable) : Nat :=
  table.entries.foldl (fun longest entry => max longest entry.payload.length) 0

/-- The enumerators of the indices, between those of the language record and of the count. -/
def enumLines (table : StringTable) : List String :=
  "\tSTRING_INDEX_LANGUAGE," :: table.entries.map (fun entry => "\t" ++ entry.id ++ ",")
    ++ ["\tSTRING_INDEX_COUNT,"]

/-- The initializers of the records, that of the language record first. -/
def recordLines (table : StringTable) : List String :=
  "\t\"\\x04\\x03\\x09\\x04\", // Language: English (0x0409)"
    :: table.entries.map StringEntry.recordLine

end StringTable

end UsbDescriptors
