import UsbDescriptors.Text.Printable

/-!
# The pieces of generated texts

Generated files are assembled from lines, each ended by a line feed. Numbers in addresses and escapes
are written in lower-case hexadecimal digits. Names of the hardware description become parts of C
identifiers: letters are written in upper case and every character that is no ASCII letter or digit
becomes an underscore.

There are two ways to show an arbitrary text on one line. `escapedAscii` leaves printable ASCII alone
and escapes everything else, so that its result fits in a one-line comment of a C source. `quoted` is
meant for messages: it shows every visible character as it is.
-/

namespace UsbDescriptors

/-- The lines of a list, each ended by a line feed. -/
def unlines (lines : List String) : String :=
  String.join (lines.map (· ++ "\n"))

/-- The texts of a list with a separator between neighbours. -/
def joined (separator : String) (texts : List String) : String :=
  separator.intercalate texts

/-- The lines of a list, or a placeholder comment if there are none. -/
def linesOrNone (lines : List String) : String :=
  if lines.isEmpty then "// none\n" else unlines lines

/-- The digits of a number in base sixteen, without leading zeros. -/
def hexDigits (value : Nat) : List Char :=
  Nat.toDigits 16 value

/-- The digits of a number in base sixteen, filled with zeros up to a width. -/
def paddedHexDigits (width value : Nat) : List Char :=
  let digits := hexDigits value
  List.replicate (width - digits.length) '0' ++ digits

/-- A number in base sixteen, without leading zeros. -/
def hex (value : Nat) : String :=
  String.ofList (hexDigits value)

/-- A number in base sixteen, filled with zeros up to a width. -/
def paddedHex (width value : Nat) : String :=
  String.ofList (paddedHexDigits width value)

/-- The character that stands for `c` in an identifier. -/
def identifierChar (c : Char) : Char :=
  if c.isAlphanum then c.toUpper else '_'

/-- The upper-case identifier spelled after a text, one character for each of its characters. -/
def identifier (text : String) : String :=
  String.ofList (text.toList.map identifierChar)

/-- Whether a character may stand after the first place of a C identifier. -/
def isIdentifierTail (c : Char) : Bool :=
  c.isAlphanum || c = '_'

/-- Whether a text is a C identifier: letters, digits and underscores, no digit in front. -/
def isCIdentifier (text : String) : Bool :=
  match text.toList with
  | [] => false
  | first :: rest => (first.isAlpha || first = '_') && rest.all isIdentifierTail

@[simp]
theorem toList_identifier (text : String) :
    (identifier text).toList = text.toList.map identifierChar := by
  simp [identifier]

/-- A character as an escape that names its code point. -/
def codePointEscape (c : Char) : List Char :=
  ['\\', 'u', '\x7b'] ++ hexDigits c.toNat ++ ['\x7d']

/-- A character in printable ASCII: quotes and the backslash are escaped as well. -/
def escapedAsciiChar (c : Char) : List Char :=
  if c = '\t' then ['\\', 't']
  else if c = '\r' then ['\\', 'r']
  else if c = '\n' then ['\\', 'n']
  else if c = '\'' ∨ c = '"' ∨ c = '\\' then ['\\', c]
  else if 0x20 ≤ c.toNat ∧ c.toNat ≤ 0x7E then [c]
  else codePointEscape c

/-- A text in printable ASCII. -/
def escapedAscii (text : String) : String :=
  String.ofList (text.toList.flatMap escapedAsciiChar)

/-- A character as it stands in a quoted text. -/
def quotedChar (c : Char) : List Char :=
  if c = '\x00' then ['\\', '0']
  else if c = '\t' then ['\\', 't']
  else if c = '\r' then ['\\', 'r']
  else if c = '\n' then ['\\', 'n']
  else if c = '"' ∨ c = '\\' then ['\\', c]
  else if isShownAsIs c then [c]
  else codePointEscape c

/-- A text between double quotes, with visible characters shown as they are. -/
def quoted (text : String) : String :=
  String.ofList ('"' :: text.toList.flatMap quotedChar ++ ['"'])

end UsbDescriptors
