import UsbDescriptors.Json.Value
import UsbDescriptors.Text.Writing

/-!
# Compact JSON

The JSON text of a value without any white space. Strings escape the quote, the backslash and
the control characters only.
-/

namespace UsbDescriptors.Json

/-- A character as it stands inside a string. -/
def escapedChar (c : Char) : List Char :=
  if c = '"' ∨ c = '\\' then ['\\', c]
  else if c = '\x08' then ['\\', 'b']
  else if c = '\x0c' then ['\\', 'f']
  else if c = '\n' then ['\\', 'n']
  else if c = '\r' then ['\\', 'r']
  else if c = '\t' then ['\\', 't']
  else if c.toNat < 0x20 then '\\' :: 'u' :: paddedHexDigits 4 c.toNat
  else [c]

def writeString (text : String) : List Char :=
  '"' :: text.toList.flatMap escapedChar ++ ['"']

mutual

def Value.write : Value → List Char
  | .null => ['n', 'u', 'l', 'l']
  | .boolean true => ['t', 'r', 'u', 'e']
  | .boolean false => ['f', 'a', 'l', 's', 'e']
  | .number number => number.write
  | .string text => writeString text
  | .array items => '[' :: writeItems items ++ [']']
  | .object members => '\x7b' :: writeMembers members ++ ['\x7d']

/-- The items of an array with commas between them. -/
def writeItems : List Value → List Char
  | [] => []
  | item :: rest => item.write ++ writeMoreItems rest

/-- Further items of an array, each behind a comma. -/
def writeMoreItems : List Value → List Char
  | [] => []
  | item :: rest => ',' :: item.write ++ writeMoreItems rest

/-- The members of an object with commas between them. -/
def writeMembers : List (String × Value) → List Char
  | [] => []
  | (name, value) :: rest => writeString name ++ ':' :: value.write ++ writeMoreMembers rest

/-- Further members of an object, each behind a comma. -/
def writeMoreMembers : List (String × Value) → List Char
  | [] => []
  | (name, value) :: rest =>
      ',' :: writeString name ++ ':' :: value.write ++ writeMoreMembers rest

end

def Value.compact (value : Value) : String :=
  String.ofList value.write

end UsbDescriptors.Json
