import UsbDescriptors.Expression
import UsbDescriptors.Json.Printer
import UsbDescriptors.Json.Reader
import UsbDescriptors.Text.Writing

/-!
# Contexts

How JSON values become variables of an expression. A value appears as its plain text. Strings
and arrays come with further variables derived from them, whose names extend the name of the
value.
-/

namespace UsbDescriptors

/-- A value as it appears in generated text: a string without quotes, nothing for null, and
everything else as compact JSON. -/
def Json.Value.plainText : Json.Value → String
  | .string text => text
  | .null => ""
  | value => value.compact

/-- The items of a text that is a JSON array, as they appear in generated text. -/
def listItems? (text : String) : Option (List String) :=
  match Json.Value.read text with
  | .ok (.array items) => some (items.map Json.Value.plainText)
  | _ => none

/-- The identifiers spelled after the items of an array. -/
def itemIdentifiers (items : List Json.Value) : List String :=
  items.map fun item => identifier item.plainText

/-- The flags of an array: its identifiers behind a common start, combined bitwise. -/
def flagMask (start : String) (items : List Json.Value) : String :=
  if items.isEmpty then "0"
  else joined " | " ((itemIdentifiers items).map fun id => start ++ id)

namespace Context

/-- The variables that a property defines besides its own name. -/
def derived (name : String) (mask : Option String) : Json.Value → List (String × String)
  | .string text =>
      [(name ++ ".id", identifier text), (name ++ ".length", toString text.length)]
  | .array items =>
      [(name ++ ".id", joined "_" (itemIdentifiers items)),
        (name ++ ".length", toString items.length),
        (name ++ ".mask", flagMask (mask.getD "") items)]
  | _ => []

/-- Defines a property and the variables derived from it. -/
def insertProperty (context : Context) (name : String) (value : Json.Value)
    (mask : Option String) : Context :=
  ((name, value.plainText) :: derived name mask value).foldl
    (fun defined entry => OrderedMap.insert defined entry.1 entry.2) context

end Context

end UsbDescriptors
