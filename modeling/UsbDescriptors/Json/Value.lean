import UsbDescriptors.OrderedMap
import UsbDescriptors.Decimal.Shortest

/-!
# JSON values

The values that JSON texts denote. An integer literal of 64 bits is kept exactly, every other
number is a double. The members of an object stand in the order in which their names first
appeared.
-/

namespace UsbDescriptors.Json

inductive Number where
  /-- An integer, exact. -/
  | integer (value : Int)
  /-- A number with a fraction or an exponent, or beyond the range of the integers. -/
  | double (value : Binary64)
deriving DecidableEq, Repr

inductive Value where
  | null
  | boolean (value : Bool)
  | number (value : Number)
  | string (text : String)
  | array (items : List Value)
  | object (members : List (String × Value))
deriving Repr, Inhabited

namespace Number

/-- The number as a natural number, if it is written as one. -/
def toNat? : Number → Option Nat
  | .integer (.ofNat value) => some value
  | _ => none

/-- The number as a double: an integer goes to the nearest one. -/
def toBinary64 : Number → Binary64
  | .integer value => .ofInt value
  | .double value => value

def write : Number → List Char
  | .integer value => (toString value).toList
  | .double value => value.write

end Number

namespace Value

def members? : Value → Option (OrderedMap Value)
  | .object members => some members
  | _ => none

def items? : Value → Option (List Value)
  | .array items => some items
  | _ => none

def text? : Value → Option String
  | .string text => some text
  | _ => none

/-- The number, if the value is a natural number written without a fraction. -/
def toNat? : Value → Option Nat
  | .number literal => literal.toNat?
  | _ => none

def toBinary64? : Value → Option Binary64
  | .number literal => some literal.toBinary64
  | _ => none

end Value

end UsbDescriptors.Json
