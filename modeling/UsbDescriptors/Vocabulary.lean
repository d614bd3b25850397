import UsbDescriptors.Decimal.Binary64
import UsbDescriptors.Fault
import UsbDescriptors.Text.Utf16

/-!
# The vocabulary of USB descriptors

What the bytes of descriptors stand for. An endpoint address is one byte: the direction in the
highest bit, the endpoint number below. Endpoint fields of a descriptor name their direction by their
last word, such as `data_in`. The second byte of every descriptor says what it describes. Device
versions such as 1.23 are carried as four decimal digits, two for each side of the point, each digit
in four bits. A string descriptor is its own length in one byte, its type, and a text in UTF-16: the
length counts all of these, which limits the text. The class, subclass and protocol of a device are
chosen by name, where a subclass belongs to a class and a protocol to a subclass.
-/

namespace UsbDescriptors

/-- The direction of an endpoint, seen from the host. -/
inductive Direction where
  | incoming
  | outgoing
deriving DecidableEq, Repr

namespace Direction

def name : Direction → String
  | .incoming => "IN"
  | .outgoing => "OUT"

/-- The last word of a name whose words are separated by underscores. -/
def lastWord (name : List Char) : List Char :=
  (name.reverse.takeWhile (· ≠ '_')).reverse

/-- The direction that the last word of a field name spells, in letters of either case. -/
def ofFieldName? (name : String) : Option Direction :=
  let word := (lastWord name.toList).map Char.toUpper
  if word = ['I', 'N'] then some .incoming
  else if word = ['O', 'U', 'T'] then some .outgoing
  else none

end Direction

structure EndpointAddress where
  /-- The direction, bit 7 of the address. -/
  direction : Direction
  /-- The endpoint number, the seven bits below. -/
  number : Nat
deriving DecidableEq, Repr

namespace EndpointAddress

/-- The address of a number and a direction; only seven bits of the number count. -/
def ofParts (number : Nat) (direction : Direction) : EndpointAddress :=
  { direction, number := number % 128 }

def value (address : EndpointAddress) : Nat :=
  match address.direction with
  | .incoming => 128 + address.number
  | .outgoing => address.number

def text (address : EndpointAddress) : String :=
  "0x" ++ paddedHex 2 address.value

end EndpointAddress

/-- An allocated endpoint and the symbol that names its address. -/
structure Endpoint where
  symbol : String
  address : EndpointAddress
deriving DecidableEq, Repr

/-- What a descriptor describes. -/
inductive DescriptorType where
  | device
  | configuration
  | string
  | interface
  | endpoint
  /-- Any type that the generator has no name for. -/
  | unknown
deriving DecidableEq, Repr

namespace DescriptorType

def ofNumber : Nat → DescriptorType
  | 1 => .device
  | 2 => .configuration
  | 3 => .string
  | 4 => .interface
  | 5 => .endpoint
  | _ => .unknown

def number : DescriptorType → Nat
  | .device => 1
  | .configuration => 2
  | .string => 3
  | .interface => 4
  | .endpoint => 5
  | .unknown => 9

end DescriptorType

/-- A version by its two binary-coded bytes. -/
structure BcdVersion where
  major : Nat
  minor : Nat
deriving DecidableEq, Repr

namespace BcdVersion

def zero : BcdVersion := ⟨0, 0⟩

/-- A number below one hundred as a byte of two decimal digits. -/
def encodeDigits (number : Nat) : Nat :=
  number / 10 * 16 + number % 10

/-- The hundredths of a magnitude: the product with one hundred is a double again, and it goes to
the nearest whole number, a half upwards. -/
def hundredths (units : Nat) : Nat :=
  let scaled := Binary64.mulUnits units (100 * Binary64.oneUnits)
  (2 * scaled + Binary64.oneUnits) / (2 * Binary64.oneUnits)

/-- The version that a number stands for. There is one from zero up to, but not including, the
numbers that round to one hundred. -/
def ofBinary64? (version : Binary64) : Option BcdVersion :=
  if version.negative ∧ version.units ≠ 0 then none
  else if 100 * Binary64.oneUnits ≤ version.units then none
  else
    let scaled := hundredths version.units
    if 10000 ≤ scaled then none
    else some ⟨encodeDigits (scaled / 100), encodeDigits (scaled % 100)⟩

/-- The version as a number of two bytes. -/
def value (version : BcdVersion) : Nat :=
  version.major * 256 + version.minor

def literal (version : BcdVersion) : String :=
  "0x" ++ paddedHex 4 version.value

/-- The version with a decimal point. -/
def text (version : BcdVersion) : String :=
  hex version.major ++ "." ++ paddedHex 2 version.minor

end BcdVersion

namespace StringDescriptor

/-- The most bytes that a text may take, since the length of the descriptor is one byte. -/
def maxPayload : Nat := 253

/-- The bytes of a text, if they fit in a string descriptor. -/
def payload? (text : String) : Option (List UInt8) :=
  let bytes := Utf16.bytes text
  if bytes.length ≤ maxPayload then some bytes else none

/-- The complete descriptor of a payload. -/
def bytes (payload : List UInt8) : List UInt8 :=
  UInt8.ofNat (2 + payload.length) :: UInt8.ofNat DescriptorType.string.number :: payload

/-- A text as it is shown in comments, in printable ASCII between single quotes. -/
def comment (text : String) : String :=
  "'" ++ escapedAscii text ++ "'"

/-- The text of a payload as it is shown in comments. A surrogate that stands in no pair is shown as
the replacement character, with a remark in front of the text. -/
def shown (payload : List UInt8) : String :=
  let chars := Utf16.decoded (Utf16.unitsOfBytes payload)
  let text := comment (String.ofList (chars.map fun c => c.getD '\uFFFD'))
  if chars.contains none then "invalid UTF16, partial decode: " ++ text else text

end StringDescriptor

/-- A named subclass with its protocols. -/
structure Subclass where
  symbol : String
  /-- The symbols of the protocols by their names. -/
  protocols : OrderedMap String

/-- A named device class with its subclasses. -/
structure DeviceClass where
  symbol : String
  subclasses : OrderedMap Subclass

/-- The symbols of the class, subclass and protocol codes of a device descriptor. -/
structure ClassCodes where
  deviceClass : String
  subclass : String
  protocol : String
deriving DecidableEq, Repr

namespace ClassCodes

/-- The only subclass of a class without subclasses. -/
def noSubclass : OrderedMap Subclass :=
  [("none", { symbol := "0", protocols := [("none", "0")] })]

/-- The device classes that a document may name. -/
def deviceClasses : OrderedMap DeviceClass :=
  [("none", { symbol := "TUSB_CLASS_UNSPECIFIED", subclasses := noSubclass }),
    ("misc", {
      symbol := "TUSB_CLASS_MISC"
      subclasses := noSubclass ++
        [("common", {
          symbol := "MISC_SUBCLASS_COMMON"
          protocols := [("none", "0"), ("iad", "MISC_PROTOCOL_IAD")] })] }),
    ("cdc", { symbol := "TUSB_CLASS_CDC", subclasses := noSubclass }),
    ("hid", { symbol := "TUSB_CLASS_HID", subclasses := noSubclass }),
    ("vendor", { symbol := "TUSB_CLASS_VENDOR_SPECIFIC", subclasses := noSubclass })]

/-- Looks up a name, which must be known as what it is looked up as. -/
def find {α : Type} (kind : NameKind) (known : OrderedMap α) (name : String) : Except Fault α :=
  match known.get? name with
  | some found => .ok found
  | none => .error (.unknownName kind name)

/-- The codes named by a class, a subclass of it and a protocol of that. -/
def lookup (className subclassName protocolName : String) : Except Fault ClassCodes := do
  let deviceClass ← find .deviceClass deviceClasses className
  let subclass ← find .deviceSubclass deviceClass.subclasses subclassName
  let protocol ← find .deviceProtocol subclass.protocols protocolName
  return { deviceClass := deviceClass.symbol, subclass := subclass.symbol, protocol }

end ClassCodes

end UsbDescriptors
