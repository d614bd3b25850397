import UsbDescriptors.Json.Value
import UsbDescriptors.Vocabulary

/-!
# Documents

A document describes the USB hardware of a firmware: devices with their configurations and
interfaces, and the classes that it supports as a host. Members that a document may leave out
have defaults.
-/

namespace UsbDescriptors

/-- A vendor or product id: a number, or a symbol or literal of C. -/
inductive UsbId where
  | number (value : Nat)
  | text (symbol : String)
deriving DecidableEq, Repr

/-- The id as it stands in the device descriptor. -/
def UsbId.symbol : UsbId → String
  | .number value => "0x" ++ paddedHex 4 value
  | .text symbol => symbol

inductive Attribute where
  | remoteWakeup
  | selfPowered
deriving DecidableEq, Repr

namespace Attribute

/-- The attributes by their names in a document. -/
def names : OrderedMap Attribute :=
  [("remote_wakeup", .remoteWakeup), ("self_powered", .selfPowered)]

def symbol : Attribute → String
  | .remoteWakeup => "TUSB_DESC_CONFIG_ATT_REMOTE_WAKEUP"
  | .selfPowered => "TUSB_DESC_CONFIG_ATT_SELF_POWERED"

end Attribute

/-- An interface: a template and values for its properties. -/
structure Interface where
  template : String
  description : Option String := none
  /-- All members but the template and the description. -/
  properties : OrderedMap Json.Value := []
deriving Repr

structure Configuration where
  description : Option String := none
  /-- The most power that is drawn from the bus, in milliamperes. -/
  power : Nat := 100
  attributes : List Attribute := []
  interfaces : OrderedMap Interface := []
deriving Repr

structure Device where
  vendor : UsbId
  /-- The product id; the stack chooses one if there is none. -/
  productId : Option UsbId := none
  className : String := "misc"
  subclass : String := "common"
  protocol : String := "iad"
  version : Binary64 := .ofNat 1
  manufacturer : String := ""
  product : String := ""
  serial : String := ""
  configurations : OrderedMap Configuration
deriving Repr

/-- The version of a device as it stands in its descriptor, zero if it is out of range. -/
def Device.bcdVersion (device : Device) : BcdVersion :=
  (BcdVersion.ofBinary64? device.version).getD .zero

/-- What a document says about a host class. -/
structure HostSection where
  /-- The number of instances. -/
  count : Nat := 1
deriving Repr

/-- A hardware description. -/
structure Document where
  /-- The schema that the document says it follows. -/
  schema : Option String := none
  devices : OrderedMap Device := []
  hosts : OrderedMap HostSection := []
deriving Repr

end UsbDescriptors
