import UsbDescriptors.ConfigurationBlock
import UsbDescriptors.Vocabulary

/-!
# Device blocks

The generated text of one device: its descriptor and its configurations.
-/

namespace UsbDescriptors

/-- The symbols of the strings of a device. -/
structure DeviceStrings where
  manufacturer : String
  product : String
  serial : String
deriving DecidableEq, Repr

/-- A device as it is generated. -/
structure DeviceBlock where
  tag : String
  codes : ClassCodes
  /-- The vendor id as it stands in the descriptor. -/
  vendorId : String
  /-- The product id as it stands in the descriptor. -/
  productId : String
  version : BcdVersion
  strings : DeviceStrings
  configurations : List ConfigurationBlock
deriving DecidableEq, Repr

namespace DeviceBlock

/-- The block of a device of a document. -/
def ofDevice (tag : String) (device : Device) (codes : ClassCodes) (strings : DeviceStrings)
    (configurations : List ConfigurationBlock) : DeviceBlock where
  tag
  codes
  vendorId := device.vendor.symbol
  productId := (device.productId.map UsbId.symbol).getD "USB_PID"
  version := device.bcdVersion
  strings
  configurations

def symbol (block : DeviceBlock) : String :=
  "desc_device_" ++ identifier block.tag

/-- The array that lists the descriptors of the configurations. -/
def configurationsSymbol (block : DeviceBlock) : String :=
  "desc_configurations_" ++ identifier block.tag

/-- The members of the descriptor with their values. -/
def members (block : DeviceBlock) : List (String × String) :=
  [("bLength", "sizeof(tusb_desc_device_t)"),
    ("bDescriptorType", "TUSB_DESC_DEVICE"),
    ("bcdUSB", "USB_BCD"),
    ("bDeviceClass", block.codes.deviceClass),
    ("bDeviceSubClass", block.codes.subclass),
    ("bDeviceProtocol", block.codes.protocol),
    ("bMaxPacketSize0", "CFG_TUD_ENDPOINT0_SIZE"),
    ("idVendor", block.vendorId),
    ("idProduct", block.productId),
    ("bcdDevice", block.version.literal),
    ("iManufacturer", block.strings.manufacturer),
    ("iProduct", block.strings.product),
    ("iSerialNumber", block.strings.serial),
    ("bNumConfigurations", toString block.configurations.length)]

/-- A name filled with blanks up to a width. -/
def padded (width : Nat) (name : String) : String :=
  name ++ String.ofList (List.replicate (width - name.length) ' ')

def memberLine (member : String × String) : String :=
  "\t." ++ padded 18 member.1 ++ " = " ++ member.2 ++ ","

def descriptorLines (block : DeviceBlock) : List String :=
  ["static const tusb_desc_device_t " ++ block.symbol ++ " = \x7b"]
    ++ block.members.map memberLine ++ ["\x7d;"]

def configurationArrayLines (block : DeviceBlock) : List String :=
  ["static const uint8_t* const " ++ block.configurationsSymbol ++ "[] = \x7b"]
    ++ block.configurations.map (fun configuration => "\t" ++ configuration.symbol ++ ",")
    ++ ["\x7d;"]

end DeviceBlock

end UsbDescriptors
