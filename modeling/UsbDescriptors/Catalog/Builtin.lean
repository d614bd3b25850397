import UsbDescriptors.Catalog.Types
import UsbDescriptors.Expression

/-!
# The built-in catalog

The templates and host classes of the TinyUSB stack that are available without a catalog of
one's own.
-/

namespace UsbDescriptors.Catalog.Builtin

open Expression (referTo)

/-- A number with a default. -/
def scalar (value : Int) : Property where
  kind := .scalar
  defaultValue := some (.number (.integer value))

/-- A number with a default that sets a define of the whole stack. -/
def globalScalar (value : Int) : Property where
  kind := .scalar
  defaultValue := some (.number (.integer value))
  isGlobal := true

def text (name expression : String) : Field := ⟨name, .text expression⟩

/-- An argument that is the property of the same name. -/
def own (name : String) : Field := text name (referTo name)

/-- An argument that is a new endpoint. -/
def endpoint (name : String) : Field := ⟨name, .endpoint⟩

def interfaceNumber : Field := own "itfnum"

/-- The string that describes the interface. -/
def description : Field := ⟨"description", .string (referTo "description")⟩

/-- A serial line. -/
def cdc : Template where
  className := "CDC"
  descriptor := "TUD_CDC_DESCRIPTOR"
  length := "TUD_CDC_DESC_LEN"
  interfaces := 2
  properties :=
    [("notify_size", scalar 8),
      ("ep_size", scalar 64),
      ("rx_bufsize", globalScalar 64),
      ("tx_bufsize", globalScalar 64)]
  fields :=
    [interfaceNumber,
      description,
      endpoint "notif_in",
      own "notify_size",
      endpoint "data_out",
      endpoint "data_in",
      own "ep_size"]

/-- A human interface device that sends reports. -/
def hid : Template where
  className := "HID"
  descriptor := "TUD_HID_DESCRIPTOR"
  length := "TUD_HID_DESC_LEN"
  reports := some "reports"
  properties :=
    [("reports", { kind := .array }),
      ("protocol", { kind := .string, defaultValue := some (.string "none") }),
      ("ep_size", scalar 16),
      ("interval", scalar 5),
      ("ep_bufsize", globalScalar 16)]
  fields :=
    [interfaceNumber,
      description,
      text "protocol" ("HID_ITF_PROTOCOL_" ++ referTo "protocol.id"),
      text "report_len" ("sizeof(desc_hid_report_" ++ referTo "tag.id" ++ ")"),
      endpoint "ep_in",
      own "ep_size",
      own "interval"]

/-- A human interface device that sends and receives reports. -/
def hidInOut : Template where
  className := "HID"
  descriptor := "TUD_HID_INOUT_DESCRIPTOR"
  length := "TUD_HID_INOUT_DESC_LEN"
  reports := some "reports"
  properties :=
    [("reports", { kind := .array }),
      ("protocol", { kind := .string, defaultValue := some (.string "none") }),
      ("ep_size", scalar 16),
      ("interval", scalar 5),
      ("ep_bufsize", globalScalar 16)]
  fields :=
    [interfaceNumber,
      description,
      text "protocol" ("HID_ITF_PROTOCOL_" ++ referTo "protocol.id"),
      text "report_len" ("sizeof(desc_hid_report_" ++ referTo "tag.id" ++ ")"),
      endpoint "ep_out",
      endpoint "ep_in",
      own "ep_size",
      own "interval"]

/-- A mass storage device. -/
def msc : Template where
  className := "MSC"
  descriptor := "TUD_MSC_DESCRIPTOR"
  length := "TUD_MSC_DESC_LEN"
  properties :=
    [("ep_size", scalar 64),
      ("ep_bufsize", globalScalar 512)]
  fields :=
    [interfaceNumber,
      description,
      endpoint "data_out",
      endpoint "data_in",
      own "ep_size"]

/-- A MIDI connection. -/
def midi : Template where
  className := "MIDI"
  descriptor := "TUD_MIDI_DESCRIPTOR"
  length := "TUD_MIDI_DESC_LEN"
  interfaces := 2
  properties :=
    [("ep_size", scalar 64),
      ("rx_bufsize", globalScalar 64),
      ("tx_bufsize", globalScalar 64)]
  fields :=
    [interfaceNumber,
      description,
      endpoint "data_out",
      endpoint "data_in",
      own "ep_size"]

/-- A vendor-specific pair of endpoints. -/
def vendor : Template where
  className := "VENDOR"
  descriptor := "TUD_VENDOR_DESCRIPTOR"
  length := "TUD_VENDOR_DESC_LEN"
  properties :=
    [("ep_size", scalar 64),
      ("rx_bufsize", globalScalar 64),
      ("tx_bufsize", globalScalar 64)]
  fields :=
    [interfaceNumber,
      description,
      endpoint "data_out",
      endpoint "data_in",
      own "ep_size"]

/-- The runtime part of firmware upgrades. -/
def dfuRuntime : Template where
  className := "DFU_RUNTIME"
  scope := some "DFU"
  descriptor := "TUD_DFU_RT_DESCRIPTOR"
  length := "TUD_DFU_RT_DESC_LEN"
  properties :=
    [("attributes", {
        kind := .array
        defaultValue := some (.array [.string "will_detach", .string "can_download"])
        mask := some "DFU_ATTR_" }),
      ("timeout", scalar 1000),
      ("transfer_size", scalar 4096)]
  fields :=
    [interfaceNumber,
      description,
      text "attributes" (referTo "attributes.mask"),
      own "timeout",
      own "transfer_size"]

end UsbDescriptors.Catalog.Builtin

namespace UsbDescriptors.Catalog

def builtin : Catalog where
  templates :=
    [("cdc", Builtin.cdc),
      ("hid", Builtin.hid),
      ("hid_inout", Builtin.hidInOut),
      ("msc", Builtin.msc),
      ("midi", Builtin.midi),
      ("vendor", Builtin.vendor),
      ("dfu_rt", Builtin.dfuRuntime)]
  hostClasses :=
    [("cdc", { className := "CDC" }),
      ("hid", { className := "HID" }),
      ("msc", { className := "MSC" }),
      ("vendor", { className := "VENDOR" })]

end UsbDescriptors.Catalog
