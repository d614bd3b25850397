import UsbDescriptors.Expression
import UsbDescriptors.Text.Writing

/-!
# Output templates

An output file is an expression whose variables are the sections of a run. There is a built-in
template for every output file; a directory of one's own may replace some of them.
-/

namespace UsbDescriptors

/-- The texts of the output files before substitution, by the names of the files. -/
abbrev OutputTemplates := OrderedMap String

namespace OutputTemplates

open Expression (referTo)

/-- The source of the descriptors. -/
def descriptorSource : String :=
  unlines
    ["/*",
      " * usb_descriptors.c",
      " *",
      " * This file is auto-generated. Please do not edit!",
      " *",
      " */",
      "",
      "#include <tusb.h>",
      "#include \"usb_descriptors.h\"",
      "",
      "#if CFG_TUD_ENABLED",
      "",
      "/* A combination of interfaces must have a unique product id, since PC will save device driver after the first plug.",
      " * Same VID/PID with different interface e.g MSC (first), then CDC (later) will possibly cause system error on PC.",
      " *",
      " * Auto ProductID layout's Bitmap:",
      " *   [MSB]   VENDOR | MIDI | HID | MSC | CDC   [LSB]",
      " */",
      "#define _PID_MAP(itf, n) ((CFG_TUD_##itf) << (n))",
      "#define USB_PID                                                                                                        \\",
      "\t(0x4000 | _PID_MAP(CDC, 0) | _PID_MAP(MSC, 1) | _PID_MAP(HID, 2) | _PID_MAP(MIDI, 3) | _PID_MAP(VENDOR, 4))",
      "",
      "#define USB_BCD 0x0200",
      "",
      referTo "device_descriptors",
      referTo "hid_reports",
      referTo "configurations",
      referTo "strings",
      "#endif // CFG_TUD_ENABLED"]

/-- The header that numbers interfaces, endpoints, reports and strings. -/
def descriptorHeader : String :=
  unlines
    ["/*",
      " * usb_descriptors.h",
      " *",
      " * This file is auto-generated. Please do not edit!",
      " *",
      " */",
      "",
      "#pragma once",
      "",
      "#include <stdint.h>",
      "",
      "//--------------------------------------------------------------------+",
      "// Interface and endpoint numbers",
      "//--------------------------------------------------------------------+",
      "",
      referTo "config_enums",
      "//--------------------------------------------------------------------+",
      "// HID report identifiers",
      "//--------------------------------------------------------------------+",
      "",
      referTo "report_enums",
      "//--------------------------------------------------------------------+",
      "// String indices",
      "//--------------------------------------------------------------------+",
      "",
      "enum \x7b",
      referTo "string_enum" ++ "\x7d;",
      "",
      "#define STRING_DESC_MAX_LENGTH " ++ referTo "string_max_length"]

/-- The header that declares the runtime objects. -/
def classHeader : String :=
  unlines
    ["/*",
      " * usb_classdefs.h",
      " *",
      " * This file is auto-generated. Please do not edit!",
      " *",
      " */",
      "",
      "#pragma once",
      "",
      "#include <USB.h>",
      "",
      "namespace USB",
      "\x7b",
      referTo "declarations",
      "\x7d // namespace USB"]

/-- The source that defines the runtime objects. -/
def classSource : String :=
  unlines
    ["/*",
      " * usb_classdefs.cpp",
      " *",
      " * This file is auto-generated. Please do not edit!",
      " *",
      " */",
      "",
      "#include \"usb_classdefs.h\"",
      "",
      "namespace USB",
      "\x7b",
      referTo "definitions",
      "\x7d // namespace USB"]

/-- The configuration of the stack. -/
def stackConfiguration : String :=
  unlines
    ["/*",
      " * tusb_config.h",
      " *",
      " * This file is auto-generated. Please do not edit!",
      " *",
      " */",
      "",
      "#pragma once",
      "",
      "#define CFG_TUD_ENABLED " ++ referTo "device_enabled",
      "#define CFG_TUH_ENABLED " ++ referTo "host_enabled",
      "",
      "#if CFG_TUD_ENABLED",
      "#define CFG_TUSB_RHPORT0_MODE (OPT_MODE_DEVICE | OPT_MODE_FULL_SPEED)",
      "#elif CFG_TUH_ENABLED",
      "#define CFG_TUSB_RHPORT0_MODE (OPT_MODE_HOST | OPT_MODE_FULL_SPEED)",
      "#endif",
      "",
      "#define CFG_TUSB_OS OPT_OS_NONE",
      "",
      "/* USB DMA on some MCUs can only access a specific SRAM region with restriction on alignment.",
      " * Tinyusb use follows macros to declare transferring memory so that they can be put",
      " * into those specific section.",
      " */",
      "#define CFG_TUSB_MEM_SECTION",
      "#define CFG_TUSB_MEM_ALIGN __attribute__((aligned(4)))",
      "",
      "//--------------------------------------------------------------------",
      "// DEVICE CONFIGURATION",
      "//--------------------------------------------------------------------",
      "",
      "#define CFG_TUD_ENDPOINT0_SIZE 64",
      "",
      "//------------- CLASS -------------//",
      referTo "device_classes",
      "//------------- SETTINGS -------------//",
      referTo "globals",
      "//--------------------------------------------------------------------",
      "// HOST CONFIGURATION",
      "//--------------------------------------------------------------------",
      "",
      "// Size of buffer to hold descriptors and other data used for enumeration",
      "#define CFG_TUH_ENUMERATION_BUFSIZE 256",
      "",
      "// max device support (excluding hub device)",
      "#define CFG_TUH_DEVICE_MAX (CFG_TUH_HUB ? 4 : 1) // hub typically has 4 ports",
      "",
      "//------------- CLASS -------------//",
      referTo "host_classes",
      "//------------- HID -------------//",
      "#define CFG_TUH_HID_EPIN_BUFSIZE 64",
      "#define CFG_TUH_HID_EPOUT_BUFSIZE 64",
      "",
      "//------------- CDC -------------//",
      "",
      "// Set Line Control state on enumeration/mounted:",
      "// DTR ( bit 0), RTS (bit 1)",
      "#define CFG_TUH_CDC_LINE_CONTROL_ON_ENUM 0x03",
      "",
      "// Set Line Coding on enumeration/mounted, value for cdc_line_coding_t",
      "// bit rate = 115200, 1 stop bit, no parity, 8 bit data width",
      "#define CFG_TUH_CDC_LINE_CODING_ON_ENUM \x7b115200, CDC_LINE_CONDING_STOP_BITS_1, CDC_LINE_CODING_PARITY_NONE, 8\x7d"]

/-- The built-in templates, in the order in which the files are generated. -/
def builtin : OutputTemplates :=
  [("usb_descriptors.c", descriptorSource),
    ("usb_descriptors.h", descriptorHeader),
    ("usb_classdefs.h", classHeader),
    ("usb_classdefs.cpp", classSource),
    ("tusb_config.h", stackConfiguration)]

def render (templates : OutputTemplates) (name : String) (context : Context) :
    Except Fault String :=
  match templates.get? name with
  | none => .error (.invalidCatalog (.noOutputTemplate name))
  | some text => substitute context text

def renderEach (templates : OutputTemplates) (context : Context) :
    List String → Except Fault (OrderedMap String)
  | [] => .ok []
  | name :: rest => do
      let text ← templates.render name context
      let texts ← templates.renderEach context rest
      return (name, text) :: texts

/-- The texts of all output files, by their names. -/
def renderAll (templates : OutputTemplates) (context : Context) :
    Except Fault (OrderedMap String) :=
  templates.renderEach context builtin.keys

end OutputTemplates

end UsbDescriptors
