import UsbDescriptors.Generated

/-!
# Sections

The texts that the output files are made of. Every section is a variable of the output templates.
-/

namespace UsbDescriptors

/-- The most bytes that a string takes, with room for the language record at least. -/
def StringTable.maxTextLength (strings : StringTable) : Nat :=
  max strings.maxLength 2

namespace Generated

/-- The report tables of the device that is served. -/
def served (generated : Generated) : List ReportTable :=
  generated.reports.take generated.servedReports

def configurations (generated : Generated) : List ConfigurationBlock :=
  generated.devices.flatMap DeviceBlock.configurations

/-- The device descriptors, and the callback that serves the first of them. -/
def deviceDescriptors (generated : Generated) : String :=
  match generated.devices with
  | [] => "// none\n"
  | first :: _ =>
      unlines (
        bannerLines "Device Descriptors"
          ++ generated.devices.flatMap (fun device =>
            ["// " ++ device.tag] ++ device.descriptorLines ++ [""])
          ++ ["// Invoked when received GET DEVICE DESCRIPTOR",
            "const uint8_t* tud_descriptor_device_cb(void)",
            "\x7b",
            "\treturn (const uint8_t*)&" ++ first.symbol ++ ";",
            "\x7d"])

/-- The lines of the array of the report tables that are served, none for no tables. -/
def servedArrayLines (generated : Generated) : List String :=
  if generated.served.isEmpty then []
  else
    ["static const uint8_t* const hid_reports[] = \x7b"
        ++ joined ", " (generated.served.map ReportTable.symbol) ++ "\x7d;",
      ""]

/-- The body of the callback that serves the report tables. -/
def reportCallbackLines (generated : Generated) : List String :=
  if generated.served.isEmpty then ["\t(void)inst;", "\treturn NULL;"]
  else ["\treturn (inst < TU_ARRAY_SIZE(hid_reports)) ? hid_reports[inst] : NULL;"]

/-- The HID report descriptors, and the callback that serves those of the first device. -/
def hidReports (generated : Generated) : String :=
  if generated.reports.isEmpty then "// none\n"
  else
    unlines (
      bannerLines "HID Report Descriptors"
        ++ generated.reports.flatMap (fun table => table.sourceLines ++ [""])
        ++ generated.servedArrayLines
        ++ ["// Invoked when received GET HID REPORT DESCRIPTOR",
          "const uint8_t* tud_hid_descriptor_report_cb(uint8_t inst)",
          "\x7b"]
        ++ generated.reportCallbackLines
        ++ ["\x7d"])

/-- The configuration descriptors, and the callback that serves those of the first device. -/
def configurationDescriptors (generated : Generated) : String :=
  match generated.devices with
  | [] => "// none\n"
  | first :: _ =>
      unlines (
        generated.devices.flatMap (fun device =>
            device.configurations.flatMap (fun configuration => configuration.sourceLines ++ [""])
              ++ device.configurationArrayLines ++ [""])
          ++ ["// Invoked when received GET CONFIGURATION DESCRIPTOR",
            "const uint8_t* tud_descriptor_configuration_cb(uint8_t index)",
            "\x7b",
            "\treturn (index < TU_ARRAY_SIZE(" ++ first.configurationsSymbol ++ ")) ? "
              ++ first.configurationsSymbol ++ "[index] : NULL;",
            "\x7d"])

/-- The string descriptors, and the callback that serves them. -/
def stringDescriptors (generated : Generated) : String :=
  unlines (
    bannerLines "String Descriptors"
      ++ ["static const char* const string_desc_arr[] = \x7b"]
      ++ generated.strings.recordLines
      ++ ["\x7d;",
        "",
        "// Invoked when received GET STRING DESCRIPTOR request",
        "const uint16_t* tud_descriptor_string_cb(uint8_t index, uint16_t langid)",
        "\x7b",
        "\t(void)langid;",
        "\tstatic uint16_t desc_str[1 + STRING_DESC_MAX_LENGTH / 2];",
        "",
        "\tif(index >= TU_ARRAY_SIZE(string_desc_arr) || string_desc_arr[index] == NULL) \x7b",
        "\t\treturn NULL;",
        "\t\x7d",
        "",
        "\tconst char* record = string_desc_arr[index];",
        "\tmemcpy(desc_str, record, (uint8_t)record[0]);",
        "\treturn desc_str;",
        "\x7d"])

/-- The numbering of the interfaces and endpoints of every configuration. -/
def configurationEnums (generated : Generated) : String :=
  if generated.configurations.isEmpty then "// none\n"
  else joined "\n" (generated.configurations.map fun block => unlines block.headerLines)

/-- The numbering of the HID reports of every interface. -/
def reportEnums (generated : Generated) : String :=
  if generated.reports.isEmpty then "// none\n"
  else joined "\n" (generated.reports.map fun table => unlines table.headerLines)

def flag (value : Bool) : String :=
  if value then "1" else "0"

end Generated

/-- The variables of the output templates. -/
def Generated.variables (generated : Generated) : Context :=
  [("device_descriptors", generated.deviceDescriptors),
    ("hid_reports", generated.hidReports),
    ("configurations", generated.configurationDescriptors),
    ("strings", generated.stringDescriptors),
    ("config_enums", generated.configurationEnums),
    ("report_enums", generated.reportEnums),
    ("string_enum", unlines generated.strings.enumLines),
    ("string_max_length", toString generated.strings.maxTextLength),
    ("declarations", generated.registry.declarations),
    ("definitions", generated.registry.definitions),
    ("device_enabled", Generated.flag generated.deviceEnabled),
    ("host_enabled", Generated.flag generated.hostEnabled),
    ("device_classes", generated.counts.text .device),
    ("host_classes", generated.counts.text .host),
    ("globals", generated.globals.text)]

end UsbDescriptors
