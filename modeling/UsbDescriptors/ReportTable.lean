import UsbDescriptors.Fault
import UsbDescriptors.Text.Writing

/-!
# HID report tables

A HID interface lists the reports that it sends. Its table turns them into a report descriptor
and an enumeration of the report ids, which start at one.
-/

namespace UsbDescriptors

structure Report where
  name : String
  /-- The enumerator of the report id. -/
  id : String
  /-- The macro that expands to the descriptor of the report. -/
  descriptor : String
deriving DecidableEq, Repr

structure ReportTable where
  /-- The tag of the interface. -/
  tag : String
  reports : List Report
deriving DecidableEq, Repr

namespace ReportTable

/-- The reports that have a stock descriptor. -/
def stockDescriptors : OrderedMap String :=
  [("keyboard", "TUD_HID_REPORT_DESC_KEYBOARD"),
    ("mouse", "TUD_HID_REPORT_DESC_MOUSE"),
    ("consumer", "TUD_HID_REPORT_DESC_CONSUMER"),
    ("system_control", "TUD_HID_REPORT_DESC_SYSTEM_CONTROL"),
    ("gamepad", "TUD_HID_REPORT_DESC_GAMEPAD")]

/-- The report of an interface with a given name, which must have a stock descriptor. -/
def report (tag name : String) : Except Fault Report :=
  match stockDescriptors.get? name with
  | none => .error (.unknownReport tag name)
  | some descriptor =>
      .ok { name, id := "REPORT_ID_" ++ identifier tag ++ "_" ++ identifier name, descriptor }

/-- The table of an interface with the reports of a list of names. -/
def ofNames (tag : String) (names : List String) : Except Fault ReportTable := do
  let reports ← names.mapM (report tag)
  return { tag, reports }

/-- The array that holds the report descriptor of an interface. -/
def symbolOf (tag : String) : String :=
  "desc_hid_report_" ++ identifier tag

/-- The array that holds the report descriptor of the table. -/
def symbol (table : ReportTable) : String :=
  symbolOf table.tag

def sourceLines (table : ReportTable) : List String :=
  ["// " ++ table.tag, "static const uint8_t " ++ table.symbol ++ "[] = \x7b"]
    ++ table.reports.map
      (fun report => "\t" ++ report.descriptor ++ "(HID_REPORT_ID(" ++ report.id ++ ")),")
    ++ ["\x7d;"]

/-- The enumerators of the report ids. -/
def enumerators : List Report → List String
  | [] => []
  | first :: rest => (first.id ++ " = 1") :: rest.map Report.id

/-- The lines of the enumeration of the report ids. -/
def headerLines (table : ReportTable) : List String :=
  ["// " ++ table.tag, "enum \x7b"]
    ++ (enumerators table.reports).map (fun enumerator => "\t" ++ enumerator ++ ",")
    ++ ["\x7d;"]

end ReportTable

end UsbDescriptors
