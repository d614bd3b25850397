import UsbDescriptors.Document.Violation
import UsbDescriptors.Files.FileSystem
import UsbDescriptors.Text.Writing

/-!
# Faults

Why a run of the generator fails, from reading its inputs to writing its outputs.
-/

namespace UsbDescriptors

/-- What a name in a document is looked up as. -/
inductive NameKind where
  | deviceClass
  | deviceSubclass
  | deviceProtocol
  | hostClass
deriving DecidableEq, Repr

def NameKind.describe : NameKind → String
  | .deviceClass => "device class"
  | .deviceSubclass => "device subclass"
  | .deviceProtocol => "device protocol"
  | .hostClass => "host class"

/-- What makes a catalog or a set of output templates unusable. -/
inductive CatalogProblem where
  | unreadable (error : Json.ReadError)
  /-- A template takes its reports from something that is no array property. -/
  | reportsNotArray (template property : String)
  /-- The default of a property is not of the kind of the property. -/
  | wrongDefault (template property : String) (kind : PropertyKind)
  | noOutputTemplate (name : String)
deriving DecidableEq, Repr

def CatalogProblem.message : CatalogProblem → String
  | .unreadable error => error.message
  | .reportsNotArray template property =>
      "template '" ++ template ++ "' takes reports from '" ++ property
        ++ "', which is not an array property"
  | .wrongDefault template property kind =>
      "default for '" ++ template ++ "." ++ property ++ "' must be " ++ kind.describe
  | .noOutputTemplate name => "no template named '" ++ name ++ "'"

/-- Why a run fails. -/
inductive Fault where
  /-- The document does not fit the catalog. -/
  | invalidDocument (violations : List Violation)
  | unknownTemplate (tag template : String)
  | unknownName (kind : NameKind) (name : String)
  | unknownReport (tag report : String)
  /-- An interface lacks a property that has no default. -/
  | missingProperty (tag property : String)
  /-- Two interfaces want different values for one global define. -/
  | globalConflict (name firstTag firstValue secondTag secondValue : String)
  /-- HID interfaces stand in two configurations of one device. -/
  | hidConfigurations (device first second : String)
  /-- A configuration needs more endpoint slots than a device has. -/
  | tooManyEndpoints (configuration : String) (slots limit : Nat)
  /-- The name of an endpoint field does not end in a direction. -/
  | noDirection (template field : String)
  | stringTooLong (id : String) (length limit : Nat)
  | undefinedVariable (key expression : String)
  | invalidCatalog (problem : CatalogProblem)
  | file (error : FileError)
deriving DecidableEq, Repr

def Fault.message : Fault → String
  | .invalidDocument violations =>
      "configuration is invalid:\n" ++ joined "\n" (violations.map fun found => "  " ++ found.text)
  | .unknownTemplate tag template =>
      "interface '" ++ tag ++ "' uses unknown template '" ++ template ++ "'"
  | .unknownName kind name => "unknown " ++ kind.describe ++ " '" ++ name ++ "'"
  | .unknownReport tag report =>
      "interface '" ++ tag ++ "' uses unknown HID report '" ++ report ++ "'"
  | .missingProperty tag property =>
      "interface '" ++ tag ++ "' is missing required property '" ++ property ++ "'"
  | .globalConflict name firstTag firstValue secondTag secondValue =>
      "global '" ++ name ++ "' is " ++ firstValue ++ " for '" ++ firstTag ++ "' but "
        ++ secondValue ++ " for '" ++ secondTag ++ "'"
  | .hidConfigurations device first second =>
      "device '" ++ device ++ "' has HID interfaces in configurations '" ++ first ++ "' and '"
        ++ second ++ "', only one configuration may use HID"
  | .tooManyEndpoints configuration slots limit =>
      "configuration '" ++ configuration ++ "' needs " ++ toString slots ++ " endpoints, only "
        ++ toString limit ++ " are available"
  | .noDirection template field =>
      "endpoint field '" ++ field ++ "' in template '" ++ template
        ++ "' must end with IN or OUT"
  | .stringTooLong id length limit =>
      "string " ++ id ++ " is " ++ toString length
        ++ " bytes in UTF-16, a string descriptor holds at most " ++ toString limit
  | .undefinedVariable key expression =>
      "undefined variable '" ++ key ++ "' in \"" ++ expression ++ "\""
  | .invalidCatalog problem => "invalid catalog: " ++ problem.message
  | .file error => error.message

end UsbDescriptors
