import UsbDescriptors.Json.Error

/-!
# Violations

What can be wrong with a hardware description, and where. Every violation names the member of
the document that it is about by the names of the members on the way to it. A property of an
interface has to have a value of the kind that its template says.
-/

namespace UsbDescriptors

/-- The shape of the values that a template property accepts. -/
inductive PropertyKind where
  | string
  | array
  /-- A number or a truth value. -/
  | scalar
deriving DecidableEq, Repr

namespace PropertyKind

def accepts : PropertyKind → Json.Value → Bool
  | .string, .string _ => true
  | .array, .array _ => true
  | .scalar, .number _ => true
  | .scalar, .boolean _ => true
  | _, _ => false

def describe : PropertyKind → String
  | .string => "a string"
  | .array => "an array"
  | .scalar => "a number or boolean"

end PropertyKind

/-- The names on the way from the root of a document to one of its members. -/
abbrev Path := List String

/-- A path with its names separated by slashes. -/
def Path.text (path : Path) : String :=
  "/".intercalate path

/-- What is wrong with a member of a document. -/
inductive Problem where
  | notJson (error : Json.ReadError)
  | unreadable (error : Json.ReadError)
  | notObject
  | notArray
  | notString
  | unexpectedKey
  | missingKey (name : String)
  | emptyTag
  | tagNotIdentifier
  /-- Another member, named first, has a tag with the same identifier. -/
  | tagClash (tag : String) (first : Path)
  | stringTooLong
  | notInteger (least greatest : Nat)
  | notId
  | notVersion
  | noConfiguration
  | unknownAttribute
  | unknownProperty (template : String)
  | wrongKind (kind : PropertyKind)
deriving DecidableEq, Repr

def Problem.message : Problem → String
  | .notJson error => "not valid JSON: " ++ error.message
  | .unreadable error => error.message
  | .notObject => "must be an object"
  | .notArray => "must be an array"
  | .notString => "must be a string"
  | .unexpectedKey => "unexpected key"
  | .missingKey name => "missing required key '" ++ name ++ "'"
  | .emptyTag => "tag must not be empty"
  | .tagNotIdentifier => "tag must be a C identifier"
  | .tagClash tag first => "tag '" ++ tag ++ "' clashes with '" ++ first.text ++ "'"
  | .stringTooLong => "must be at most 253 bytes in UTF-16 (126 characters)"
  | .notInteger least greatest =>
      "must be an integer from " ++ toString least ++ " to " ++ toString greatest
  | .notId => "must be a string or an integer from 0 to 65535"
  | .notVersion => "must be a number at least 0 and below 100"
  | .noConfiguration => "at least one configuration is required"
  | .unknownAttribute => "must be one of [\"remote_wakeup\", \"self_powered\"]"
  | .unknownProperty template => "unknown property for template '" ++ template ++ "'"
  | .wrongKind kind => "must be " ++ kind.describe

structure Violation where
  path : Path
  problem : Problem
deriving DecidableEq, Repr

/-- A violation as one line, with the root named in words. -/
def Violation.text (violation : Violation) : String :=
  let path := violation.path.text
  (if path.isEmpty then "(root)" else path) ++ ": " ++ violation.problem.message

end UsbDescriptors
