import UsbDescriptors.Catalog.Types
import UsbDescriptors.Document.Decoder
import UsbDescriptors.Text.Writing
import UsbDescriptors.Vocabulary

/-!
# Validation

A document is checked against a catalog as a whole, and every violation is reported. The check
walks over the value once and notes its findings in document order: violations that a member
shows by itself, and the tags that it gives to parts of the hardware. Two tags clash if they have
the same identifier; this is the only thing that one member can do to another, and it is settled
over the list of findings.
-/

namespace UsbDescriptors

open Json (Value)

/-- What the walk over a document notes. -/
inductive Finding where
  /-- A violation that a member shows by itself. -/
  | violation (violation : Violation)
  /-- A tag that is not empty. -/
  | tag (path : Path) (tag : String)
deriving DecidableEq, Repr

namespace Validation

abbrev Members := List (String × Value)

def found (path : Path) (problem : Problem) : List Finding :=
  [.violation { path, problem }]

/-- A violation at a path if a condition holds. -/
def foundIf (condition : Bool) (path : Path) (problem : Problem) : List Finding :=
  if condition then found path problem else []

/-- Every member whose name is not allowed. -/
def keys (path : Path) (members : Members) (allowed : List String) : List Finding :=
  members.flatMap fun member =>
    foundIf (!allowed.contains member.1) (path ++ [member.1]) .unexpectedKey

/-- A tag, which must not be empty and in some places must be a C identifier. -/
def tag (path : Path) (tag : String) (symbol : Bool) : List Finding :=
  if tag.isEmpty then found path .emptyTag
  else foundIf (symbol && !isCIdentifier tag) path .tagNotIdentifier ++ [.tag path tag]

def string (path : Path) (members : Members) (key : String) : List Finding :=
  match OrderedMap.get? members key with
  | none | some (.string _) => []
  | some _ => found (path ++ [key]) .notString

/-- A member that must be a string short enough for a string descriptor. -/
def descriptorString (path : Path) (members : Members) (key : String) : List Finding :=
  match OrderedMap.get? members key with
  | none => []
  | some (.string text) =>
      foundIf (StringDescriptor.payload? text).isNone (path ++ [key]) .stringTooLong
  | some _ => found (path ++ [key]) .notString

/-- A member that must be an integer between two bounds. -/
def integer (path : Path) (members : Members) (key : String) (least greatest : Nat) :
    List Finding :=
  match OrderedMap.get? members key with
  | none => []
  | some value =>
      let fits := match value.toNat? with
        | some number => least ≤ number && number ≤ greatest
        | none => false
      foundIf (!fits) (path ++ [key]) (.notInteger least greatest)

def id (path : Path) (members : Members) (key : String) : List Finding :=
  match OrderedMap.get? members key with
  | none | some (.string _) => []
  | some value =>
      let fits := match value.toNat? with
        | some number => number ≤ 65535
        | none => false
      foundIf (!fits) (path ++ [key]) .notId

def version (path : Path) (members : Members) (key : String) : List Finding :=
  match OrderedMap.get? members key with
  | none => []
  | some value =>
      let fits := (value.toBinary64?.bind BcdVersion.ofBinary64?).isSome
      foundIf (!fits) (path ++ [key]) .notVersion

def attributes (path : Path) (members : Members) (key : String) : List Finding :=
  match OrderedMap.get? members key with
  | none => []
  | some (.array items) =>
      items.zipIdx.flatMap fun item =>
        let known := match item.1 with
          | .string name => Attribute.names.contains name
          | _ => false
        foundIf (!known) (path ++ [key, toString item.2]) .unknownAttribute
  | some _ => found (path ++ [key]) .notArray

/-- The members of an object, each under its own path. -/
def members (path : Path) (members : Members)
    (check : Path → String → Value → List Finding) : List Finding :=
  members.flatMap fun member => check (path ++ [member.1]) member.1 member.2

/-- A member of an interface that must be a property of its template. -/
def property (template : Template) (name : String) (path : Path) (key : String) (value : Value) :
    List Finding :=
  if key = "template" ∨ key = "description" then []
  else
    match template.properties.get? key with
    | none => found path (.unknownProperty name)
    | some property => foundIf (!property.kind.accepts value) path (.wrongKind property.kind)

/-- An interface. Its properties are checked if its template is known; a template that is not is
reported when the interface is resolved. -/
def interface (catalog : Catalog) (path : Path) (name : String) (value : Value) :
    List Finding :=
  tag path name true ++
    match value with
    | .object content =>
        descriptorString path content "description" ++
          match OrderedMap.get? content "template" with
          | none => found path (.missingKey "template")
          | some (.string templateName) =>
              match catalog.templates.get? templateName with
              | none => []
              | some template => members path content (property template templateName)
          | some _ => found (path ++ ["template"]) .notString
    | _ => found path .notObject

def configuration (catalog : Catalog) (path : Path) (name : String) (value : Value) :
    List Finding :=
  tag path name false ++
    match value with
    | .object content =>
        keys path content ["description", "power", "attributes", "interfaces"]
          ++ descriptorString path content "description"
          ++ integer path content "power" 0 500
          ++ attributes path content "attributes"
          ++ match OrderedMap.get? content "interfaces" with
            | none => []
            | some (.object interfaces) =>
                members (path ++ ["interfaces"]) interfaces (interface catalog)
            | some _ => found (path ++ ["interfaces"]) .notObject
    | _ => found path .notObject

def device (catalog : Catalog) (path : Path) (name : String) (value : Value) : List Finding :=
  tag path name false ++
    match value with
    | .object content =>
        keys path content Device.keys
          ++ foundIf (!OrderedMap.contains content "vendor") path (.missingKey "vendor")
          ++ id path content "vendor"
          ++ id path content "pid"
          ++ string path content "class"
          ++ string path content "subclass"
          ++ string path content "protocol"
          ++ descriptorString path content "manufacturer"
          ++ descriptorString path content "product"
          ++ descriptorString path content "serial"
          ++ version path content "version"
          ++ match OrderedMap.get? content "configurations" with
            | none => found path (.missingKey "configurations")
            | some (.object configurations) =>
                foundIf configurations.isEmpty (path ++ ["configurations"]) .noConfiguration
                  ++ members (path ++ ["configurations"]) configurations (configuration catalog)
            | some _ => found (path ++ ["configurations"]) .notObject
    | _ => found path .notObject

def host (path : Path) (name : String) (value : Value) : List Finding :=
  tag path name true ++
    match value with
    | .object content => keys path content ["count"] ++ integer path content "count" 1 255
    | _ => found path .notObject

/-- A member of the root that must be an object of parts of the hardware. -/
def parts (content : Members) (key : String) (check : Path → String → Value → List Finding) :
    List Finding :=
  match OrderedMap.get? content key with
  | none => []
  | some (.object parts) => members [key] parts check
  | some _ => found [key] .notObject

/-- The findings of a whole document, in document order. -/
def findings (catalog : Catalog) : Value → List Finding
  | .object content =>
      keys [] content ["$schema", "devices", "host"]
        ++ string [] content "$schema"
        ++ parts content "devices" (device catalog)
        ++ parts content "host" host
  | _ => found [] .notObject

/-- The violations among findings, given the path of the first tag for every identifier that has
been seen. A tag whose identifier has been seen before clashes with the first one. -/
def settle : (seen : OrderedMap Path) → List Finding → List Violation
  | _, [] => []
  | seen, .violation violation :: rest => violation :: settle seen rest
  | seen, .tag path tag :: rest =>
      match seen.get? (identifier tag) with
      | some first => { path, problem := .tagClash tag first } :: settle seen rest
      | none => settle (seen ++ [(identifier tag, path)]) rest

end Validation

/-- Every violation of a document, in document order. -/
def violations (catalog : Catalog) (value : Value) : List Violation :=
  Validation.settle [] (Validation.findings catalog value)

namespace Document

/-- The document that a value denotes, if it fits a catalog. -/
def ofValue (catalog : Catalog) (value : Value) : Except Fault Document :=
  match violations catalog value with
  | [] =>
      match decode (.ofValue value) with
      | .ok document => .ok document
      | .error error => .error (.invalidDocument [{ path := [], problem := .unreadable error }])
  | found => .error (.invalidDocument found)

/-- The document that a text denotes, if it fits a catalog. -/
def read (catalog : Catalog) (text : String) : Except Fault Document :=
  match Value.read text with
  | .error error => .error (.invalidDocument [{ path := [], problem := .notJson error }])
  | .ok value => ofValue catalog value

end Document

end UsbDescriptors
