import UsbDescriptors.Fault

/-!
# Catalogs

A catalog holds a template for every kind of interface that a device may have, and the classes
that a host may support. A template says which properties an interface has and how the arguments
of its descriptor macro are made from them.
-/

namespace UsbDescriptors

/-- A property of the interfaces of a template. -/
structure Property where
  kind : PropertyKind
  /-- The value of an interface that does not give the property. Without it the property has to
  be given. -/
  defaultValue : Option Json.Value := none
  /-- Whether the value sets a define of the whole stack. -/
  isGlobal : Bool := false
  /-- What stands in front of every flag in the mask of an array. -/
  mask : Option String := none
deriving Repr

/-- Where an argument of a descriptor macro comes from. -/
inductive FieldSource where
  /-- A value that is the same for all interfaces. -/
  | literal (value : Json.Value)
  /-- A newly allocated endpoint. -/
  | endpoint
  /-- A string, or a list of strings, for the string table. -/
  | string (expression : String)
  /-- A text. -/
  | text (expression : String)
deriving Repr

/-- An argument of a descriptor macro. -/
structure Field where
  name : String
  source : FieldSource
deriving Repr

/-- A kind of interface. -/
structure Template where
  /-- The class of the stack, which names its defines. -/
  className : String
  /-- The C++ namespace of the runtime class, if it differs from the class. -/
  scope : Option String := none
  /-- The macro that expands to the descriptor of an interface. -/
  descriptor : String
  /-- The length of the descriptor in bytes. -/
  length : String
  /-- How many interface numbers an interface takes. -/
  interfaces : Nat := 1
  /-- The property that lists HID reports. -/
  reports : Option String := none
  properties : OrderedMap Property := []
  fields : List Field
deriving Repr

/-- The C++ namespace of the runtime class. -/
def Template.scopeName (template : Template) : String :=
  template.scope.getD template.className

/-- A class that a host supports. -/
structure HostClass where
  className : String
  /-- The C++ namespace of the runtime class, if it differs from the class. -/
  scope : Option String := none
deriving Repr, DecidableEq

/-- The C++ namespace of the runtime class. -/
def HostClass.scopeName (host : HostClass) : String :=
  host.scope.getD host.className

/-- Everything that a document can refer to. -/
structure Catalog where
  templates : OrderedMap Template
  hostClasses : OrderedMap HostClass := []
deriving Repr

namespace Catalog

def template (catalog : Catalog) (tag name : String) : Except Fault Template :=
  match catalog.templates.get? name with
  | some template => .ok template
  | none => .error (.unknownTemplate tag name)

def hostClass (catalog : Catalog) (name : String) : Except Fault HostClass :=
  match catalog.hostClasses.get? name with
  | some host => .ok host
  | none => .error (.unknownName .hostClass name)

/-- What is wrong with the property that lists the reports of a template. -/
def reportsProblem? (name : String) (template : Template) : Option CatalogProblem :=
  match template.reports with
  | none => none
  | some reports =>
      match template.properties.get? reports with
      | some { kind := .array, .. } => none
      | _ => some (.reportsNotArray name reports)

/-- What is wrong with the default of a property. -/
def defaultProblem? (template name : String) (property : Property) : Option CatalogProblem :=
  match property.defaultValue with
  | none => none
  | some value =>
      if property.kind.accepts value then none
      else some (.wrongDefault template name property.kind)

def templateProblem? (name : String) (template : Template) : Option CatalogProblem :=
  reportsProblem? name template <|>
    template.properties.findSome? fun property => defaultProblem? name property.1 property.2

/-- The first thing that is wrong with a catalog. -/
def problem? (catalog : Catalog) : Option CatalogProblem :=
  catalog.templates.findSome? fun template => templateProblem? template.1 template.2

end Catalog

end UsbDescriptors
