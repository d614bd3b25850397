import UsbDescriptors.Catalog.Types
import UsbDescriptors.Context
import UsbDescriptors.Document.Types

/-!
# Resolved interfaces

An interface of a document together with its template. Every property of the template has a value
now: the one that the document gives, or else the default.
-/

namespace UsbDescriptors

/-- An interface with a value for every property of its template. -/
structure ResolvedInterface where
  tag : String
  templateName : String
  template : Template
  description : Option String
  /-- The values in the order in which the template declares the properties. -/
  properties : OrderedMap Json.Value
deriving Repr

/-- The symbol of the first interface number of an interface. -/
def interfaceSymbol (tag : String) : String :=
  "ITF_NUM_" ++ identifier tag

namespace ResolvedInterface

def propertyValue (tag : String) (given : OrderedMap Json.Value) (name : String)
    (property : Property) : Except Fault Json.Value :=
  match given.get? name <|> property.defaultValue with
  | some value => .ok value
  | none => .error (.missingProperty tag name)

/-- The values of the properties of an interface, in the order of their declaration. -/
def propertyValues (tag : String) (given : OrderedMap Json.Value) :
    OrderedMap Property → Except Fault (OrderedMap Json.Value)
  | [] => .ok []
  | (name, property) :: rest => do
      let value ← propertyValue tag given name property
      let values ← propertyValues tag given rest
      return (name, value) :: values

/-- Joins an interface with its template. -/
def resolve (catalog : Catalog) (tag : String) (interface : Interface) :
    Except Fault ResolvedInterface := do
  let template ← catalog.template tag interface.template
  let properties ← propertyValues tag interface.properties template.properties
  return {
    tag, template, properties
    templateName := interface.template
    description := interface.description }

/-- The symbols of the interface numbers that an interface takes, at least one. -/
def interfaceNumbers (interface : ResolvedInterface) : List String :=
  (List.range (max interface.template.interfaces 1)).map fun index =>
    if index = 0 then interfaceSymbol interface.tag
    else interfaceSymbol interface.tag ++ "_" ++ toString index

/-- The names of the HID reports of an interface whose template lists reports. -/
def reportNames (interface : ResolvedInterface) : List String :=
  match interface.template.reports with
  | none => []
  | some name =>
      match interface.properties.get? name with
      | some (.array items) => items.map Json.Value.plainText
      | _ => []

/-- The variables that the expressions of an interface can refer to. -/
def context (interface : ResolvedInterface) (device configuration : String) : Context :=
  interface.properties.foldl
    (fun context property =>
      let mask := (interface.template.properties.get? property.1).bind Property.mask
      Context.insertProperty context property.1 property.2 mask)
    (OrderedMap.ofList
      [("tag", interface.tag),
        ("tag.id", identifier interface.tag),
        ("description", interface.description.getD ""),
        ("itfnum", interfaceSymbol interface.tag),
        ("device", device),
        ("config", configuration)])

end ResolvedInterface

end UsbDescriptors
