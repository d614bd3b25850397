import UsbDescriptors.Catalog.Types
import UsbDescriptors.Json.Decoder

/-!
# Reading catalogs

A catalog is read from JSON and checked for consistency: reports are listed by an array property,
and the default of a property is of its kind.
-/

namespace UsbDescriptors

open Json (Decoder Node ReadError)

/-- The kinds of properties by their names. -/
def PropertyKind.names : OrderedMap PropertyKind :=
  [("string", .string), ("array", .array), ("scalar", .scalar)]

/-- A property of a template while it is read. -/
structure PropertyDraft where
  kind : Option PropertyKind := none
  defaultValue : Option Json.Value := none
  isGlobal : Bool := false
  mask : Option String := none

namespace PropertyDraft

def field (name : String) (node : Node) (draft : PropertyDraft) :
    Except ReadError PropertyDraft :=
  match name with
  | "type" => do return { draft with kind := some (← Decoder.variant PropertyKind.names node) }
  | "default" =>
      do return { draft with defaultValue := ← Decoder.optional Json.decodeValue node }
  | "global" => do return { draft with isGlobal := ← Decoder.boolean node }
  | _ => do return { draft with mask := ← Decoder.optional Decoder.string node }

def finish (draft : PropertyDraft) : Except String Property := do
  let kind ← Decoder.required "type" draft.kind
  return {
    kind
    defaultValue := draft.defaultValue
    isGlobal := draft.isGlobal
    mask := draft.mask }

end PropertyDraft

def Property.decode : Decoder Property :=
  Decoder.record "Property" ["type", "default", "global", "mask"] {} PropertyDraft.field
    PropertyDraft.finish

/-- The source that a value stands for: two kinds of strings are marked by their first
characters, and what is no string is passed on. -/
def FieldSource.ofValue : Json.Value → FieldSource
  | .string written =>
      if written = "#endpoint" then .endpoint
      else
        match written.toList with
        | '@' :: expression => .string (String.ofList expression)
        | _ => .text written
  | value => .literal value

def Field.decode : Decoder Field := fun node => do
  let (name, value) ← Decoder.pair Decoder.string Json.decodeValue node
  return { name, source := .ofValue value }

structure TemplateDraft where
  className : Option String := none
  scope : Option String := none
  descriptor : Option String := none
  length : Option String := none
  interfaces : Nat := 1
  reports : Option String := none
  properties : OrderedMap Property := []
  fields : Option (List Field) := none

namespace TemplateDraft

def field (name : String) (node : Node) (draft : TemplateDraft) :
    Except ReadError TemplateDraft :=
  match name with
  | "class" => do return { draft with className := some (← Decoder.string node) }
  | "namespace" => do return { draft with scope := ← Decoder.optional Decoder.string node }
  | "descriptor" => do return { draft with descriptor := some (← Decoder.string node) }
  | "length" => do return { draft with length := some (← Decoder.string node) }
  | "interfaces" => do return { draft with interfaces := ← Decoder.byte node }
  | "reports" => do return { draft with reports := ← Decoder.optional Decoder.string node }
  | "properties" => do return { draft with properties := ← Decoder.map Property.decode node }
  | _ => do return { draft with fields := some (← Decoder.list Field.decode node) }

def finish (draft : TemplateDraft) : Except String Template := do
  let className ← Decoder.required "class" draft.className
  let descriptor ← Decoder.required "descriptor" draft.descriptor
  let length ← Decoder.required "length" draft.length
  let fields ← Decoder.required "fields" draft.fields
  return {
    className, descriptor, length, fields
    scope := draft.scope
    interfaces := draft.interfaces
    reports := draft.reports
    properties := draft.properties }

end TemplateDraft

def Template.decode : Decoder Template :=
  Decoder.record "Template"
    ["class", "namespace", "descriptor", "length", "interfaces", "reports", "properties", "fields"]
    {} TemplateDraft.field TemplateDraft.finish

structure HostClassDraft where
  className : Option String := none
  scope : Option String := none

namespace HostClassDraft

def field (name : String) (node : Node) (draft : HostClassDraft) :
    Except ReadError HostClassDraft :=
  match name with
  | "class" => do return { draft with className := some (← Decoder.string node) }
  | _ => do return { draft with scope := ← Decoder.optional Decoder.string node }

def finish (draft : HostClassDraft) : Except String HostClass := do
  let className ← Decoder.required "class" draft.className
  return { className, scope := draft.scope }

end HostClassDraft

def HostClass.decode : Decoder HostClass :=
  Decoder.record "HostClass" ["class", "namespace"] {} HostClassDraft.field HostClassDraft.finish

structure CatalogDraft where
  templates : Option (OrderedMap Template) := none
  hostClasses : OrderedMap HostClass := []

namespace CatalogDraft

def field (name : String) (node : Node) (draft : CatalogDraft) : Except ReadError CatalogDraft :=
  match name with
  | "templates" => do return { draft with templates := some (← Decoder.map Template.decode node) }
  | _ => do return { draft with hostClasses := ← Decoder.map HostClass.decode node }

def finish (draft : CatalogDraft) : Except String Catalog := do
  let templates ← Decoder.required "templates" draft.templates
  return { templates, hostClasses := draft.hostClasses }

end CatalogDraft

namespace Catalog

/-- Reads a catalog, consistent or not. -/
def decode : Decoder Catalog :=
  Decoder.record "Catalog" ["templates", "host"] {} CatalogDraft.field CatalogDraft.finish

/-- The catalog that a text denotes, if it is consistent. -/
def read (text : String) : Except Fault Catalog :=
  match Json.read decode text with
  | .error error => .error (.invalidCatalog (.unreadable error))
  | .ok catalog =>
      match catalog.problem? with
      | some problem => .error (.invalidCatalog problem)
      | none => .ok catalog

end Catalog

end UsbDescriptors
