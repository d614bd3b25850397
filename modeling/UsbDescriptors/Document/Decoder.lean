import UsbDescriptors.Document.Types
import UsbDescriptors.Json.Decoder

/-!
# Reading documents

How the parts of a document are read from JSON. Nothing is checked against a catalog here: the
members of an interface other than the template and the description are kept as they are.
-/

namespace UsbDescriptors

open Json (Decoder Node ReadError)

/-- Reads an id: a natural number of two bytes, or a string. -/
def UsbId.decode : Decoder UsbId := fun node => do
  match ← Json.decodeValue node with
  | .string symbol => return .text symbol
  | .number (.integer (.ofNat value)) =>
      if value ≤ 65535 then return .number value
      else Decoder.shapeFault (.noVariant "IdValue")
  | _ => Decoder.shapeFault (.noVariant "IdValue")

/-- An interface while it is read. -/
structure InterfaceDraft where
  template : Option String := none
  description : Option String := none
  properties : OrderedMap Json.Value := []

namespace InterfaceDraft

def field (name : String) (node : Node) (draft : InterfaceDraft) :
    Except ReadError InterfaceDraft :=
  match name with
  | "template" => do return { draft with template := some (← Decoder.string node) }
  | _ => do return { draft with description := ← Decoder.optional Decoder.string node }

/-- Reads any other member of an interface. -/
def property (name : String) (node : Node) (draft : InterfaceDraft) :
    Except ReadError InterfaceDraft := do
  let value ← Json.decodeValue node
  return { draft with properties := draft.properties.insert name value }

end InterfaceDraft

/-- Reads an interface, which has to be an object. -/
def Interface.decode : Decoder Interface
  | .object members ending => do
      let draft ← Decoder.fields ["template", "description"] InterfaceDraft.field
        InterfaceDraft.property [] {} members
      let draft ← Decoder.proceed ending.error? draft
      match draft.template with
      | some template =>
          return { template, description := draft.description, properties := draft.properties }
      | none => Decoder.shapeFault (.missingField "template")
  | node => Decoder.mismatch node "struct Interface"

def Configuration.field (name : String) (node : Node) (draft : Configuration) :
    Except ReadError Configuration :=
  match name with
  | "description" =>
      do return { draft with description := ← Decoder.optional Decoder.string node }
  | "power" => do return { draft with power := ← Decoder.word node }
  | "attributes" =>
      do return { draft with attributes := ← Decoder.list (Decoder.variant Attribute.names) node }
  | _ => do return { draft with interfaces := ← Decoder.map Interface.decode node }

def Configuration.decode : Decoder Configuration :=
  Decoder.record "Configuration" ["description", "power", "attributes", "interfaces"] {}
    Configuration.field .ok

structure DeviceDraft where
  vendor : Option UsbId := none
  productId : Option UsbId := none
  className : String := "misc"
  subclass : String := "common"
  protocol : String := "iad"
  version : Binary64 := .ofNat 1
  manufacturer : String := ""
  product : String := ""
  serial : String := ""
  configurations : Option (OrderedMap Configuration) := none

namespace DeviceDraft

def field (name : String) (node : Node) (draft : DeviceDraft) : Except ReadError DeviceDraft :=
  match name with
  | "vendor" => do return { draft with vendor := some (← UsbId.decode node) }
  | "pid" => do return { draft with productId := ← Decoder.optional UsbId.decode node }
  | "class" => do return { draft with className := ← Decoder.string node }
  | "subclass" => do return { draft with subclass := ← Decoder.string node }
  | "protocol" => do return { draft with protocol := ← Decoder.string node }
  | "version" => do return { draft with version := ← Decoder.double node }
  | "manufacturer" => do return { draft with manufacturer := ← Decoder.string node }
  | "product" => do return { draft with product := ← Decoder.string node }
  | "serial" => do return { draft with serial := ← Decoder.string node }
  | _ =>
      do return { draft with configurations := some (← Decoder.map Configuration.decode node) }

def finish (draft : DeviceDraft) : Except String Device := do
  let vendor ← Decoder.required "vendor" draft.vendor
  let configurations ← Decoder.required "configurations" draft.configurations
  return {
    vendor, configurations
    productId := draft.productId
    className := draft.className
    subclass := draft.subclass
    protocol := draft.protocol
    version := draft.version
    manufacturer := draft.manufacturer
    product := draft.product
    serial := draft.serial }

end DeviceDraft

def Device.keys : List String :=
  ["vendor", "pid", "class", "subclass", "protocol", "version", "manufacturer", "product",
    "serial", "configurations"]

def Device.decode : Decoder Device :=
  Decoder.record "Device" Device.keys {} DeviceDraft.field DeviceDraft.finish

def HostSection.decode : Decoder HostSection :=
  Decoder.record "HostSection" ["count"] {}
    (fun _ node _ => do return { count := ← Decoder.byte node }) .ok

def Document.field (name : String) (node : Node) (draft : Document) : Except ReadError Document :=
  match name with
  | "$schema" => do return { draft with schema := ← Decoder.optional Decoder.string node }
  | "devices" => do return { draft with devices := ← Decoder.map Device.decode node }
  | _ => do return { draft with hosts := ← Decoder.map HostSection.decode node }

def Document.decode : Decoder Document :=
  Decoder.record "Document" ["$schema", "devices", "host"] {} Document.field .ok

/-- The document that a text denotes, whether it fits a catalog or not. -/
def Document.readUnchecked (text : String) : Except ReadError Document :=
  Json.read Document.decode text

end UsbDescriptors
