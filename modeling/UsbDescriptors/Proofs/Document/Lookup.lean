import UsbDescriptors.Document.Decoder
import UsbDescriptors.Proofs.Json.Names

/-!
# Documents by look-up

What a value says about a document, member by member: every field is looked up under its name and
has its default if there is no such member. Nothing is read in order here and nothing can fail, so
this is the document that the decoders should arrive at. Every `overlay` replaces the fields of a
draft by the members that are present.
-/

namespace UsbDescriptors

open Json (Value)

namespace Json.Value

def content (value : Value) : OrderedMap Value :=
  value.members?.getD []

/-- The members of an object that is itself a member. -/
def part (value : Value) (name : String) : OrderedMap Value :=
  ((value.content.get? name).bind members?).getD []

def IsText (value : Value) : Prop := ∃ text, value = .string text

def IsNatural (limit : Nat) (value : Value) : Prop :=
  ∃ number : Nat, value = .number (.integer (.ofNat number)) ∧ number ≤ limit

def IsNumber (value : Value) : Prop := ∃ number, value = .number number

@[simp]
theorem text?_string (text : String) : (Value.string text).text? = some text := rfl

@[simp]
theorem toNat?_natCast (number : Nat) :
    (Value.number (.integer (number : Int))).toNat? = some number := rfl

@[simp]
theorem toBinary64?_number (number : Json.Number) :
    (Value.number number).toBinary64? = some number.toBinary64 := rfl

@[simp]
theorem items?_array (items : List Value) : (Value.array items).items? = some items := rfl

@[simp]
theorem members?_object (members : OrderedMap Value) :
    (Value.object members).members? = some members := rfl

theorem part_object (members : OrderedMap Value) (name : String) :
    (Value.object members).part name = ((members.get? name).bind members?).getD [] := rfl

theorem DistinctNames.part {value : Value} (distinct : value.DistinctNames) (name : String) :
    (Value.object (value.part name)).DistinctNames := by
  have nothing : (Value.object []).DistinctNames := ⟨List.nodup_nil, trivial⟩
  cases value with
  | object members =>
      cases present : OrderedMap.get? members name with
      | none => simpa [Value.part, content, present] using nothing
      | some value =>
          have valueDistinct := membersDistinct_iff.mp distinct.2 _
            (OrderedMap.mem_of_get?_eq_some present)
          cases value with
          | object parts => simpa [Value.part, content, present] using valueDistinct
          | _ => simpa [Value.part, content, present, members?] using nothing
  | _ => simpa [Value.part, content, members?] using nothing

end Json.Value

namespace Lookup

variable {α : Type} {name other : String} {value : Value} {rest : OrderedMap Value}

/-- There is no member under a name, or it has some shape. -/
def Fits (content : OrderedMap Value) (name : String) (shape : Value → Prop) : Prop :=
  ∀ value, content.get? name = some value → shape value

def text? (content : OrderedMap Value) (name : String) : Option String :=
  (content.get? name).bind Value.text?

def natural? (content : OrderedMap Value) (name : String) : Option Nat :=
  (content.get? name).bind Value.toNat?

/-- The parts of a member that is an object, each under its name. -/
def parts? (content : OrderedMap Value) (name : String) (part : Value → α) :
    Option (OrderedMap α) :=
  ((content.get? name).bind Value.members?).map fun members =>
    members.map fun member => (member.1, part member.2)

@[simp]
theorem text?_cons : text? ((name, value) :: rest) other =
    if name = other then value.text? else text? rest other := by
  simp only [text?, OrderedMap.get?]
  split <;> rfl

@[simp]
theorem natural?_cons : natural? ((name, value) :: rest) other =
    if name = other then value.toNat? else natural? rest other := by
  simp only [natural?, OrderedMap.get?]
  split <;> rfl

@[simp]
theorem parts?_cons {part : Value → α} : parts? ((name, value) :: rest) other part =
    if name = other then
      value.members?.map fun members => members.map fun member => (member.1, part member.2)
    else parts? rest other part := by
  simp only [parts?, OrderedMap.get?]
  split <;> rfl

@[simp]
theorem text?_of_not_mem (absent : name ∉ OrderedMap.keys rest) : text? rest name = none := by
  rw [text?, OrderedMap.get?_eq_none_iff.mpr absent, Option.bind_none]

@[simp]
theorem natural?_of_not_mem (absent : name ∉ OrderedMap.keys rest) :
    natural? rest name = none := by
  rw [natural?, OrderedMap.get?_eq_none_iff.mpr absent, Option.bind_none]

@[simp]
theorem parts?_of_not_mem {part : Value → α} (absent : name ∉ OrderedMap.keys rest) :
    parts? rest name part = none := by
  rw [parts?, OrderedMap.get?_eq_none_iff.mpr absent, Option.bind_none, Option.map_none]

theorem parts?_getD {content : OrderedMap Value} {name : String}
    {part : Value → α} : (parts? content name part).getD [] =
      ((Value.object content).part name).map fun member => (member.1, part member.2) := by
  rw [Value.part_object, parts?]
  cases (content.get? name).bind Value.members? <;> rfl

end Lookup

def UsbId.lookUp? : Value → Option UsbId
  | .string symbol => some (.text symbol)
  | .number (.integer (.ofNat value)) => some (.number value)
  | _ => none

def UsbId.IsId (value : Value) : Prop := value.IsText ∨ value.IsNatural 65535

def Attribute.lookUp? (value : Value) : Option Attribute :=
  value.text?.bind names.get?

def Attribute.AreNames (value : Value) : Prop :=
  ∃ items, value = .array items ∧
    ∀ item ∈ items, ∃ name, item = .string name ∧ names.contains name = true

/-- The members of an interface that are properties of its template. -/
def Interface.propertiesOf (content : OrderedMap Value) : OrderedMap Value :=
  content.filter fun member => member.1 ≠ "template" ∧ member.1 ≠ "description"

/-- A draft of an interface with the fields that are present. -/
def InterfaceDraft.overlay (draft : InterfaceDraft) (content : OrderedMap Value) :
    InterfaceDraft where
  template := (Lookup.text? content "template").or draft.template
  description := (Lookup.text? content "description").or draft.description
  properties := (Interface.propertiesOf content).foldl
    (fun stored entry => OrderedMap.insert stored entry.1 entry.2) draft.properties

/-- The interface that a value describes. -/
def Interface.lookUp (value : Value) : Interface :=
  let draft := ({} : InterfaceDraft).overlay value.content
  { template := draft.template.getD ""
    description := draft.description
    properties := draft.properties }

def Configuration.overlay (draft : Configuration) (content : OrderedMap Value) :
    Configuration where
  description := (Lookup.text? content "description").or draft.description
  power := (Lookup.natural? content "power").getD draft.power
  attributes := (((content.get? "attributes").bind Value.items?).map fun items =>
    items.filterMap Attribute.lookUp?).getD draft.attributes
  interfaces := (Lookup.parts? content "interfaces" Interface.lookUp).getD draft.interfaces

def Configuration.lookUp (value : Value) : Configuration :=
  ({} : Configuration).overlay value.content

def DeviceDraft.overlay (draft : DeviceDraft) (content : OrderedMap Value) : DeviceDraft where
  vendor := ((content.get? "vendor").bind UsbId.lookUp?).or draft.vendor
  productId := ((content.get? "pid").bind UsbId.lookUp?).or draft.productId
  className := (Lookup.text? content "class").getD draft.className
  subclass := (Lookup.text? content "subclass").getD draft.subclass
  protocol := (Lookup.text? content "protocol").getD draft.protocol
  version := ((content.get? "version").bind Value.toBinary64?).getD draft.version
  manufacturer := (Lookup.text? content "manufacturer").getD draft.manufacturer
  product := (Lookup.text? content "product").getD draft.product
  serial := (Lookup.text? content "serial").getD draft.serial
  configurations :=
    (Lookup.parts? content "configurations" Configuration.lookUp).or draft.configurations

/-- The device that a value describes. Every device has a vendor and configurations. -/
def Device.lookUp (value : Value) : Device :=
  let draft := ({} : DeviceDraft).overlay value.content
  { vendor := draft.vendor.getD (.number 0)
    productId := draft.productId
    className := draft.className
    subclass := draft.subclass
    protocol := draft.protocol
    version := draft.version
    manufacturer := draft.manufacturer
    product := draft.product
    serial := draft.serial
    configurations := draft.configurations.getD [] }

def HostSection.overlay (draft : HostSection) (content : OrderedMap Value) : HostSection where
  count := (Lookup.natural? content "count").getD draft.count

def HostSection.lookUp (value : Value) : HostSection :=
  ({} : HostSection).overlay value.content

def Document.overlay (draft : Document) (content : OrderedMap Value) : Document where
  schema := (Lookup.text? content "$schema").or draft.schema
  devices := (Lookup.parts? content "devices" Device.lookUp).getD draft.devices
  hosts := (Lookup.parts? content "host" HostSection.lookUp).getD draft.hosts

/-- The document that a value describes. -/
def Document.lookUp (value : Value) : Document :=
  ({} : Document).overlay value.content

theorem Configuration.lookUp_interfaces (value : Value) : (lookUp value).interfaces =
    (value.part "interfaces").map fun member => (member.1, Interface.lookUp member.2) :=
  Lookup.parts?_getD

theorem Device.lookUp_configurations (value : Value) : (lookUp value).configurations =
    (value.part "configurations").map fun member => (member.1, Configuration.lookUp member.2) := by
  simp only [lookUp, DeviceDraft.overlay, Option.or_none]
  exact Lookup.parts?_getD

theorem Document.lookUp_devices (value : Value) : (lookUp value).devices =
    (value.part "devices").map fun member => (member.1, Device.lookUp member.2) :=
  Lookup.parts?_getD

theorem Document.lookUp_hosts (value : Value) : (lookUp value).hosts =
    (value.part "host").map fun member => (member.1, HostSection.lookUp member.2) :=
  Lookup.parts?_getD

end UsbDescriptors
