import UsbDescriptors.Catalog.Builtin
import UsbDescriptors.Proofs.Document.Conversion
import UsbDescriptors.Proofs.Document.Walk

/-!
# Accepted documents

A value without violations is always converted, and the document keeps all of its parts under
their tags and in their order. So a document is refused for its violations only.
-/

namespace UsbDescriptors

open Json (Node Value)
open Validation (Clean)

/-- Parts under the names of the members of an object and in their order, each related to the value
of its member. -/
def Lookup.Kept {α : Type} (keeps : α → Value → Prop) (parts : OrderedMap α)
    (members : OrderedMap Value) : Prop :=
  List.Forall₂ (fun part member => part.1 = member.1 ∧ keeps part.2 member.2) parts members

theorem Lookup.kept_map {α : Type} {keeps : α → Value → Prop} {part : Value → α}
    {members : OrderedMap Value} (each : ∀ member ∈ members, keeps (part member.2) member.2) :
    Kept keeps (members.map fun member => (member.1, part member.2)) members := by
  refine List.forall₂_map_left_iff.mpr (List.forall₂_same.mpr fun member mem => ?_)
  exact ⟨rfl, each member mem⟩

/-- An interface has the template and the description that a value gives, and its properties are
the other members, in their order. -/
structure Interface.Keeps (interface : Interface) (value : Value) : Prop where
  template : value.content.get? "template" = some (.string interface.template)
  description : interface.description = Lookup.text? value.content "description"
  properties : interface.properties = value.content.filter fun member =>
    member.1 ≠ "template" ∧ member.1 ≠ "description"

/-- A configuration has the interfaces that a value gives, in their order. -/
def Configuration.Keeps (configuration : Configuration) (value : Value) : Prop :=
  Lookup.Kept Interface.Keeps configuration.interfaces (value.part "interfaces")

/-- A device has the vendor and the configurations that a value gives, in their order. -/
structure Device.Keeps (device : Device) (value : Value) : Prop where
  vendor : (value.content.get? "vendor").bind UsbId.lookUp? = some device.vendor
  configurations :
    Lookup.Kept Configuration.Keeps device.configurations (value.part "configurations")

/-- A host section has the count that a value gives. -/
def HostSection.Keeps (host : HostSection) (value : Value) : Prop :=
  host.count = (Lookup.natural? value.content "count").getD 1

/-- A document has the devices and the host sections that a value gives, in their order. -/
structure Document.Keeps (document : Document) (value : Value) : Prop where
  devices : Lookup.Kept Device.Keeps document.devices (value.part "devices")
  hosts : Lookup.Kept HostSection.Keeps document.hosts (value.part "host")

namespace Validation

variable {catalog : Catalog} {path : Path} {name : String} {value : Value}

theorem interface_keeps (distinct : value.DistinctNames)
    (clean : Clean (interface catalog path name value)) :
    (Interface.lookUp value).Keeps value := by
  cases value with
  | object content =>
      rcases template_of_clean clean with ⟨template, given⟩
      have properties : (OrderedMap.keys (Interface.propertiesOf content)).Nodup :=
        (List.filter_sublist.map Prod.fst).nodup distinct.1
      constructor
      · simp [Interface.lookUp, InterfaceDraft.overlay, Value.content, Lookup.text?, given]
      · simp [Interface.lookUp, InterfaceDraft.overlay]
      · exact OrderedMap.ofList_of_nodup properties
  | _ => simp [interface] at clean

theorem configuration_keeps (distinct : value.DistinctNames)
    (clean : Clean (configuration catalog path name value)) :
    (Configuration.lookUp value).Keeps value := by
  rcases @configuration_split catalog path name value with ⟨checks, -, split⟩
  simp only [split, all_append, all_members] at clean
  rw [Configuration.Keeps, Configuration.lookUp_interfaces]
  refine Lookup.kept_map fun member mem => ?_
  exact interface_keeps (Value.membersDistinct_iff.mp (distinct.part "interfaces").2 member mem)
    (clean.2.2 member mem)

theorem device_keeps (distinct : value.DistinctNames)
    (clean : Clean (device catalog path name value)) : (Device.lookUp value).Keeps value := by
  constructor
  · cases value with
    | object content =>
        rcases vendor_of_clean clean with ⟨vendor, present, isId⟩
        rcases UsbId.decode_ofValue isId with ⟨id, -, found⟩
        simp [Device.lookUp, DeviceDraft.overlay, Value.content, present, found]
    | _ => simp [device] at clean
  · rcases @device_split catalog path name value with ⟨checks, -, split⟩
    simp only [split, all_append, all_members] at clean
    rw [Device.lookUp_configurations]
    refine Lookup.kept_map fun member mem => ?_
    exact configuration_keeps
      (Value.membersDistinct_iff.mp (distinct.part "configurations").2 member mem)
      (clean.2.2 member mem)

theorem document_keeps (distinct : value.DistinctNames) (clean : Clean (findings catalog value)) :
    (Document.lookUp value).Keeps value := by
  rcases @findings_split catalog value with ⟨checks, more, -, -, split⟩
  simp only [split, all_append, all_members] at clean
  constructor
  · rw [Document.lookUp_devices]
    refine Lookup.kept_map fun member mem => ?_
    exact device_keeps (Value.membersDistinct_iff.mp (distinct.part "devices").2 member mem)
      (clean.1.2 member mem)
  · rw [Document.lookUp_hosts]
    exact Lookup.kept_map fun _ _ => rfl

end Validation

namespace Document

theorem ofValue_eq_lookUp {catalog : Catalog} {value : Value} (distinct : value.DistinctNames)
    (accepted : violations catalog value = []) : ofValue catalog value = .ok (lookUp value) := by
  have clean := Validation.clean_of_settle accepted
  simp only [ofValue, accepted, Validation.document_converts distinct clean]

theorem violations_of_ofValue {catalog : Catalog} {value : Value} {document : Document}
    (read : ofValue catalog value = .ok document) : violations catalog value = [] := by
  unfold ofValue at read
  split at read
  next accepted => exact accepted
  next => cases read

/-- A document that is read is the one that the value of the text describes, in which there are no
violations. -/
theorem value_of_read {catalog : Catalog} {text : String} {document : Document}
    (found : read catalog text = .ok document) :
    ∃ value, Value.read text = .ok value ∧ violations catalog value = [] ∧
      document = lookUp value := by
  unfold read at found
  split at found
  next => cases found
  next value valueRead =>
    have accepted := violations_of_ofValue found
    have looked := ofValue_eq_lookUp (Value.distinctNames_of_read valueRead) accepted
    exact ⟨value, valueRead, accepted, Except.ok.inj (found.symm.trans looked)⟩

theorem lookUp_of_read {catalog : Catalog} {text : String} {document : Document}
    (found : read catalog text = .ok document) :
    ∃ value : Value, value.DistinctNames ∧ violations catalog value = [] ∧
      document = lookUp value := by
  rcases value_of_read found with ⟨value, valueRead, accepted, same⟩
  exact ⟨value, Value.distinctNames_of_read valueRead, accepted, same⟩

/-- A value without violations is converted into the document that looking up its members gives,
which loses nothing of it. A value that is refused is refused for its violations, and none of them
says that the conversion failed. The objects of a value hold every name once, as they do whenever a
text is read. -/
theorem ofValue_faithful {catalog : Catalog} {value : Value} (distinct : value.DistinctNames) :
    (violations catalog value = [] →
      decode (.ofValue value) = .ok (lookUp value) ∧ ofValue catalog value = .ok (lookUp value) ∧
        (lookUp value).Keeps value) ∧
      ∀ fault, ofValue catalog value = .error fault →
        violations catalog value ≠ [] ∧ fault = .invalidDocument (violations catalog value) ∧
          ∀ violation ∈ violations catalog value, ∀ error,
            violation.problem ≠ .unreadable error := by
  constructor
  · intro accepted
    have clean := Validation.clean_of_settle accepted
    exact ⟨Validation.document_converts distinct clean, ofValue_eq_lookUp distinct accepted,
      Validation.document_keeps distinct clean⟩
  · intro fault refused
    have violated : violations catalog value ≠ [] := by
      intro accepted
      rw [ofValue_eq_lookUp distinct accepted] at refused
      cases refused
    refine ⟨violated, ?_, ?_⟩
    · unfold ofValue at refused
      split at refused
      next accepted => exact absurd accepted violated
      next => exact (Except.error.inj refused).symm
    · intro violation mem error unreadable
      rcases Validation.mem_of_mem_settle mem with noted | ⟨tag, first, clash⟩
      · have own := Finding.isNoted_violation.mp (Validation.noted_findings _ noted)
        rw [unreadable] at own
        exact own
      · rw [unreadable] at clash
        cases clash

/-- A device with a serial line. -/
def serialValue : Value :=
  let interfaces : Value := .object [("cdc0", .object [("template", .string "cdc")])]
  let configurations : Value := .object [("config1", .object [("interfaces", interfaces)])]
  .object [("devices", .object [("dev0", .object [
    ("vendor", .number (.integer 1)), ("configurations", configurations)])])]

theorem distinctNames_serialValue : serialValue.DistinctNames := by
  simp [serialValue, Value.DistinctNames, Value.membersDistinct]

theorem violations_serialValue : violations Catalog.builtin serialValue = [] := by
  decide +kernel

theorem ofValue_faithful_serialValue :
    serialValue.DistinctNames ∧ violations Catalog.builtin serialValue = [] ∧
      ofValue Catalog.builtin serialValue = .ok (lookUp serialValue) ∧
      (lookUp serialValue).Keeps serialValue :=
  ⟨distinctNames_serialValue, violations_serialValue,
    ((ofValue_faithful distinctNames_serialValue).1 violations_serialValue).2⟩

end Document

end UsbDescriptors
