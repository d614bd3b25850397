import UsbDescriptors.Proofs.Document.Acceptance
import UsbDescriptors.Proofs.Document.Parts

/-!
# Interfaces of accepted documents

Every interface of an accepted document is looked up in a value at which the walk has found nothing
wrong. `Interface.Accepted` says this of one interface, and what the checks of a single member buy
is derived from it: the tag is a C identifier, and the description fits in a string descriptor.
-/

namespace UsbDescriptors

open Json (Value)
open Validation (Clean)

/-- An interface that is looked up in a value without violations. -/
def Interface.Accepted (catalog : Catalog) (entry : String × Interface) : Prop :=
  ∃ path value, Value.DistinctNames value ∧
    Clean (Validation.interface catalog path entry.1 value) ∧ entry.2 = Interface.lookUp value

namespace Validation

variable {catalog : Catalog} {path : Path} {name : String} {value : Value}

theorem configuration_accepted (distinct : value.DistinctNames)
    (clean : Clean (configuration catalog path name value)) :
    ∀ entry ∈ (Configuration.lookUp value).interfaces, Interface.Accepted catalog entry := by
  rcases @configuration_split catalog path name value with ⟨checks, -, split⟩
  simp only [split, all_append, all_members] at clean
  rw [Configuration.lookUp_interfaces]
  intro entry entryMem
  rcases List.mem_map.mp entryMem with ⟨member, mem, rfl⟩
  exact ⟨_, member.2, Value.membersDistinct_iff.mp (distinct.part "interfaces").2 member mem,
    clean.2.2 member mem, rfl⟩

theorem device_accepted (distinct : value.DistinctNames)
    (clean : Clean (device catalog path name value)) :
    ∀ configuration ∈ (Device.lookUp value).configurations,
      ∀ entry ∈ configuration.2.interfaces, Interface.Accepted catalog entry := by
  rcases @device_split catalog path name value with ⟨checks, -, split⟩
  simp only [split, all_append, all_members] at clean
  rw [Device.lookUp_configurations]
  intro configuration configurationMem
  rcases List.mem_map.mp configurationMem with ⟨member, mem, rfl⟩
  exact configuration_accepted
    (Value.membersDistinct_iff.mp (distinct.part "configurations").2 member mem)
    (clean.2.2 member mem)

theorem document_accepted (distinct : value.DistinctNames)
    (clean : Clean (findings catalog value)) :
    ∀ entry ∈ (Document.lookUp value).allInterfaces, Interface.Accepted catalog entry := by
  rcases @findings_split catalog value with ⟨checks, more, -, -, split⟩
  simp only [split, all_append, all_members] at clean
  intro entry mem
  rcases Document.mem_allInterfaces_iff.mp mem with
    ⟨device, deviceMem, configuration, configurationMem, entryMem⟩
  rw [Document.lookUp_devices] at deviceMem
  rcases List.mem_map.mp deviceMem with ⟨member, memberMem, rfl⟩
  exact device_accepted
    (Value.membersDistinct_iff.mp (distinct.part "devices").2 member memberMem)
    (clean.1.2 member memberMem) configuration configurationMem entry entryMem

theorem isCIdentifier_of_clean_tag (clean : Clean (tag path name true)) :
    isCIdentifier name = true := by
  unfold tag at clean
  split at clean
  · simp at clean
  · simp only [all_append, clean_foundIf] at clean
    simpa using clean.1

theorem payload?_of_clean_descriptorString {content : Members} {key text : String}
    (clean : Clean (descriptorString path content key))
    (given : Lookup.text? content key = some text) :
    (StringDescriptor.payload? text).isSome = true := by
  rcases Option.bind_eq_some_iff.mp given with ⟨value, present, isText⟩
  cases value with
  | string own =>
      cases isText
      simpa only [descriptorString, present, clean_foundIf, Option.isNone_eq_false_iff] using clean
  | _ => cases isText

end Validation

theorem Document.accepted_of_read {catalog : Catalog} {text : String} {document : Document}
    (found : read catalog text = .ok document) :
    ∀ entry ∈ document.allInterfaces, Interface.Accepted catalog entry := by
  rcases lookUp_of_read found with ⟨value, distinct, accepted, rfl⟩
  exact Validation.document_accepted distinct (Validation.clean_of_settle accepted)

/-- A document that a catalog accepts, as a text or as a value. -/
inductive Document.Accepted (catalog : Catalog) (document : Document) : Prop
  | read {text : String} (found : Document.read catalog text = .ok document) :
      Accepted catalog document
  | value {value : Value} (distinct : value.DistinctNames)
      (found : Document.ofValue catalog value = .ok document) : Accepted catalog document

theorem Document.Accepted.interfaces {catalog : Catalog} {document : Document}
    (accepted : document.Accepted catalog) :
    ∀ entry ∈ document.allInterfaces, Interface.Accepted catalog entry := by
  cases accepted with
  | read found => exact accepted_of_read found
  | value distinct found =>
      have clean := violations_of_ofValue found
      rw [ofValue_eq_lookUp distinct clean] at found
      cases found
      exact Validation.document_accepted distinct (Validation.clean_of_settle clean)

namespace Interface.Accepted

variable {catalog : Catalog} {entry : String × Interface}

/-- The tag of an interface is a C identifier. -/
theorem isCIdentifier (accepted : Accepted catalog entry) : isCIdentifier entry.1 = true := by
  rcases accepted with ⟨path, value, -, clean, -⟩
  simp only [Validation.interface, Validation.all_append] at clean
  exact Validation.isCIdentifier_of_clean_tag clean.1

/-- The description of an interface fits in a string descriptor. -/
theorem description_fits (accepted : Accepted catalog entry) :
    (StringDescriptor.payload? (entry.2.description.getD "")).isSome = true := by
  rcases accepted with ⟨path, value, distinct, clean, looked⟩
  have keeps := Validation.interface_keeps distinct clean
  rw [← looked] at keeps
  cases value with
  | object content =>
      have own : entry.2.description = Lookup.text? content "description" := keeps.description
      simp only [Validation.interface, Validation.all_append] at clean
      rw [own]
      cases given : Lookup.text? content "description" with
      | none => rfl
      | some text => exact Validation.payload?_of_clean_descriptorString clean.2.1 given
  | _ => simp [Validation.interface] at clean

end Interface.Accepted

end UsbDescriptors
