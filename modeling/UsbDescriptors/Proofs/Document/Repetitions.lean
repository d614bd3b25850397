import UsbDescriptors.Catalog.Builtin
import UsbDescriptors.Json.Printer
import UsbDescriptors.Proofs.Document.Tags
import UsbDescriptors.Proofs.Json.Repetitions
import UsbDescriptors.Proofs.Runs.Steps

/-!
# Repeated tags

A tag that stands twice in one object of a text never gets as far as the check for clashing tags:
the value of the text has only the last of the parts under it. On every level a document that is
read holds what is written last under each tag, and what is written before it under the same tag is
dropped. The document holds everything if and only if no object repeats a tag.
-/

namespace UsbDescriptors

open Json (Node Value)

/-- The part of a document is what the value of the part of the text describes. -/
def Described {α : Type} (lookUp : Value → α) (node : Node) (part : α) : Prop :=
  ∃ value, node.value = .ok value ∧ part = lookUp value

structure Configuration.WrittenAs (node : Node) (configuration : Configuration) : Prop where
  described : Described lookUp node configuration
  interfaces : KeepsLast (Described Interface.lookUp) (node.part "interfaces")
    configuration.interfaces

structure Device.WrittenAs (node : Node) (device : Device) : Prop where
  described : Described lookUp node device
  configurations : KeepsLast Configuration.WrittenAs (node.part "configurations")
    device.configurations

/-- The document holds of every object of the text what is written last under each tag. -/
structure Document.WrittenAs (node : Node) (document : Document) : Prop where
  described : Described lookUp node document
  devices : KeepsLast Device.WrittenAs (node.part "devices") document.devices
  hosts : KeepsLast (Described HostSection.lookUp) (node.part "host") document.hosts

section Levels

variable {node : Node} {value : Value}

theorem described_lookUp {α : Type} (lookUp : Value → α) (node : Node) (value : Value)
    (found : node.value = .ok value) : Described lookUp node (lookUp value) :=
  ⟨value, found, rfl⟩

theorem Configuration.writtenAs_lookUp (node : Node) (value : Value)
    (found : node.value = .ok value) : WrittenAs node (lookUp value) := by
  constructor
  · exact described_lookUp lookUp node value found
  · rw [lookUp_interfaces]
    exact keepsLast_of_part (described_lookUp Interface.lookUp) found "interfaces"

theorem Device.writtenAs_lookUp (node : Node) (value : Value)
    (found : node.value = .ok value) : WrittenAs node (lookUp value) := by
  constructor
  · exact described_lookUp lookUp node value found
  · rw [lookUp_configurations]
    exact keepsLast_of_part Configuration.writtenAs_lookUp found "configurations"

theorem Document.writtenAs_lookUp (node : Node) (value : Value)
    (found : node.value = .ok value) : WrittenAs node (lookUp value) := by
  constructor
  · exact described_lookUp lookUp node value found
  · rw [lookUp_devices]
    exact keepsLast_of_part Device.writtenAs_lookUp found "devices"
  · rw [lookUp_hosts]
    exact keepsLast_of_part (described_lookUp HostSection.lookUp) found "host"

end Levels

namespace Document

/-- Whatever the catalog, a document that is read from a text holds under each tag of its devices,
configurations, interfaces and host sections what is written last under this tag. An object of the
text loses none of its parts if and only if it repeats no tag. -/
theorem writtenAs_of_read {catalog : Catalog} {text : String} {document : Document}
    (found : read catalog text = .ok document) : document.WrittenAs (Json.readText text).1 := by
  rcases value_of_read found with ⟨value, valueRead, -, rfl⟩
  exact writtenAs_lookUp _ value (Value.value_of_read valueRead)

/-- Two devices under one tag, the second one behind the first one. -/
def repeatedValue : Value :=
  .object [("devices", .object [
    ("a", .object [
      ("vendor", .number (.integer 1)), ("configurations", .object [("c", .object [])])]),
    ("a", .object [
      ("vendor", .number (.integer 2)), ("configurations", .object [("d", .object [])])])])]

theorem writtenAs_repeatedValue : ∃ document,
    read Catalog.builtin repeatedValue.compact = .ok document ∧
      document.WrittenAs (Json.readText repeatedValue.compact).1 := by
  have success : (read Catalog.builtin repeatedValue.compact).isOk = true := by decide +kernel
  rcases outcome_isOk_iff.mp success with ⟨document, found⟩
  exact ⟨document, found, writtenAs_of_read found⟩

/-- Nothing is left of the first device and its configuration. -/
example : (read Catalog.builtin repeatedValue.compact).map tags = .ok ["a", "d"] := by
  decide +kernel

end Document

end UsbDescriptors
