import UsbDescriptors.Proofs.Document.Tags
import UsbDescriptors.Proofs.Runs.Registration
import UsbDescriptors.Proofs.Strings.Groups

/-!
# Strings of a run

A run adds the strings of its document one after the other and nothing else. `Registers.Added` says
which strings were added between two states; every step adds those of its part of the document. The
tags of a document that is read have distinct identifiers, so no string meets the symbol of another
one, and the table of the run holds them all.
-/

namespace UsbDescriptors

open Json (Value)

namespace Registers

/-- Between two states of the registers the strings of a list were added. -/
def Added (before after : Registers) (requests : List StringRequest) : Prop :=
  before.strings.addAll requests = .ok after.strings

variable {before middle after : Registers}

theorem Added.nothing (same : after.strings = before.strings) : before.Added after [] :=
  congrArg Except.ok same.symm

theorem Added.append {requests more : List StringRequest} (first : before.Added middle requests)
    (second : middle.Added after more) : before.Added after (requests ++ more) := by
  rw [Added, StringTable.addAll_append, first]
  exact second

end Registers

namespace Evaluation

variable {before after : Registers}

theorem addString_added {owner id : String} {string : String × Option String}
    (run : addString owner string before = .ok id after) :
    before.Added after [⟨owner, string.1, string.2⟩] := by
  rcases addString_ok_iff.mp run with ⟨strings, added, rfl⟩
  simp only [Registers.Added, StringTable.addAll, outcome_bind_iff]
  exact ⟨_, added, rfl⟩

theorem addStrings_added {owner : String} {strings : List (String × Option String)}
    {result : Unit} (run : addStrings owner strings before = .ok result after) :
    before.Added after (StringGroup.requests ⟨owner, strings⟩) := by
  induction strings generalizing before with
  | nil =>
      rcases step_pure_iff.mp run with ⟨-, rfl⟩
      exact .nothing rfl
  | cons string rest ih =>
      simp only [addStrings, step_bind_iff] at run
      rcases run with ⟨id, middle, first, others⟩
      exact (addString_added first).append (ih others)

theorem enter_added {tag : String} {argument : Argument} {entered : String × Option Endpoint}
    (run : enter tag argument before = .ok entered after) :
    before.Added after (StringGroup.requests ⟨tag, argument.stringsOf⟩) := by
  cases argument with
  | text value =>
      rcases step_pure_iff.mp run with ⟨-, rfl⟩
      exact .nothing rfl
  | endpoint direction symbol =>
      simp only [enter, step_bind_iff, step_pure_iff, allocate_ok_iff] at run
      rcases run with ⟨_, _, ⟨-, rfl⟩, -, rfl⟩
      exact .nothing rfl
  | strings first rest =>
      simp only [enter, step_bind_iff, step_pure_iff] at run
      rcases run with ⟨id, middle, added, _, _, others, -, rfl⟩
      exact (addString_added added).append (addStrings_added others)

theorem enterFields_added {interface : ResolvedInterface} {context : Context}
    {fields : List Field} {all : List (String × Option Endpoint)}
    (run : enterFields interface context fields before = .ok all after) :
    before.Added after (StringGroup.requests ⟨interface.tag,
      (fields.filterMap Field.string?).flatMap (ResolvedInterface.fieldStrings context)⟩) := by
  induction fields generalizing all before with
  | nil =>
      rcases step_pure_iff.mp run with ⟨-, rfl⟩
      exact .nothing rfl
  | cons field rest ih =>
      rcases enterFields_cons_ok run with
        ⟨argument, entered, middle, others, found, first, more, -⟩
      have joined := (enter_added first).append (ih more)
      rw [ResolvedInterface.stringsOf_argument found, StringGroup.requests, StringGroup.requests,
        ← List.map_append, ← List.flatMap_append] at joined
      have strings : (field :: rest).filterMap Field.string? =
          field.string?.toList ++ rest.filterMap Field.string? := by
        cases given : field.string? <;> simp [given]
      rw [strings]
      exact joined

end Evaluation

theorem ResolvedInterface.evaluate_added {interface : ResolvedInterface}
    {device configuration : String} {evaluated : EvaluatedInterface} {before after : Registers}
    (run : interface.evaluate device configuration before = .ok evaluated after) :
    before.Added after (interface.stringGroup device configuration).requests := by
  rcases evaluate_ok run with ⟨entered, middle, _, _, fields, recorded, -, -, -⟩
  rcases recordGlobals_ok recorded with ⟨globals, rfl⟩
  have added := Evaluation.enterFields_added fields
  exact added

theorem InterfacePlan.Planned.stringGroup {catalog : Catalog} {entry : String × Interface}
    {plan : InterfacePlan} (planned : plan.Planned catalog entry) (device configuration : String) :
    plan.resolved.stringGroup device configuration =
      Interface.stringGroup catalog device configuration entry := by
  have tag := (ResolvedInterface.resolve_ok planned.resolved).1
  simp only [Interface.stringGroup, planned.resolved]
  rw [← tag]
  rfl

namespace Generation

variable {catalog : Catalog} {before after : Session}

theorem interfaces_added {device configuration : String} {instances final : ClassCounts}
    {entries : List (String × Interface)} {plans : List InterfacePlan}
    {all : List EvaluatedInterface}
    (planned : List.Forall₂ (InterfacePlan.Planned catalog) entries plans)
    (run : interfaces device configuration instances plans before = .ok (all, final) after) :
    before.registers.Added after.registers
      ((entries.map (Interface.stringGroup catalog device configuration)).flatMap
        StringGroup.requests) := by
  induction planned generalizing instances all before with
  | nil =>
      rcases step_pure_iff.mp run with ⟨-, rfl⟩
      exact .nothing rfl
  | cons head _ ih =>
      rcases interfaces_cons_ok run with ⟨interface, others, registers, evaluated, continued, -⟩
      have first := ResolvedInterface.evaluate_added evaluated
      rw [head.stringGroup] at first
      rw [List.map_cons, List.flatMap_cons]
      exact first.append (ih continued)

theorem configuration_added {device : String} {number : Nat} {entry : String × Configuration}
    {plan : ConfigurationPlan} {block : ConfigurationBlock}
    (planned : plan.Planned catalog entry)
    (run : configuration device number plan before = .ok block after) :
    before.registers.Added after.registers
      ((Configuration.stringGroups catalog device entry).flatMap StringGroup.requests) := by
  rcases configuration_ok run with
    ⟨description, strings, all, instances, middle, added, evaluated, -, -, rfl⟩
  have own : before.registers.Added { before.registers with strings, endpoints := .fresh }
      [⟨entry.1, "description", entry.2.description⟩] := by
    rw [planned.tag, planned.configuration] at added
    simp only [Registers.Added, StringTable.addAll, outcome_bind_iff]
    exact ⟨_, added, rfl⟩
  have others := interfaces_added planned.interfaces evaluated
  rw [planned.tag] at others
  exact own.append others

theorem configurations_added {device : String} {number : Nat}
    {entries : List (String × Configuration)} {plans : List ConfigurationPlan}
    {blocks : List ConfigurationBlock}
    (planned : List.Forall₂ (ConfigurationPlan.Planned catalog) entries plans)
    (run : configurations device number plans before = .ok blocks after) :
    before.registers.Added after.registers
      ((entries.flatMap (Configuration.stringGroups catalog device)).flatMap
        StringGroup.requests) := by
  induction planned generalizing number blocks before with
  | nil =>
      rcases step_pure_iff.mp run with ⟨-, rfl⟩
      exact .nothing rfl
  | cons head _ ih =>
      simp only [configurations, step_bind_iff, step_pure_iff] at run
      rcases run with ⟨block, middle, first, others, _, continued, -, rfl⟩
      rw [List.flatMap_cons, List.flatMap_append]
      exact (configuration_added head first).append (ih continued)

theorem device_added {entry : String × Device} {plan : DevicePlan} {block : DeviceBlock}
    (planned : plan.Planned catalog entry) (run : device plan before = .ok block after) :
    before.registers.Added after.registers
      ((Device.stringGroups catalog entry).flatMap StringGroup.requests) := by
  simp only [device, step_bind_iff, step_pure_iff, report_ok_iff, evaluation_ok_iff] at run
  rcases run with ⟨_, _, rfl, manufacturer, _, ⟨_, first, rfl⟩, product, _, ⟨_, second, rfl⟩,
    serial, _, ⟨_, third, rfl⟩, blocks, _, made, -, rfl⟩
  have own := ((Evaluation.addString_added first).append
    (Evaluation.addString_added second)).append (Evaluation.addString_added third)
  have others := configurations_added planned.configurations made
  rw [planned.tag, planned.device] at own
  rw [planned.tag] at others
  exact own.append others

theorem devices_added {entries : List (String × Device)} {plans : List DevicePlan}
    {blocks : List DeviceBlock} (planned : List.Forall₂ (DevicePlan.Planned catalog) entries plans)
    (run : devices plans before = .ok blocks after) :
    before.registers.Added after.registers
      ((entries.flatMap (Device.stringGroups catalog)).flatMap StringGroup.requests) := by
  induction planned generalizing blocks before with
  | nil =>
      rcases step_pure_iff.mp run with ⟨-, rfl⟩
      exact .nothing rfl
  | cons head _ ih =>
      simp only [devices, step_bind_iff, step_pure_iff] at run
      rcases run with ⟨block, middle, first, others, _, continued, -, rfl⟩
      rw [List.flatMap_cons, List.flatMap_append]
      exact (device_added head first).append (ih continued)

theorem servedDevices_added {entries : List (String × Device)} {plans : List DevicePlan}
    {blocks : List DeviceBlock} {served : Nat}
    (planned : List.Forall₂ (DevicePlan.Planned catalog) entries plans)
    (run : servedDevices plans before = .ok (blocks, served) after) :
    before.registers.Added after.registers
      ((entries.flatMap (Device.stringGroups catalog)).flatMap StringGroup.requests) := by
  cases planned with
  | nil =>
      rcases step_pure_iff.mp run with ⟨-, rfl⟩
      exact .nothing rfl
  | cons head others =>
      simp only [servedDevices, step_bind_iff, step_pure_iff] at run
      rcases run with ⟨block, middle, first, count, _, counted, blocks, _, continued, -, rfl⟩
      cases counted
      rw [List.flatMap_cons, List.flatMap_append]
      exact (device_added head first).append (devices_added others continued)

/-- Host sections have no strings. -/
theorem hosts_strings {sections : OrderedMap HostSection} {result : Unit}
    (run : hosts catalog sections before = .ok result after) :
    after.registers.strings = before.registers.strings := by
  induction sections generalizing before with
  | nil =>
      rcases step_pure_iff.mp run with ⟨-, rfl⟩
      rfl
  | cons entry rest ih =>
      simp only [hosts, step_bind_iff, planning_ok_iff, report_ok_iff, change_ok_iff] at run
      rcases run with ⟨host, _, ⟨_, -, rfl⟩, _, _, rfl, _, _, rfl, continued⟩
      have others := ih continued
      exact others

theorem announce_strings {plans : List DevicePlan} {result : Unit}
    (run : announce plans before = .ok result after) :
    after.registers.strings = before.registers.strings := by
  unfold announce at run
  split at run
  · rcases report_ok_iff.mp run with rfl
    rfl
  · rcases step_pure_iff.mp run with ⟨-, rfl⟩
    rfl

theorem document_added {content : Document} {generated : Generated}
    (run : document catalog content {} = .ok generated after) :
    StringTable.empty.addAll (content.stringRequests catalog) = .ok generated.strings := by
  rcases document_steps run with
    ⟨plans, _, announced, devices, served, middle, planned, announcing, made, hosted, rfl⟩
  have added := servedDevices_added (planDocument_ok planned) made
  rw [Registers.Added, announce_strings announcing] at added
  rw [hosts_strings hosted]
  exact added

end Generation

namespace Document

/-- A run adds the strings of its document in their order and no others. -/
theorem addAll_of_generate {catalog : Catalog} {document : Document} {generated : Generated}
    (run : document.generate catalog = .ok generated) :
    StringTable.empty.addAll (document.stringRequests catalog) = .ok generated.strings := by
  rcases generate_ok_iff.mp run with ⟨session, ran⟩
  exact Generation.document_added ran

/-- A successful run on a document that is read against a catalog whose string fields are named by
different words has all strings of the document in its table. -/
theorem holds_of_generate {catalog : Catalog} {text : String} {document : Document}
    {generated : Generated} (apart : catalog.StringsApart)
    (found : read catalog text = .ok document)
    (run : document.generate catalog = .ok generated) :
    generated.strings.Holds (document.stringRequests catalog) :=
  StringTable.holds_of_addAll
    (nodup_stringRequests (nodup_identifier_tags_of_read found) apart) (addAll_of_generate run)

/-- A successful run on a document that is read against the built-in catalog adds every string of
the document under a new identifier, and its table has one entry for each of them, in the order of
the additions and with the text that was added. -/
theorem strings_of_read {text : String} {document : Document} {generated : Generated}
    (found : read Catalog.builtin text = .ok document)
    (run : document.generate Catalog.builtin = .ok generated) :
    generated.strings.Holds (document.stringRequests Catalog.builtin) :=
  holds_of_generate Catalog.stringsApart_builtin found run

/-- A device with a name, whose console is described and whose storage is not. -/
def consoleValue : Value :=
  let interfaces : Value := .object [
    ("console", .object [("template", .string "cdc"), ("description", .string "Console")]),
    ("disk", .object [("template", .string "msc")])]
  let configurations : Value := .object [("config1", .object [("interfaces", interfaces)])]
  .object [("devices", .object [("dev0", .object [
    ("vendor", .number (.integer 1)), ("product", .string "Probe"),
    ("configurations", configurations)])])]

theorem strings_consoleValue : ∃ document generated,
    read Catalog.builtin consoleValue.compact = .ok document ∧
      document.generate Catalog.builtin = .ok generated ∧
      generated.strings.Holds (document.stringRequests Catalog.builtin) := by
  have success : (read Catalog.builtin consoleValue.compact >>= fun document =>
      document.generate Catalog.builtin).isOk = true := by decide +kernel
  rcases outcome_isOk_iff.mp success with ⟨generated, ran⟩
  rcases outcome_bind_iff.mp ran with ⟨document, found, run⟩
  exact ⟨document, generated, found, run, strings_of_read found run⟩

end Document

end UsbDescriptors
