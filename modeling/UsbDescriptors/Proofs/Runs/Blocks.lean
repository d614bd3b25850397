import UsbDescriptors.Proofs.Related
import UsbDescriptors.Proofs.Runs.Plans

/-!
# Blocks of a run

A successful run makes one block for every plan, in order. `Yields` says that a plan and its block
belong together: the block is the result of a successful step, whatever the run had collected
before it. By way of the plans every block is made from a part of the document, which is what
`MadeFrom` says. What is proved of every step of this kind holds of every block of every run, by
the main statement `generate_ok`.
-/

namespace UsbDescriptors

/-- The interface is what a successful evaluation makes of the plan. -/
def InterfacePlan.Yields (device configuration : String) (plan : InterfacePlan)
    (interface : EvaluatedInterface) : Prop :=
  ∃ before after, plan.resolved.evaluate device configuration before = .ok interface after

/-- The block is what a successful step makes of the plan and its number. -/
def ConfigurationPlan.Yields (device : String) (plan : ConfigurationPlan × Nat)
    (block : ConfigurationBlock) : Prop :=
  ∃ before after, Generation.configuration device plan.2 plan.1 before = .ok block after

/-- The block is what a successful step makes of the plan of a device. -/
def DevicePlan.Makes (plan : DevicePlan) (block : DeviceBlock) : Prop :=
  ∃ before after, Generation.device plan before = .ok block after

/-- The block holds what successful steps make of the plan of a device and its configurations,
which are numbered from one. -/
structure DevicePlan.Yields (plan : DevicePlan) (block : DeviceBlock) : Prop where
  made : ∃ strings, block = .ofDevice plan.tag plan.device plan.codes strings block.configurations
  configurations :
    List.Forall₂ (ConfigurationPlan.Yields plan.tag) (plan.configurations.zipIdx 1)
      block.configurations

namespace Generation

/-- A step through the interfaces of a configuration: the first one is evaluated, reported and
registered, and the others follow. -/
theorem interfaces_cons_ok {device configuration : String} {instances final : ClassCounts}
    {plan : InterfacePlan} {rest : List InterfacePlan} {all : List EvaluatedInterface}
    {before after : Session}
    (run : interfaces device configuration instances (plan :: rest) before =
      .ok (all, final) after) :
    ∃ interface others registers,
      plan.resolved.evaluate device configuration before.registers = .ok interface registers ∧
      interfaces device configuration (instances.add .device interface.className 1) rest
        { before with
          registers := { registers with
            events := registers.events ++ [.statement interface.tag interface.statement] }
          registry := before.registry.addDevice interface.scope interface.tag
            (instances.get .device interface.className)
          reports := before.reports ++ plan.reports.toList } = .ok (others, final) after ∧
      all = interface :: others := by
  simp only [interfaces, register, step_bind_iff, step_pure_iff, evaluation_ok_iff, report_ok_iff,
    change_ok_iff] at run
  rcases run with ⟨interface, _, ⟨registers, evaluated, rfl⟩, _, _, rfl, _, _, rfl,
    ⟨others, counts⟩, _, continued, same, rfl⟩
  rcases Prod.mk.inj same with ⟨rfl, rfl⟩
  exact ⟨interface, others, registers, evaluated, continued, rfl⟩

theorem interfaces_ok {device configuration : String} {instances final : ClassCounts}
    {plans : List InterfacePlan} {all : List EvaluatedInterface} {before after : Session}
    (run : interfaces device configuration instances plans before = .ok (all, final) after) :
    List.Forall₂ (InterfacePlan.Yields device configuration) plans all := by
  induction plans generalizing instances all before with
  | nil =>
      rcases step_pure_iff.mp run with ⟨same, -⟩
      rcases Prod.mk.inj same with ⟨rfl, -⟩
      exact .nil
  | cons plan rest ih =>
      rcases interfaces_cons_ok run with ⟨interface, others, registers, evaluated, continued, rfl⟩
      exact .cons ⟨_, _, evaluated⟩ (ih continued)

/-- A configuration enters its description, numbers its endpoints from one over all of its
interfaces, and passes the check of the endpoint numbers at its end. -/
theorem configuration_ok {device : String} {number : Nat} {plan : ConfigurationPlan}
    {block : ConfigurationBlock} {before after : Session}
    (run : configuration device number plan before = .ok block after) :
    ∃ description strings all instances middle,
      before.registers.strings.add plan.tag "description" plan.configuration.description =
        .ok (description, strings) ∧
      interfaces device plan.tag .empty plan.interfaces
        { before with registers := { before.registers with strings, endpoints := .fresh } } =
          .ok (all, instances) middle ∧
      middle.registers.endpoints.slots ≤ EndpointAllocator.maxSlots ∧
      block = {
        tag := plan.tag
        number, description
        attributes := plan.configuration.attributes
        power := plan.configuration.power
        interfaces := all } ∧
      after = { middle with
        registers := { middle.registers with
          events := middle.registers.events ++
            [.configuration plan.tag block.interfaceCount block.endpointCount] }
        counts := middle.counts.mergeMax instances } := by
  simp only [configuration, step_bind_iff, step_pure_iff, evaluation_ok_iff,
    Evaluation.addString_ok_iff, restartEndpoints_ok_iff, finishEndpoints_ok_iff, change_ok_iff,
    report_ok_iff] at run
  rcases run with ⟨description, _, ⟨_, ⟨strings, added, rfl⟩, rfl⟩, _, _, rfl, ⟨all, instances⟩,
    middle, evaluated, _, _, ⟨fits, rfl⟩, _, _, rfl, _, _, rfl, rfl, rfl⟩
  exact ⟨description, strings, all, instances, middle, added, evaluated, fits, rfl, rfl⟩

theorem configurations_ok {device : String} {number : Nat} {plans : List ConfigurationPlan}
    {blocks : List ConfigurationBlock} {before after : Session}
    (run : configurations device number plans before = .ok blocks after) :
    List.Forall₂ (ConfigurationPlan.Yields device) (plans.zipIdx number) blocks := by
  induction plans generalizing number blocks before after with
  | nil =>
      rcases step_pure_iff.mp run with ⟨rfl, -⟩
      exact .nil
  | cons plan rest ih =>
      simp only [configurations, step_bind_iff, step_pure_iff] at run
      rcases run with ⟨block, middle, first, others, _, continued, rfl, rfl⟩
      exact .cons ⟨before, middle, first⟩ (ih continued)

theorem device_ok {plan : DevicePlan} {block : DeviceBlock} (makes : plan.Makes block) :
    plan.Yields block := by
  rcases makes with ⟨before, after, run⟩
  simp only [device, step_bind_iff, step_pure_iff] at run
  rcases run with
    ⟨_, _, -, manufacturer, _, -, product, _, -, serial, _, -, blocks, _, made, rfl, -⟩
  exact ⟨⟨_, rfl⟩, configurations_ok made⟩

theorem devices_ok {plans : List DevicePlan} {blocks : List DeviceBlock} {before after : Session}
    (run : devices plans before = .ok blocks after) :
    List.Forall₂ DevicePlan.Makes plans blocks := by
  induction plans generalizing blocks before after with
  | nil =>
      rcases step_pure_iff.mp run with ⟨rfl, -⟩
      exact .nil
  | cons plan rest ih =>
      simp only [devices, step_bind_iff, step_pure_iff] at run
      rcases run with ⟨block, middle, first, others, _, continued, rfl, rfl⟩
      exact .cons ⟨before, middle, first⟩ (ih continued)

theorem servedDevices_ok {plans : List DevicePlan} {blocks : List DeviceBlock} {served : Nat}
    {before after : Session}
    (run : servedDevices plans before = .ok (blocks, served) after) :
    List.Forall₂ DevicePlan.Makes plans blocks := by
  cases plans with
  | nil =>
      rcases step_pure_iff.mp run with ⟨same, -⟩
      rcases Prod.mk.inj same with ⟨rfl, -⟩
      exact .nil
  | cons plan rest =>
      simp only [servedDevices, step_bind_iff, step_pure_iff] at run
      rcases run with ⟨block, middle, first, _, _, -, others, _, continued, same, -⟩
      rcases Prod.mk.inj same with ⟨rfl, -⟩
      exact .cons ⟨before, middle, first⟩ (devices_ok continued)

theorem document_ok {catalog : Catalog} {content : Document} {generated : Generated}
    {before after : Session} (run : document catalog content before = .ok generated after) :
    ∃ plans, List.Forall₂ (DevicePlan.Planned catalog) content.devices plans ∧
      List.Forall₂ DevicePlan.Makes plans generated.devices := by
  rcases document_steps run with ⟨plans, _, _, _, _, _, planned, -, made, -, rfl⟩
  exact ⟨plans, planDocument_ok planned, servedDevices_ok made⟩

end Generation

/-- The block is made from a configuration of a document and its number. -/
def ConfigurationBlock.MadeFrom (catalog : Catalog) (device : String)
    (entry : (String × Configuration) × Nat) (block : ConfigurationBlock) : Prop :=
  ∃ plan, ConfigurationPlan.Planned catalog entry.1 plan ∧
    ConfigurationPlan.Yields device (plan, entry.2) block

namespace ConfigurationBlock.MadeFrom

variable {catalog : Catalog} {device : String} {entry : String × Configuration} {number : Nat}
  {block : ConfigurationBlock}

theorem tag (origin : block.MadeFrom catalog device (entry, number)) : block.tag = entry.1 := by
  rcases origin with ⟨plan, planned, before, after, run⟩
  rcases Generation.configuration_ok run with ⟨_, _, _, _, _, -, -, -, rfl, -⟩
  exact planned.tag

theorem number_eq (origin : block.MadeFrom catalog device (entry, number)) :
    block.number = number := by
  rcases origin with ⟨plan, planned, before, after, run⟩
  rcases Generation.configuration_ok run with ⟨_, _, _, _, _, -, -, -, rfl, -⟩
  rfl

/-- The interfaces of the block are evaluated from plans of those of the configuration. -/
theorem interfaces (origin : block.MadeFrom catalog device (entry, number)) :
    List.Forall₂ (fun own interface => ∃ plan : InterfacePlan, plan.Planned catalog own ∧
      plan.Yields device entry.1 interface) entry.2.interfaces block.interfaces := by
  rcases origin with ⟨plan, planned, before, after, run⟩
  rcases Generation.configuration_ok run with ⟨_, _, _, _, _, -, evaluated, -, rfl, -⟩
  rw [← planned.tag]
  exact Related.trans planned.interfaces (Generation.interfaces_ok evaluated)

end ConfigurationBlock.MadeFrom

/-- The block is made from a device of a document, configuration by configuration. -/
structure DeviceBlock.MadeFrom (catalog : Catalog) (entry : String × Device)
    (block : DeviceBlock) : Prop where
  made : ∃ codes strings,
    ClassCodes.lookup entry.2.className entry.2.subclass entry.2.protocol = .ok codes ∧
      block = .ofDevice entry.1 entry.2 codes strings block.configurations
  configurations :
    List.Forall₂ (ConfigurationBlock.MadeFrom catalog entry.1)
      (entry.2.configurations.zipIdx 1) block.configurations

theorem DevicePlan.Yields.madeFrom {catalog : Catalog} {entry : String × Device}
    {plan : DevicePlan} {block : DeviceBlock} (planned : plan.Planned catalog entry)
    (yields : plan.Yields block) : block.MadeFrom catalog entry := by
  rcases planned with ⟨tag, device, codes, configurations⟩
  rcases yields with ⟨⟨strings, made⟩, steps⟩
  rw [tag] at steps
  rw [tag, device] at made
  refine ⟨⟨plan.codes, strings, codes, made⟩, ?_⟩
  refine (Related.trans (Related.zipIdx configurations 1) steps).imp ?_
  rintro ⟨configuration, number⟩ block ⟨⟨plan, _⟩, ⟨planned, rfl⟩, step⟩
  exact ⟨plan, planned, step⟩

theorem Document.makes_of_generate {document : Document} {catalog : Catalog}
    {generated : Generated} (run : document.generate catalog = .ok generated) :
    ∃ plans, List.Forall₂ (DevicePlan.Planned catalog) document.devices plans ∧
      List.Forall₂ DevicePlan.Makes plans generated.devices := by
  rcases generate_ok_iff.mp run with ⟨session, ran⟩
  exact Generation.document_ok ran

/-- A successful run makes one block from every device of the document, in order. -/
theorem Document.generate_ok {document : Document} {catalog : Catalog} {generated : Generated}
    (run : document.generate catalog = .ok generated) :
    List.Forall₂ (DeviceBlock.MadeFrom catalog) document.devices generated.devices := by
  rcases makes_of_generate run with ⟨plans, planned, makes⟩
  refine (Related.trans planned makes).imp ?_
  rintro entry block ⟨plan, planned, makes⟩
  exact DevicePlan.Yields.madeFrom planned (Generation.device_ok makes)

/-- Every block of a successful run is made from a configuration of the document. -/
theorem Document.exists_configuration_of_generate {document : Document} {catalog : Catalog}
    {generated : Generated} (run : document.generate catalog = .ok generated)
    {device : DeviceBlock} (deviceMem : device ∈ generated.devices)
    {block : ConfigurationBlock} (blockMem : block ∈ device.configurations) :
    ∃ entry ∈ document.devices, ∃ configuration ∈ entry.2.configurations, ∃ number,
      block.MadeFrom catalog entry.1 (configuration, number) := by
  rcases Related.exists_left (generate_ok run) deviceMem with ⟨entry, entryMem, made⟩
  rcases Related.exists_left made.configurations blockMem with
    ⟨⟨configuration, number⟩, mem, origin⟩
  exact ⟨entry, entryMem, configuration, List.fst_mem_of_mem_zipIdx mem, number, origin⟩

/-- From every configuration of the document a successful run makes a block. -/
theorem Document.exists_block_of_generate {document : Document} {catalog : Catalog}
    {generated : Generated} (run : document.generate catalog = .ok generated)
    {entry : String × Device} (entryMem : entry ∈ document.devices)
    {configuration : String × Configuration}
    (configurationMem : configuration ∈ entry.2.configurations) :
    ∃ device ∈ generated.devices, ∃ block ∈ device.configurations, ∃ number,
      block.MadeFrom catalog entry.1 (configuration, number) := by
  rcases Related.exists_right (generate_ok run) entryMem with ⟨device, deviceMem, made⟩
  have numbered : configuration ∈ (entry.2.configurations.zipIdx 1).map Prod.fst := by
    rw [List.zipIdx_map_fst]
    exact configurationMem
  rcases List.mem_map.mp numbered with ⟨⟨_, number⟩, mem, rfl⟩
  rcases Related.exists_right made.configurations mem with ⟨block, blockMem, origin⟩
  exact ⟨device, deviceMem, block, blockMem, number, origin⟩

end UsbDescriptors
