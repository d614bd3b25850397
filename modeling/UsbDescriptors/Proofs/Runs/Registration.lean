import UsbDescriptors.Proofs.Document.Parts
import UsbDescriptors.Proofs.Runs.Blocks
import UsbDescriptors.Proofs.Runs.Evaluations
import UsbDescriptors.Sections

/-!
# What a run registers

Besides its blocks a run leaves a registry of runtime objects, a list of report tables and the
counts of classes. All three grow by one interface after the other: the interface is given an
object, whose number is the count of its class so far in the configuration, and its table is
put behind those before. At the end of a configuration its counts are merged into those of the run.
`Session.Entered` says this of the configurations between two states of a run, and the main
statement, `Document.registered_of_generate`, of a whole run.
-/

namespace UsbDescriptors

namespace ClassEntry

/-- The object of an interface of a device. -/
structure ObjectOf (catalog : Catalog) (entry : String × Interface) (object : ClassEntry) :
    Prop where
  tag : object.tag = entry.1
  device : object.host = false
  scope : ∃ template, catalog.templates.get? entry.2.template = some template ∧
    object.scope = template.scopeName

/-- The numbers of the objects whose interfaces are of a class. -/
def ordinals (catalog : Catalog) (className : String) (interfaces : List (String × Interface))
    (objects : List ClassEntry) : List Nat :=
  ((interfaces.zip objects).filter fun pair => pair.1.2.isOfClass catalog className).map
    fun pair => pair.2.ordinal

end ClassEntry

/-- One object for every interface of a configuration, in order. Those of one class are numbered
from zero on. -/
structure Configuration.Objects (configuration : Configuration) (catalog : Catalog)
    (objects : List ClassEntry) : Prop where
  each : List.Forall₂ (ClassEntry.ObjectOf catalog) configuration.interfaces objects
  numbered : ∀ className, ClassEntry.ordinals catalog className configuration.interfaces objects =
    List.range (configuration.instanceCount catalog className)

/-- The table of the reports that an interface names. -/
def ReportTable.TableOf (catalog : Catalog) (entry : String × Interface) (table : ReportTable) :
    Prop :=
  ∃ resolved, ResolvedInterface.resolve catalog entry.1 entry.2 = .ok resolved ∧
    ReportTable.ofNames entry.1 resolved.reportNames = .ok table

theorem ReportTable.TableOf.tag {catalog : Catalog} {entry : String × Interface}
    {table : ReportTable} (made : table.TableOf catalog entry) : table.tag = entry.1 := by
  rcases made with ⟨resolved, -, listed⟩
  simp only [ofNames, outcome_bind_iff, outcome_pure_iff] at listed
  rcases listed with ⟨reports, -, rfl⟩
  rfl

namespace InterfacePlan

variable {catalog : Catalog} {entry : String × Interface} {plan : InterfacePlan}

theorem Planned.template (planned : plan.Planned catalog entry) :
    catalog.templates.get? entry.2.template = some plan.resolved.template :=
  (ResolvedInterface.resolve_ok planned.resolved).2.2.2.1

theorem Planned.carriesReports (planned : plan.Planned catalog entry) :
    entry.2.carriesReports catalog = plan.reports.isSome := by
  rw [Interface.carriesReports, planned.template, planned.reports_isSome]
  rfl

theorem Planned.tableOf (planned : plan.Planned catalog entry) {table : ReportTable}
    (listed : plan.reports = some table) : table.TableOf catalog entry := by
  refine ⟨plan.resolved, planned.resolved, ?_⟩
  rw [← (ResolvedInterface.resolve_ok planned.resolved).1]
  exact planned.reports table listed

theorem tables_of_planned {interfaces : List (String × Interface)} {plans : List InterfacePlan}
    (planned : List.Forall₂ (InterfacePlan.Planned catalog) interfaces plans) :
    List.Forall₂ (ReportTable.TableOf catalog)
      (interfaces.filter fun entry => entry.2.carriesReports catalog)
      (plans.filterMap InterfacePlan.reports) := by
  induction planned with
  | nil => exact .nil
  | @cons entry plan _ _ head _ ih =>
      cases listed : plan.reports with
      | none =>
          have without : entry.2.carriesReports catalog = false := by
            rw [head.carriesReports, listed]
            rfl
          simpa only [List.filter_cons, without, Bool.false_eq_true, if_false,
            List.filterMap_cons, listed] using ih
      | some table =>
          have carries : entry.2.carriesReports catalog = true := by
            rw [head.carriesReports, listed]
            rfl
          simpa only [List.filter_cons, carries, if_true, List.filterMap_cons, listed] using
            List.Forall₂.cons (head.tableOf listed) ih

end InterfacePlan

theorem ClassEntry.ordinals_cons {catalog : Catalog} {className : String}
    {entry : String × Interface} {interfaces : List (String × Interface)} {object : ClassEntry}
    {objects : List ClassEntry} {instances : ClassCounts}
    (own : entry.2.isOfClass catalog className = true →
      object.ordinal = instances.get .device className)
    (others : ordinals catalog className interfaces objects =
      List.range' ((entry.2.addTo catalog instances).get .device className)
        (interfaces.countP fun entry => entry.2.isOfClass catalog className)) :
    ordinals catalog className (entry :: interfaces) (object :: objects) =
      List.range' (instances.get .device className)
        ((entry :: interfaces).countP fun entry => entry.2.isOfClass catalog className) := by
  rw [Interface.get_addTo] at others
  by_cases member : entry.2.isOfClass catalog className = true
  · simp only [member, and_self, if_true] at others
    have split : ordinals catalog className (entry :: interfaces) (object :: objects) =
        object.ordinal :: ordinals catalog className interfaces objects := by
      simp [ordinals, member]
    rw [split, others, own member, List.countP_cons, if_pos member, List.range'_succ]
  · simp only [member, and_false, if_false, Nat.add_zero, Bool.false_eq_true] at others
    have same : ordinals catalog className (entry :: interfaces) (object :: objects) =
        ordinals catalog className interfaces objects := by
      simp [ordinals, member]
    rw [same, others, List.countP_cons, if_neg member, Nat.add_zero]

/-- The interfaces of a configuration are given their objects and tables one by one, each object
numbered by the instances of its class before it. -/
theorem Generation.interfaces_registered {catalog : Catalog} {device configuration : String}
    {instances final : ClassCounts} {interfaces : List (String × Interface)}
    {plans : List InterfacePlan} {all : List EvaluatedInterface} {before after : Session}
    (planned : List.Forall₂ (InterfacePlan.Planned catalog) interfaces plans)
    (run : Generation.interfaces device configuration instances plans before =
      .ok (all, final) after) :
    ∃ objects, after.registry.entries = before.registry.entries ++ objects ∧
      after.reports = before.reports ++ plans.filterMap InterfacePlan.reports ∧
      after.counts = before.counts ∧
      final = interfaces.foldl (fun counts entry => entry.2.addTo catalog counts) instances ∧
      List.Forall₂ (ClassEntry.ObjectOf catalog) interfaces objects ∧
      ∀ className, ClassEntry.ordinals catalog className interfaces objects =
        List.range' (instances.get .device className)
          (interfaces.countP fun entry => entry.2.isOfClass catalog className) := by
  induction planned generalizing instances all before with
  | nil =>
      rcases step_pure_iff.mp run with ⟨same, rfl⟩
      rcases Prod.mk.inj same with ⟨rfl, rfl⟩
      refine ⟨[], ?_, ?_, rfl, rfl, .nil, fun _ => rfl⟩
      · rw [List.append_nil]
      · rw [List.filterMap_nil, List.append_nil]
  | @cons entry plan _ rest head _ ih =>
      rcases interfaces_cons_ok run with ⟨interface, others, registers, evaluated, continued, rfl⟩
      rcases ResolvedInterface.evaluate_ok evaluated with ⟨_, _, _, _, -, -, -, -, rfl⟩
      have template := head.template
      have tag := (ResolvedInterface.resolve_ok head.resolved).1
      have counted : instances.add .device plan.resolved.template.className 1 =
          entry.2.addTo catalog instances := by
        rw [Interface.addTo, template]
      simp only [counted] at continued
      rcases ih continued with ⟨objects, registry, reports, counts, finally_, each, numbered⟩
      let object : ClassEntry := {
        scope := plan.resolved.template.scopeName
        tag := plan.resolved.tag
        host := false
        ordinal := instances.get .device plan.resolved.template.className }
      have entered : before.registry.entries ++ [object] ++ objects =
          before.registry.entries ++ object :: objects := by
        rw [List.append_assoc, List.singleton_append]
      have tables : before.reports ++ plan.reports.toList ++ rest.filterMap InterfacePlan.reports =
          before.reports ++ (plan :: rest).filterMap InterfacePlan.reports := by
        cases listed : plan.reports <;> simp [listed]
      refine ⟨object :: objects, registry.trans entered, reports.trans tables, counts, finally_,
        .cons ⟨tag, rfl, _, template, rfl⟩ each, ?_⟩
      intro className
      apply ClassEntry.ordinals_cons _ (numbered className)
      intro member
      have same : identifier plan.resolved.template.className = identifier className := by
        simpa [Interface.isOfClass, template] using member
      exact ClassCounts.get_congr same

namespace Session

/-- Between two states of a run the interfaces of a list of configurations were registered: their
objects, a group for every configuration, their report tables, and the counts of their classes. -/
structure Entered (catalog : Catalog) (before after : Session)
    (configurations : List (String × Configuration)) (groups : List (List ClassEntry))
    (tables : List ReportTable) : Prop where
  registry : after.registry.entries = before.registry.entries ++ groups.flatten
  reports : after.reports = before.reports ++ tables
  counts : after.counts =
    before.counts.mergeAll (configurations.map fun entry => entry.2.instances catalog)
  objects : List.Forall₂ (fun entry group => entry.2.Objects catalog group) configurations groups
  tablesOf : List.Forall₂ (ReportTable.TableOf catalog)
    (configurations.flatMap fun entry => entry.2.reportInterfaces catalog) tables

variable {catalog : Catalog} {before middle after : Session}

theorem Entered.nothing : Entered catalog before before [] [] [] where
  registry := by simp
  reports := by simp
  counts := rfl
  objects := .nil
  tablesOf := .nil

theorem Entered.append {configurations more : List (String × Configuration)}
    {groups others : List (List ClassEntry)} {tables further : List ReportTable}
    (first : Entered catalog before middle configurations groups tables)
    (second : Entered catalog middle after more others further) :
    Entered catalog before after (configurations ++ more) (groups ++ others)
      (tables ++ further) where
  registry := by
    rw [second.registry, first.registry, List.flatten_append, List.append_assoc]
  reports := by
    rw [second.reports, first.reports, List.append_assoc]
  counts := by
    rw [List.map_append, ClassCounts.mergeAll_append, ← first.counts, ← second.counts]
  objects := List.rel_append first.objects second.objects
  tablesOf := by
    rw [List.flatMap_append]
    exact List.rel_append first.tablesOf second.tablesOf

end Session

namespace Generation

open Session (Entered)

variable {catalog : Catalog} {before after : Session}

theorem configuration_entered {device : String} {number : Nat}
    {entry : String × Configuration} {plan : ConfigurationPlan} {block : ConfigurationBlock}
    (planned : plan.Planned catalog entry)
    (run : configuration device number plan before = .ok block after) :
    ∃ group tables, Entered catalog before after [entry] [group] tables := by
  rcases configuration_ok run with
    ⟨description, strings, all, instances, middle, -, evaluated, -, -, rfl⟩
  rcases interfaces_registered planned.interfaces evaluated with
    ⟨objects, registry, reports, counts, rfl, each, numbered⟩
  refine ⟨objects, plan.interfaces.filterMap InterfacePlan.reports, ?_⟩
  constructor
  · simpa using registry
  · exact reports
  · change middle.counts.mergeMax _ = before.counts.mergeMax _
    rw [counts]
    rfl
  · refine .cons ⟨each, ?_⟩ .nil
    intro className
    rw [numbered className, ClassCounts.get_empty, List.range_eq_range']
    rfl
  · simpa [Configuration.reportInterfaces] using
      InterfacePlan.tables_of_planned planned.interfaces

theorem configurations_entered {device : String} {number : Nat}
    {entries : List (String × Configuration)} {plans : List ConfigurationPlan}
    {blocks : List ConfigurationBlock}
    (planned : List.Forall₂ (ConfigurationPlan.Planned catalog) entries plans)
    (run : configurations device number plans before = .ok blocks after) :
    ∃ groups tables, Entered catalog before after entries groups tables := by
  induction planned generalizing number blocks before with
  | nil =>
      rcases step_pure_iff.mp run with ⟨-, rfl⟩
      exact ⟨[], [], .nothing⟩
  | cons head _ ih =>
      simp only [configurations, step_bind_iff, step_pure_iff] at run
      rcases run with ⟨block, middle, first, others, _, continued, -, rfl⟩
      rcases configuration_entered head first with ⟨group, tables, entered⟩
      rcases ih continued with ⟨groups, further, later⟩
      exact ⟨_, _, entered.append later⟩

/-- The strings of a device register no interfaces. -/
theorem device_entered {entry : String × Device} {plan : DevicePlan} {block : DeviceBlock}
    (planned : plan.Planned catalog entry) (run : device plan before = .ok block after) :
    ∃ groups tables, Entered catalog before after entry.2.configurations groups tables := by
  simp only [device, step_bind_iff, step_pure_iff, report_ok_iff, evaluation_ok_iff] at run
  rcases run with ⟨_, _, rfl, _, _, ⟨_, -, rfl⟩, _, _, ⟨_, -, rfl⟩, _, _, ⟨_, -, rfl⟩, blocks, _,
    made, -, rfl⟩
  rcases configurations_entered planned.configurations made with ⟨groups, tables, entered⟩
  exact ⟨groups, tables, entered.registry, entered.reports, entered.counts, entered.objects,
    entered.tablesOf⟩

theorem devices_entered {entries : List (String × Device)} {plans : List DevicePlan}
    {blocks : List DeviceBlock}
    (planned : List.Forall₂ (DevicePlan.Planned catalog) entries plans)
    (run : devices plans before = .ok blocks after) :
    ∃ groups tables, Entered catalog before after
      (entries.flatMap fun entry => entry.2.configurations) groups tables := by
  induction planned generalizing blocks before with
  | nil =>
      rcases step_pure_iff.mp run with ⟨-, rfl⟩
      exact ⟨[], [], .nothing⟩
  | cons head _ ih =>
      simp only [devices, step_bind_iff, step_pure_iff] at run
      rcases run with ⟨block, middle, first, others, _, continued, -, rfl⟩
      rcases device_entered head first with ⟨groups, tables, entered⟩
      rcases ih continued with ⟨more, further, later⟩
      exact ⟨_, _, entered.append later⟩

/-- The first device fills the front of the report tables, and as many are served. -/
theorem servedDevices_entered {first : String × Device} {rest : List (String × Device)}
    {plans : List DevicePlan} {blocks : List DeviceBlock} {served : Nat}
    (planned : List.Forall₂ (DevicePlan.Planned catalog) (first :: rest) plans)
    (run : servedDevices plans before = .ok (blocks, served) after) :
    ∃ groups tables more further, ∃ middle,
      Entered catalog before middle first.2.configurations groups tables ∧
      Entered catalog middle after (rest.flatMap fun entry => entry.2.configurations) more
        further ∧
      served = before.reports.length + tables.length := by
  cases planned with
  | cons head others =>
      simp only [servedDevices, step_bind_iff, step_pure_iff] at run
      rcases run with ⟨block, middle, ran, count, _, counted, blocks, _, continued, same, rfl⟩
      rcases Prod.mk.inj same with ⟨-, rfl⟩
      cases counted
      rcases device_entered head ran with ⟨groups, tables, entered⟩
      rcases devices_entered others continued with ⟨more, further, later⟩
      refine ⟨groups, tables, more, further, middle, entered, later, ?_⟩
      rw [entered.reports, List.length_append]

theorem announce_ok {plans : List DevicePlan} {result : Unit}
    (run : announce plans before = .ok result after) :
    ∃ registers, after = { before with registers } := by
  unfold announce at run
  split at run
  · rcases report_ok_iff.mp run with rfl
    exact ⟨_, rfl⟩
  · rcases step_pure_iff.mp run with ⟨-, rfl⟩
    exact ⟨before.registers, rfl⟩

/-- A host class is given an object and adds to the counts of its class. -/
theorem hosts_registered {sections : OrderedMap HostSection} {result : Unit}
    (run : hosts catalog sections before = .ok result after) :
    ∃ objects, after.registry.entries = before.registry.entries ++ objects ∧
      after.reports = before.reports ∧
      after.counts = sections.foldl (fun counts entry => catalog.addHost counts entry)
        before.counts ∧
      List.Forall₂ (fun entry object => object.tag = entry.1 ∧ object.host = true)
        sections objects := by
  induction sections generalizing before with
  | nil =>
      rcases step_pure_iff.mp run with ⟨-, rfl⟩
      exact ⟨[], (List.append_nil _).symm, rfl, rfl, .nil⟩
  | cons entry rest ih =>
      simp only [hosts, step_bind_iff, planning_ok_iff, Planning.lift_ok_iff, report_ok_iff,
        change_ok_iff] at run
      rcases run with ⟨host, _, ⟨_, ⟨found, rfl⟩, rfl⟩, _, _, rfl, _, _, rfl, continued⟩
      rcases ih continued with ⟨objects, registry, reports, counts, each⟩
      refine ⟨_ :: objects, registry.trans (List.append_assoc _ _ _), reports, ?_,
        .cons ⟨rfl, rfl⟩ each⟩
      rw [List.foldl_cons, Catalog.addHost_of_ok found]
      exact counts

end Generation

/-- The interfaces of the device that is served. -/
def Document.servedInterfaces (document : Document) (catalog : Catalog) :
    List (String × Interface) :=
  match document.devices with
  | [] => []
  | first :: _ => first.2.reportInterfaces catalog

/-- The objects, report tables and counts that a run on a document leaves behind. -/
structure Generated.Registered (generated : Generated) (document : Document) (catalog : Catalog)
    (groups : List (List ClassEntry)) (hosts : List ClassEntry) : Prop where
  registry : generated.registry.entries = groups.flatten ++ hosts
  groups : List.Forall₂ (fun entry group => entry.2.Objects catalog group)
    document.allConfigurations groups
  hosts : List.Forall₂ (fun entry object => object.tag = entry.1 ∧ object.host = true)
    document.hosts hosts
  reports : List.Forall₂ (ReportTable.TableOf catalog) (document.reportInterfaces catalog)
    generated.reports
  served : List.Forall₂ (ReportTable.TableOf catalog) (document.servedInterfaces catalog)
    generated.served
  counts : generated.counts = document.counts catalog document.allConfigurations

theorem Generation.document_registered {catalog : Catalog} {content : Document}
    {generated : Generated} {after : Session}
    (run : document catalog content {} = .ok generated after) :
    ∃ groups hosts, generated.Registered content catalog groups hosts := by
  rcases document_steps run with
    ⟨plans, _, announced, devices, served, middle, planned, announcing, made, hosted, rfl⟩
  rcases announce_ok announcing with ⟨registers, rfl⟩
  rcases hosts_registered hosted with ⟨objects, registry, reports, counts, each⟩
  have planned := planDocument_ok planned
  cases given : content.devices with
  | nil =>
      rw [given] at planned
      cases planned
      rcases step_pure_iff.mp made with ⟨same, rfl⟩
      rcases Prod.mk.inj same with ⟨rfl, rfl⟩
      refine ⟨[], objects, registry, ?_, each, ?_, ?_, ?_⟩
      · simp [Document.allConfigurations, given]
      · simp [Document.reportInterfaces, Document.allConfigurations, given, reports]
      · simp [Document.servedInterfaces, given, Generated.served]
      · rw [Document.counts, Document.allConfigurations, given]
        exact counts
  | cons first rest =>
      rw [given] at planned
      rcases servedDevices_entered planned made with
        ⟨groups, tables, more, further, _, entered, later, rfl⟩
      have all := entered.append later
      have configurations : content.allConfigurations = first.2.configurations ++
          rest.flatMap fun entry => entry.2.configurations := by
        rw [Document.allConfigurations, given, List.flatMap_cons]
      have listed : after.reports = tables ++ further := by
        rw [reports, all.reports]
        rfl
      refine ⟨groups ++ more, objects, ?_, ?_, each, ?_, ?_, ?_⟩
      · exact registry.trans (congrArg (· ++ objects) all.registry)
      · rw [configurations]
        exact all.objects
      · rw [Document.reportInterfaces, configurations, listed]
        exact all.tablesOf
      · simpa [Document.servedInterfaces, given, Generated.served, listed,
          Device.reportInterfaces] using entered.tablesOf
      · rw [Document.counts, configurations]
        rw [counts, all.counts]

/-- Every successful run has registered the interfaces and host sections of its document. -/
theorem Document.registered_of_generate {catalog : Catalog} {document : Document}
    {generated : Generated} (run : document.generate catalog = .ok generated) :
    ∃ groups hosts, generated.Registered document catalog groups hosts := by
  rcases generate_ok_iff.mp run with ⟨session, ran⟩
  exact Generation.document_registered ran

/-- All interfaces of a successful run are planned and evaluated. -/
theorem Document.evaluates_of_generate {catalog : Catalog} {document : Document}
    {generated : Generated} (run : document.generate catalog = .ok generated)
    {entry : String × Interface} (mem : entry ∈ document.allInterfaces) :
    ∃ device configuration plan evaluated, InterfacePlan.Planned catalog entry plan ∧
      InterfacePlan.Yields device configuration plan evaluated := by
  rcases mem_allInterfaces_iff.mp mem with
    ⟨device, deviceMem, configuration, configurationMem, entryMem⟩
  rcases exists_block_of_generate run deviceMem configurationMem with ⟨_, -, _, -, _, origin⟩
  rcases Related.exists_right origin.interfaces entryMem with
    ⟨evaluated, -, plan, planned, yields⟩
  exact ⟨device.1, configuration.1, plan, evaluated, planned, yields⟩

theorem Document.resolves_of_generate {catalog : Catalog} {document : Document}
    {generated : Generated} (run : document.generate catalog = .ok generated)
    {entry : String × Interface} (mem : entry ∈ document.allInterfaces) :
    ∃ resolved, ResolvedInterface.resolve catalog entry.1 entry.2 = .ok resolved := by
  rcases evaluates_of_generate run mem with ⟨_, _, plan, _, planned, -⟩
  exact ⟨plan.resolved, planned.resolved⟩

end UsbDescriptors
