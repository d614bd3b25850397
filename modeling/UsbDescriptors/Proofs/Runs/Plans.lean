import UsbDescriptors.Proofs.Runs.Steps
import Mathlib.Data.List.Forall2

/-!
# Plans of a document

A successful planning follows the document item by item: there is one plan for every device,
configuration and interface, in the order of the document, and each plan holds what the names of
its item are looked up as. `Planned` says this on every level, and the main statement is
`planDocument_ok`.
-/

namespace UsbDescriptors

/-- The plan of an interface: the interface joined with its template, and a table of its reports
if the template lists reports. -/
structure InterfacePlan.Planned (catalog : Catalog) (entry : String × Interface)
    (plan : InterfacePlan) : Prop where
  resolved : ResolvedInterface.resolve catalog entry.1 entry.2 = .ok plan.resolved
  reports_isSome : plan.reports.isSome = plan.resolved.template.reports.isSome
  reports : ∀ table, plan.reports = some table →
    ReportTable.ofNames plan.resolved.tag plan.resolved.reportNames = .ok table

structure ConfigurationPlan.Planned (catalog : Catalog) (entry : String × Configuration)
    (plan : ConfigurationPlan) : Prop where
  tag : plan.tag = entry.1
  configuration : plan.configuration = entry.2
  interfaces : List.Forall₂ (InterfacePlan.Planned catalog) entry.2.interfaces plan.interfaces

structure DevicePlan.Planned (catalog : Catalog) (entry : String × Device)
    (plan : DevicePlan) : Prop where
  tag : plan.tag = entry.1
  device : plan.device = entry.2
  codes : ClassCodes.lookup entry.2.className entry.2.subclass entry.2.protocol = .ok plan.codes
  configurations :
    List.Forall₂ (ConfigurationPlan.Planned catalog) entry.2.configurations plan.configurations

/-- What joining an interface with its template keeps, and where the template comes from. -/
theorem ResolvedInterface.resolve_ok {catalog : Catalog} {tag : String} {interface : Interface}
    {resolved : ResolvedInterface}
    (run : ResolvedInterface.resolve catalog tag interface = .ok resolved) :
    resolved.tag = tag ∧ resolved.templateName = interface.template ∧
      resolved.description = interface.description ∧
      catalog.templates.get? interface.template = some resolved.template ∧
      propertyValues tag interface.properties resolved.template.properties =
        .ok resolved.properties := by
  simp only [resolve, outcome_bind_iff, outcome_pure_iff] at run
  rcases run with ⟨template, found, properties, values, rfl⟩
  refine ⟨rfl, rfl, rfl, ?_, values⟩
  unfold Catalog.template at found
  split at found
  next present => rw [present, Except.ok.inj found]
  next absent => cases found

theorem planReports_ok {resolved : ResolvedInterface} {reports : Option ReportTable}
    {before after : List Event} (run : planReports resolved before = .ok reports after) :
    reports.isSome = resolved.template.reports.isSome ∧
      ∀ table, reports = some table →
        ReportTable.ofNames resolved.tag resolved.reportNames = .ok table := by
  unfold planReports at run
  cases listed : resolved.template.reports with
  | none =>
      rw [listed] at run
      rcases step_pure_iff.mp run with ⟨rfl, -⟩
      simp
  | some name =>
      rw [listed] at run
      have made : ∃ table,
          ReportTable.ofNames resolved.tag resolved.reportNames = .ok table ∧
            some table = reports := by
        dsimp only at run
        split at run
        next empty =>
          simp only [step_bind_iff, step_pure_iff, Planning.lift_ok_iff] at run
          rcases run with ⟨_, _, -, table, _, ⟨made, -⟩, same, -⟩
          exact ⟨table, made, same⟩
        next listing =>
          simp only [step_bind_iff, step_pure_iff, Planning.lift_ok_iff] at run
          rcases run with ⟨table, _, ⟨made, -⟩, same, -⟩
          exact ⟨table, made, same⟩
      rcases made with ⟨table, made, rfl⟩
      simp [made]

theorem planInterface_ok {catalog : Catalog} {tag : String} {interface : Interface}
    {plan : InterfacePlan} {before after : List Event}
    (run : planInterface catalog tag interface before = .ok plan after) :
    plan.Planned catalog (tag, interface) := by
  simp only [planInterface, step_bind_iff, step_pure_iff, Planning.lift_ok_iff] at run
  rcases run with ⟨resolved, _, ⟨found, rfl⟩, reports, _, planned, rfl, -⟩
  rcases planReports_ok planned with ⟨present, tables⟩
  exact ⟨found, present, tables⟩

theorem planInterfaces_ok {catalog : Catalog} {interfaces : OrderedMap Interface}
    {plans : List InterfacePlan} {before after : List Event}
    (run : planInterfaces catalog interfaces before = .ok plans after) :
    List.Forall₂ (InterfacePlan.Planned catalog) interfaces plans := by
  induction interfaces generalizing plans before with
  | nil =>
      rcases step_pure_iff.mp run with ⟨rfl, -⟩
      exact .nil
  | cons entry rest ih =>
      simp only [planInterfaces, step_bind_iff, step_pure_iff] at run
      rcases run with ⟨plan, _, first, plans, _, others, rfl, rfl⟩
      exact .cons (planInterface_ok first) (ih others)

theorem planConfigurations_ok {catalog : Catalog} {device : String} {earlier : Option String}
    {configurations : OrderedMap Configuration} {plans : List ConfigurationPlan}
    {before after : List Event}
    (run : planConfigurations catalog device earlier configurations before = .ok plans after) :
    List.Forall₂ (ConfigurationPlan.Planned catalog) configurations plans := by
  induction configurations generalizing plans earlier before with
  | nil =>
      rcases step_pure_iff.mp run with ⟨rfl, -⟩
      exact .nil
  | cons entry rest ih =>
      simp only [planConfigurations, step_bind_iff, step_pure_iff] at run
      rcases run with ⟨interfaces, _, first, earlier, _, -, plans, _, others, rfl, rfl⟩
      exact .cons ⟨rfl, rfl, planInterfaces_ok first⟩ (ih others)

theorem planDevices_ok {catalog : Catalog} {devices : OrderedMap Device}
    {plans : List DevicePlan} {before after : List Event}
    (run : planDevices catalog devices before = .ok plans after) :
    List.Forall₂ (DevicePlan.Planned catalog) devices plans := by
  induction devices generalizing plans before with
  | nil =>
      rcases step_pure_iff.mp run with ⟨rfl, -⟩
      exact .nil
  | cons entry rest ih =>
      simp only [planDevices, step_bind_iff, step_pure_iff, Planning.lift_ok_iff] at run
      rcases run with ⟨codes, _, ⟨found, -⟩, configurations, _, first, plans, _, others, rfl, rfl⟩
      exact .cons ⟨rfl, rfl, found, planConfigurations_ok first⟩ (ih others)

/-- A successful planning has one plan for every device of the document, in order. -/
theorem planDocument_ok {catalog : Catalog} {document : Document} {plans : List DevicePlan}
    {before after : List Event}
    (run : planDocument catalog document before = .ok plans after) :
    List.Forall₂ (DevicePlan.Planned catalog) document.devices plans := by
  simp only [planDocument, step_bind_iff, step_pure_iff] at run
  rcases run with ⟨planned, _, devices, _, _, -, rfl, -⟩
  exact planDevices_ok devices

end UsbDescriptors
