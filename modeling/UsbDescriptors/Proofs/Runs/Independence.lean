import UsbDescriptors.Catalog.Builtin
import UsbDescriptors.Proofs.Endpoints.Addresses

/-!
# Independence of configuration blocks

A run collects strings, global defines, class counts, runtime objects and report tables over all
devices, and every configuration is generated in the middle of that. Of everything collected so
far, a step through the interfaces of a configuration looks at the endpoint allocator alone, and
the allocator is fresh at the start of every configuration. Strings are looked up, but only to find
out whether a symbol is known, and the symbol is the same in either case. Two runs that meet the
same configuration therefore make the same block of it.
-/

namespace UsbDescriptors

universe u

section Views

variable {Failure State View α β : Type u} {view : State → View}

/-- A part of the state determines what a step does: two successful runs of the step from states
that agree in this part give the same result, and they agree in it afterwards. -/
def DeterminedBy (view : State → View) (step : EStateM Failure State α) : Prop :=
  ∀ ⦃result other : α⦄ ⦃before after otherBefore otherAfter : State⦄,
    step before = .ok result after → step otherBefore = .ok other otherAfter →
      view before = view otherBefore → result = other ∧ view after = view otherAfter

theorem determinedBy_pure (value : α) :
    DeterminedBy view (pure value : EStateM Failure State α) := by
  intro result other before after otherBefore otherAfter run otherRun agree
  rcases step_pure_iff.mp run with ⟨rfl, rfl⟩
  rcases step_pure_iff.mp otherRun with ⟨rfl, rfl⟩
  exact ⟨rfl, agree⟩

theorem DeterminedBy.bind {first : EStateM Failure State α}
    {next : α → EStateM Failure State β} (determined : DeterminedBy view first)
    (continued : ∀ value, DeterminedBy view (next value)) : DeterminedBy view (first >>= next) := by
  intro result other before after otherBefore otherAfter run otherRun agree
  rcases step_bind_iff.mp run with ⟨value, middle, ran, rest⟩
  rcases step_bind_iff.mp otherRun with ⟨otherValue, otherMiddle, otherRan, otherRest⟩
  have same := determined ran otherRan agree
  rw [← same.1] at otherRest
  exact continued value rest otherRest same.2

end Views

variable {α : Type}

theorem StringTable.id_of_add {strings table : StringTable} {owner property id : String}
    {value : Option String} (added : strings.add owner property value = .ok (id, table)) :
    id = symbol owner property := by
  unfold add at added
  dsimp only at added
  split at added
  next =>
    cases added
    rfl
  next =>
    split at added
    next =>
      cases added
      rfl
    next => cases added

namespace Evaluation

theorem determinedBy_lift (outcome : Except Fault α) :
    DeterminedBy Registers.endpoints (lift outcome) := by
  intro result other before after otherBefore otherAfter run otherRun agree
  rcases lift_ok_iff.mp run with ⟨found, rfl⟩
  rcases lift_ok_iff.mp otherRun with ⟨otherFound, rfl⟩
  exact ⟨Except.ok.inj (found.symm.trans otherFound), agree⟩

/-- The symbol of a string does not tell whether the string was known before. -/
theorem determinedBy_addString (owner : String) (string : String × Option String) :
    DeterminedBy Registers.endpoints (addString owner string) := by
  intro result other before after otherBefore otherAfter run otherRun agree
  rcases addString_ok_iff.mp run with ⟨strings, added, rfl⟩
  rcases addString_ok_iff.mp otherRun with ⟨otherStrings, otherAdded, rfl⟩
  have named := StringTable.id_of_add added
  have otherNamed := StringTable.id_of_add otherAdded
  exact ⟨named.trans otherNamed.symm, agree⟩

theorem determinedBy_addStrings (owner : String) (strings : List (String × Option String)) :
    DeterminedBy Registers.endpoints (addStrings owner strings) := by
  induction strings with
  | nil => exact determinedBy_pure ()
  | cons string rest ih => exact (determinedBy_addString owner string).bind fun _ => ih

theorem determinedBy_allocate (tag : String) (direction : Direction) (symbol : String) :
    DeterminedBy Registers.endpoints (allocate tag direction symbol) := by
  intro result other before after otherBefore otherAfter run otherRun agree
  rcases allocate_ok_iff.mp run with ⟨rfl, rfl⟩
  rcases allocate_ok_iff.mp otherRun with ⟨rfl, rfl⟩
  simp only [agree, and_self]

theorem determinedBy_recordGlobal (name value tag : String) :
    DeterminedBy Registers.endpoints (recordGlobal name value tag) := by
  intro result other before after otherBefore otherAfter run otherRun agree
  rcases recordGlobal_ok_iff.mp run with ⟨globals, -, rfl⟩
  rcases recordGlobal_ok_iff.mp otherRun with ⟨otherGlobals, -, rfl⟩
  exact ⟨rfl, agree⟩

theorem determinedBy_enter (tag : String) (argument : Argument) :
    DeterminedBy Registers.endpoints (enter tag argument) := by
  cases argument with
  | text value => exact determinedBy_pure _
  | endpoint direction symbol =>
      apply (determinedBy_allocate tag direction symbol).bind
      intro endpoint
      exact determinedBy_pure _
  | strings first rest =>
      apply (determinedBy_addString tag first).bind
      intro id
      apply (determinedBy_addStrings tag rest).bind
      intro _
      exact determinedBy_pure _

theorem determinedBy_enterFields (interface : ResolvedInterface) (context : Context)
    (fields : List Field) :
    DeterminedBy Registers.endpoints (enterFields interface context fields) := by
  induction fields with
  | nil => exact determinedBy_pure _
  | cons field rest ih =>
      apply (determinedBy_lift _).bind
      intro argument
      apply (determinedBy_enter interface.tag argument).bind
      intro entered
      apply ih.bind
      intro more
      exact determinedBy_pure _

end Evaluation

namespace ResolvedInterface

theorem determinedBy_recordGlobals (tag : String) (defines : List (String × String)) :
    DeterminedBy Registers.endpoints (recordGlobals tag defines) := by
  induction defines with
  | nil => exact determinedBy_pure _
  | cons define rest ih =>
      exact (Evaluation.determinedBy_recordGlobal define.1 define.2 tag).bind fun _ => ih

theorem determinedBy_evaluate (interface : ResolvedInterface) (device configuration : String) :
    DeterminedBy Registers.endpoints (interface.evaluate device configuration) := by
  apply (Evaluation.determinedBy_enterFields interface _ _).bind
  intro entered
  apply (determinedBy_recordGlobals interface.tag _).bind
  intro _
  apply (Evaluation.determinedBy_lift _).bind
  intro descriptor
  apply (Evaluation.determinedBy_lift _).bind
  intro length
  exact determinedBy_pure _

end ResolvedInterface

namespace Generation

theorem determinedBy_interfaces (device configuration : String) (instances : ClassCounts)
    (plans : List InterfacePlan) :
    DeterminedBy (fun session : Session => session.registers.endpoints)
      (interfaces device configuration instances plans) := by
  induction plans generalizing instances with
  | nil => exact determinedBy_pure _
  | cons plan rest ih =>
      rintro ⟨all, final⟩ ⟨otherAll, otherFinal⟩ before after otherBefore otherAfter run otherRun
        agree
      rcases interfaces_cons_ok run with ⟨interface, others, registers, evaluated, continued, rfl⟩
      rcases interfaces_cons_ok otherRun with
        ⟨otherInterface, otherOthers, otherRegisters, otherEvaluated, otherContinued, rfl⟩
      rcases plan.resolved.determinedBy_evaluate device configuration evaluated otherEvaluated
        agree with ⟨rfl, stillAgree⟩
      rcases ih _ continued otherContinued stillAgree with ⟨same, finallyAgree⟩
      rcases Prod.mk.inj same with ⟨rfl, rfl⟩
      exact ⟨rfl, finallyAgree⟩

end Generation

/-- Whatever the run has collected before, a plan of a configuration yields one block. -/
theorem ConfigurationPlan.Yields.unique {device : String} {plan : ConfigurationPlan × Nat}
    {block other : ConfigurationBlock} (yields : Yields device plan block)
    (otherYields : Yields device plan other) : block = other := by
  rcases yields with ⟨before, after, run⟩
  rcases otherYields with ⟨otherBefore, otherAfter, otherRun⟩
  rcases Generation.configuration_ok run with
    ⟨description, strings, all, instances, middle, added, evaluated, -, rfl, -⟩
  rcases Generation.configuration_ok otherRun with
    ⟨otherDescription, otherStrings, otherAll, otherInstances, otherMiddle, otherAdded,
      otherEvaluated, -, rfl, -⟩
  have described : description = otherDescription :=
    (StringTable.id_of_add added).trans (StringTable.id_of_add otherAdded).symm
  have same := Generation.determinedBy_interfaces device plan.1.tag .empty plan.1.interfaces
    evaluated otherEvaluated rfl
  have interfaces : all = otherAll := congrArg Prod.fst same.1
  rw [described, interfaces]

theorem InterfacePlan.Planned.unique {catalog : Catalog} {entry : String × Interface}
    {plan other : InterfacePlan} (planned : plan.Planned catalog entry)
    (otherPlanned : other.Planned catalog entry) : plan = other := by
  rcases plan with ⟨resolved, reports⟩
  rcases other with ⟨otherResolved, otherReports⟩
  rcases Except.ok.inj (planned.resolved.symm.trans otherPlanned.resolved) with rfl
  have present : reports.isSome = otherReports.isSome :=
    planned.reports_isSome.trans otherPlanned.reports_isSome.symm
  cases reports with
  | none =>
      have absent : otherReports = none := Option.isNone_iff_eq_none.mp (by simpa using present.symm)
      rw [absent]
  | some table =>
      rcases Option.isSome_iff_exists.mp present.symm with ⟨otherTable, rfl⟩
      have made := planned.reports table rfl
      have otherMade := otherPlanned.reports otherTable rfl
      rw [Except.ok.inj (made.symm.trans otherMade)]

theorem ConfigurationPlan.Planned.unique {catalog : Catalog} {entry : String × Configuration}
    {plan other : ConfigurationPlan} (planned : plan.Planned catalog entry)
    (otherPlanned : other.Planned catalog entry) : plan = other := by
  rcases plan with ⟨tag, configuration, interfaces⟩
  rcases other with ⟨otherTag, otherConfiguration, otherInterfaces⟩
  rcases planned with ⟨rfl, rfl, plans⟩
  rcases otherPlanned with ⟨rfl, rfl, otherPlans⟩
  have same : interfaces = otherInterfaces :=
    Related.unique (fun _ _ _ first second => first.unique second) plans otherPlans
  rw [same]

/-- A configuration and its number in a device make one block. -/
theorem ConfigurationBlock.MadeFrom.unique {catalog : Catalog} {device : String}
    {entry : (String × Configuration) × Nat} {block other : ConfigurationBlock}
    (made : block.MadeFrom catalog device entry) (otherMade : other.MadeFrom catalog device entry) :
    block = other := by
  rcases made with ⟨plan, planned, yields⟩
  rcases otherMade with ⟨otherPlan, otherPlanned, otherYields⟩
  rw [← planned.unique otherPlanned] at otherYields
  exact yields.unique otherYields

/-- The block of a configuration, by the positions of its device and of itself. -/
def Generated.block? (generated : Generated) (device configuration : Nat) :
    Option ConfigurationBlock :=
  generated.devices[device]?.bind fun block => block.configurations[configuration]?

namespace Document

theorem exists_madeFrom_of_generate {catalog : Catalog} {document : Document}
    {generated : Generated} (run : document.generate catalog = .ok generated)
    {index position : Nat} {tag : String} {device : Device}
    {configuration : String × Configuration}
    (present : document.devices[index]? = some (tag, device))
    (held : device.configurations[position]? = some configuration) :
    ∃ block, generated.block? index position = some block ∧
      block.MadeFrom catalog tag (configuration, position + 1) := by
  rcases Related.exists_getElem? (generate_ok run) present with ⟨found, foundAt, made⟩
  have numbered :
      (device.configurations.zipIdx 1)[position]? = some (configuration, position + 1) := by
    rw [List.getElem?_zipIdx, held, Nat.add_comm]
    rfl
  rcases Related.exists_getElem? made.configurations numbered with ⟨block, blockAt, origin⟩
  refine ⟨block, ?_, origin⟩
  rw [Generated.block?, foundAt]
  exact blockAt

/-- Two successful runs with one catalog make the same block of a configuration that stands at the
same position in devices of the same tag, whatever else the two documents hold. -/
theorem block_eq_of_generate {catalog : Catalog} {document other : Document}
    {generated otherGenerated : Generated} (run : document.generate catalog = .ok generated)
    (otherRun : other.generate catalog = .ok otherGenerated)
    {index otherIndex position : Nat} {tag : String} {device otherDevice : Device}
    {configuration : String × Configuration}
    (present : document.devices[index]? = some (tag, device))
    (otherPresent : other.devices[otherIndex]? = some (tag, otherDevice))
    (held : device.configurations[position]? = some configuration)
    (otherHeld : otherDevice.configurations[position]? = some configuration) :
    ∃ block, generated.block? index position = some block ∧
      otherGenerated.block? otherIndex position = some block := by
  rcases exists_madeFrom_of_generate run present held with ⟨block, blockAt, made⟩
  rcases exists_madeFrom_of_generate otherRun otherPresent otherHeld with
    ⟨otherBlock, otherBlockAt, otherMade⟩
  refine ⟨block, blockAt, ?_⟩
  rw [otherBlockAt, made.unique otherMade]

/-- The device of `serialAndStorage` behind another one, which gives the string of its configuration
another text under the same symbol, and next to a host class. -/
def behindAnother : Document where
  devices :=
    ("other", {
      vendor := .number 2
      configurations := [("Config1", {
        description := some "Other"
        interfaces := [("cdc1", { template := "cdc" })] })] }) :: serialAndStorage.devices
  hosts := [("hid", {})]

theorem block_eq_behindAnother : ∃ generated otherGenerated block,
    serialAndStorage.generate Catalog.builtin = .ok generated ∧
      behindAnother.generate Catalog.builtin = .ok otherGenerated ∧
      generated.block? 0 0 = some block ∧ otherGenerated.block? 1 0 = some block := by
  have success : (serialAndStorage.generate Catalog.builtin).isOk = true := by decide +kernel
  have otherSuccess : (behindAnother.generate Catalog.builtin).isOk = true := by decide +kernel
  rcases outcome_isOk_iff.mp success with ⟨generated, run⟩
  rcases outcome_isOk_iff.mp otherSuccess with ⟨otherGenerated, otherRun⟩
  rcases @block_eq_of_generate _ _ _ _ _ run otherRun 0 1 0 _ _ _ _ rfl rfl rfl rfl with
    ⟨block, same⟩
  exact ⟨generated, otherGenerated, block, run, otherRun, same⟩

end Document

end UsbDescriptors
