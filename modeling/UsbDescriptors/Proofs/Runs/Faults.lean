import UsbDescriptors.Proofs.Document.Kinds

/-!
# Faults of a run

A run can fail for what a document chooses: for names that nothing is known under, for properties
that it leaves out, for values that do not go together, and for hardware or texts that are too
large. If the catalog is sound and closed and the document fits its templates, these are all the
faults there are. Every step is looked at once; the steps that use variables are the only ones for
which anything about the catalog matters, and only recording a global define can end in a
disagreement.
-/

namespace UsbDescriptors

universe u

/-- A fault that the choices of a document cause. The others are faults of the catalog, of the
output templates, of the files, or of a document that does not fit the catalog. -/
def Fault.IsOfDocument : Fault → Prop
  | .unknownTemplate _ _ | .unknownName _ _ | .unknownReport _ _ | .missingProperty _ _
  | .globalConflict _ _ _ _ _ | .hidConfigurations _ _ _ | .tooManyEndpoints _ _ _
  | .stringTooLong _ _ _ => True
  | .invalidDocument _ | .noDirection _ _ | .undefinedVariable _ _ | .invalidCatalog _
  | .file _ => False

/-- Whether a fault is a disagreement about a global define. -/
def Fault.IsConflict : Fault → Prop
  | .globalConflict _ _ _ _ _ => True
  | _ => False

/-- A fault of a document that no disagreement about a global define causes. -/
def Fault.IsOfItem (fault : Fault) : Prop :=
  fault.IsOfDocument ∧ ¬ fault.IsConflict

section Kinds

variable {Failure State α β : Type u} {kind other : Failure → Prop}

def OutcomeFailsOnly (kind : Failure → Prop) (outcome : Except Failure α) : Prop :=
  ∀ failure, outcome = .error failure → kind failure

/-- Wherever a step starts, it fails with failures of some kind only. -/
def FailsOnly (kind : Failure → Prop) (step : EStateM Failure State α) : Prop :=
  ∀ before failure after, step before = .error failure after → kind failure

theorem outcomeFailsOnly_pure (value : α) :
    OutcomeFailsOnly kind (pure value : Except Failure α) := by
  intro failure failed
  cases failed

theorem outcomeFailsOnly_error {failure : Failure} (own : kind failure) :
    OutcomeFailsOnly kind (.error failure : Except Failure α) := by
  intro other failed
  cases failed
  exact own

theorem outcomeFailsOnly_of_exists {outcome : Except Failure α}
    (succeeds : ∃ result, outcome = .ok result) : OutcomeFailsOnly kind outcome := by
  rcases succeeds with ⟨result, rfl⟩
  exact outcomeFailsOnly_pure result

theorem OutcomeFailsOnly.bind {first : Except Failure α} {next : α → Except Failure β}
    (own : OutcomeFailsOnly kind first) (continued : ∀ value, OutcomeFailsOnly kind (next value)) :
    OutcomeFailsOnly kind (first >>= next) := by
  intro failure failed
  cases first with
  | error other =>
      cases failed
      exact own failure rfl
  | ok value => exact continued value failure failed

theorem OutcomeFailsOnly.map {outcome : Except Failure α} {change : α → β}
    (own : OutcomeFailsOnly kind outcome) : OutcomeFailsOnly kind (outcome.map change) := by
  intro failure failed
  cases outcome with
  | error other =>
      cases failed
      exact own failure rfl
  | ok value => cases failed

theorem FailsOnly.imp {step : EStateM Failure State α} (own : FailsOnly kind step)
    (covers : ∀ failure, kind failure → other failure) : FailsOnly other step :=
  fun before failure after failed => covers failure (own before failure after failed)

theorem failsOnly_pure (value : α) : FailsOnly kind (pure value : EStateM Failure State α) := by
  intro before failure after failed
  cases failed

theorem failsOnly_of_bind {first : EStateM Failure State α} {next : α → EStateM Failure State β}
    (own : FailsOnly kind first)
    (continued : ∀ before value middle, first before = .ok value middle →
      FailsOnly kind (next value)) : FailsOnly kind (first >>= next) := by
  intro before failure after failed
  rcases step_bind_error_iff.mp failed with stopped | ⟨value, middle, ran, rest⟩
  · exact own before failure after stopped
  · exact continued before value middle ran middle failure after rest

theorem FailsOnly.bind {first : EStateM Failure State α} {next : α → EStateM Failure State β}
    (own : FailsOnly kind first) (continued : ∀ value, FailsOnly kind (next value)) :
    FailsOnly kind (first >>= next) :=
  failsOnly_of_bind own fun _ value _ _ => continued value

end Kinds

section Lifting

variable {α : Type} {kind : Fault → Prop}

theorem Planning.failsOnly_lift {outcome : Except Fault α} (own : OutcomeFailsOnly kind outcome) :
    FailsOnly kind (lift outcome) := by
  intro before fault after failed
  unfold lift at failed
  split at failed
  next => cases failed
  next other =>
    cases failed
    exact own fault rfl

theorem Planning.failsOnly_report (event : Event) : FailsOnly kind (report event) := by
  intro before fault after failed
  cases failed

theorem Evaluation.failsOnly_lift {outcome : Except Fault α} (own : OutcomeFailsOnly kind outcome) :
    FailsOnly kind (lift outcome) :=
  fun _ fault _ failed => own fault (lift_error_iff.mp failed).1

theorem Evaluation.failsOnly_allocate (tag : String) (direction : Direction) (symbol : String) :
    FailsOnly kind (allocate tag direction symbol) := by
  intro before fault after failed
  cases failed

namespace Generation

theorem failsOnly_evaluation {step : Evaluation α} (own : FailsOnly kind step) :
    FailsOnly kind (evaluation step) := by
  intro before fault after failed
  unfold evaluation at failed
  split at failed
  next => cases failed
  next other registers ran =>
    cases failed
    exact own _ _ _ ran

theorem failsOnly_planning {step : Planning α} (own : FailsOnly kind step) :
    FailsOnly kind (planning step) := by
  intro before fault after failed
  simp only [planning] at failed
  split at failed
  next => cases failed
  next other events ran =>
    cases failed
    exact own _ _ _ ran

theorem failsOnly_change (update : Session → Session) : FailsOnly kind (change update) := by
  intro before fault after failed
  cases failed

theorem failsOnly_report (event : Event) : FailsOnly kind (report event) :=
  failsOnly_planning (Planning.failsOnly_report event)

theorem failsOnly_restartEndpoints : FailsOnly kind restartEndpoints := by
  intro before fault after failed
  cases failed

end Generation

end Lifting

/-! ## Planning -/

section Planning

variable {catalog : Catalog}

theorem ClassCodes.failsOnly_find {α : Type} (kind : NameKind) (known : OrderedMap α)
    (name : String) : OutcomeFailsOnly Fault.IsOfItem (find kind known name) := by
  unfold find
  split
  · exact outcomeFailsOnly_pure _
  · exact outcomeFailsOnly_error ⟨trivial, id⟩

theorem ClassCodes.failsOnly_lookup (className subclass protocol : String) :
    OutcomeFailsOnly Fault.IsOfItem (lookup className subclass protocol) := by
  apply (failsOnly_find _ _ _).bind
  intro deviceClass
  apply (failsOnly_find _ _ _).bind
  intro subclass
  apply (failsOnly_find _ _ _).bind
  intro protocol
  exact outcomeFailsOnly_pure _

theorem ResolvedInterface.failsOnly_propertyValues (tag : String) (given : OrderedMap Json.Value)
    (declared : OrderedMap Property) :
    OutcomeFailsOnly Fault.IsOfItem (propertyValues tag given declared) := by
  induction declared with
  | nil => exact outcomeFailsOnly_pure _
  | cons property rest ih =>
      have own : OutcomeFailsOnly Fault.IsOfItem
          (propertyValue tag given property.1 property.2) := by
        unfold propertyValue
        split
        · exact outcomeFailsOnly_pure _
        · exact outcomeFailsOnly_error ⟨trivial, id⟩
      apply own.bind
      intro value
      apply ih.bind
      intro values
      exact outcomeFailsOnly_pure _

theorem Catalog.failsOnly_template (tag name : String) :
    OutcomeFailsOnly Fault.IsOfItem (catalog.template tag name) := by
  unfold template
  split
  · exact outcomeFailsOnly_pure _
  · exact outcomeFailsOnly_error ⟨trivial, id⟩

theorem Catalog.failsOnly_hostClass (name : String) :
    OutcomeFailsOnly Fault.IsOfItem (catalog.hostClass name) := by
  unfold hostClass
  split
  · exact outcomeFailsOnly_pure _
  · exact outcomeFailsOnly_error ⟨trivial, id⟩

theorem ResolvedInterface.failsOnly_resolve (tag : String) (interface : Interface) :
    OutcomeFailsOnly Fault.IsOfItem (resolve catalog tag interface) := by
  apply (Catalog.failsOnly_template tag _).bind
  intro template
  apply (failsOnly_propertyValues tag _ _).bind
  intro values
  exact outcomeFailsOnly_pure _

theorem ReportTable.failsOnly_ofNames (tag : String) (names : List String) :
    OutcomeFailsOnly Fault.IsOfItem (ofNames tag names) := by
  have each : ∀ name, OutcomeFailsOnly Fault.IsOfItem (report tag name) := by
    intro name
    unfold report
    split
    · exact outcomeFailsOnly_error ⟨trivial, id⟩
    · exact outcomeFailsOnly_pure _
  have all : OutcomeFailsOnly Fault.IsOfItem (names.mapM (report tag)) := by
    induction names with
    | nil => exact outcomeFailsOnly_pure _
    | cons name rest ih =>
        rw [List.mapM_cons]
        apply (each name).bind
        intro first
        apply ih.bind
        intro others
        exact outcomeFailsOnly_pure _
  apply all.bind
  intro reports
  exact outcomeFailsOnly_pure _

theorem failsOnly_planReports (resolved : ResolvedInterface) :
    FailsOnly Fault.IsOfItem (planReports resolved) := by
  have table : FailsOnly Fault.IsOfItem
      (Planning.lift (ReportTable.ofNames resolved.tag resolved.reportNames) >>= fun table =>
        pure (some table)) := by
    apply (Planning.failsOnly_lift (ReportTable.failsOnly_ofNames _ _)).bind
    intro table
    exact failsOnly_pure _
  unfold planReports
  split
  · exact failsOnly_pure _
  · dsimp only
    split
    · exact (Planning.failsOnly_report _).bind fun _ => table
    · exact table

theorem failsOnly_planInterfaces (interfaces : OrderedMap Interface) :
    FailsOnly Fault.IsOfItem (planInterfaces catalog interfaces) := by
  induction interfaces with
  | nil => exact failsOnly_pure _
  | cons entry rest ih =>
      have own : FailsOnly Fault.IsOfItem (planInterface catalog entry.1 entry.2) := by
        apply (Planning.failsOnly_lift (ResolvedInterface.failsOnly_resolve _ _)).bind
        intro resolved
        apply (failsOnly_planReports resolved).bind
        intro reports
        exact failsOnly_pure _
      apply own.bind
      intro plan
      apply ih.bind
      intro plans
      exact failsOnly_pure _

theorem failsOnly_checkReports (device : String) (earlier : Option String)
    (plan : ConfigurationPlan) :
    OutcomeFailsOnly Fault.IsOfItem (checkReports device earlier plan) := by
  unfold checkReports
  split
  · split
    · exact outcomeFailsOnly_error ⟨trivial, id⟩
    · exact outcomeFailsOnly_pure _
  · exact outcomeFailsOnly_pure _

theorem failsOnly_planConfigurations (device : String) (earlier : Option String)
    (configurations : OrderedMap Configuration) :
    FailsOnly Fault.IsOfItem (planConfigurations catalog device earlier configurations) := by
  induction configurations generalizing earlier with
  | nil => exact failsOnly_pure _
  | cons entry rest ih =>
      apply (failsOnly_planInterfaces entry.2.interfaces).bind
      intro interfaces
      apply (Planning.failsOnly_lift (failsOnly_checkReports device earlier _)).bind
      intro earlier
      apply (ih earlier).bind
      intro plans
      exact failsOnly_pure _

theorem failsOnly_planDevices (devices : OrderedMap Device) :
    FailsOnly Fault.IsOfItem (planDevices catalog devices) := by
  induction devices with
  | nil => exact failsOnly_pure _
  | cons entry rest ih =>
      apply (Planning.failsOnly_lift (ClassCodes.failsOnly_lookup _ _ _)).bind
      intro codes
      apply (failsOnly_planConfigurations entry.1 none entry.2.configurations).bind
      intro configurations
      apply ih.bind
      intro plans
      exact failsOnly_pure _

theorem failsOnly_checkHosts (hosts : OrderedMap HostSection) :
    OutcomeFailsOnly Fault.IsOfItem (checkHosts catalog hosts) := by
  induction hosts with
  | nil => exact outcomeFailsOnly_pure _
  | cons entry rest ih => exact (Catalog.failsOnly_hostClass entry.1).bind fun _ => ih

theorem failsOnly_planDocument (document : Document) :
    FailsOnly Fault.IsOfItem (planDocument catalog document) := by
  apply (failsOnly_planDevices document.devices).bind
  intro plans
  apply (Planning.failsOnly_lift (failsOnly_checkHosts document.hosts)).bind
  intro _
  exact failsOnly_pure _

end Planning

/-! ## Evaluation -/

theorem StringTable.failsOnly_add (strings : StringTable) (owner property : String)
    (value : Option String) :
    OutcomeFailsOnly Fault.IsOfItem (strings.add owner property value) := by
  unfold add
  dsimp only
  split
  · exact outcomeFailsOnly_pure _
  · split
    · exact outcomeFailsOnly_pure _
    · exact outcomeFailsOnly_error ⟨trivial, id⟩

theorem GlobalDefines.failsOnly_record (defines : GlobalDefines) (name value tag : String) :
    OutcomeFailsOnly Fault.IsOfDocument (defines.record name value tag) := by
  unfold record
  split
  · exact outcomeFailsOnly_pure _
  · split
    · exact outcomeFailsOnly_pure _
    · exact outcomeFailsOnly_error trivial

theorem EndpointAllocator.failsOnly_finish (allocator : EndpointAllocator) (tag : String) :
    OutcomeFailsOnly Fault.IsOfItem (allocator.finish tag) := by
  unfold finish
  split
  · exact outcomeFailsOnly_error ⟨trivial, id⟩
  · exact outcomeFailsOnly_pure _

namespace Evaluation

theorem failsOnly_addString (owner : String) (string : String × Option String) :
    FailsOnly Fault.IsOfItem (addString owner string) :=
  fun _ fault _ failed =>
    StringTable.failsOnly_add _ _ _ _ fault (addString_error_iff.mp failed).1

theorem failsOnly_addStrings (owner : String) (strings : List (String × Option String)) :
    FailsOnly Fault.IsOfItem (addStrings owner strings) := by
  induction strings with
  | nil => exact failsOnly_pure _
  | cons string rest ih => exact (failsOnly_addString owner string).bind fun _ => ih

theorem failsOnly_enter (tag : String) (argument : Argument) :
    FailsOnly Fault.IsOfItem (enter tag argument) := by
  cases argument with
  | text value => exact failsOnly_pure _
  | endpoint direction symbol =>
      refine (failsOnly_allocate tag direction symbol).bind ?_
      intro endpoint
      exact failsOnly_pure _
  | strings first rest =>
      apply (failsOnly_addString tag first).bind
      intro id
      apply (failsOnly_addStrings tag rest).bind
      intro _
      exact failsOnly_pure _

/-- Entering fields fails like one of their arguments, or like an item that is entered. -/
theorem failsOnly_enterFields {kind : Fault → Prop} {interface : ResolvedInterface}
    {context : Context} {fields : List Field} (items : ∀ fault, fault.IsOfItem → kind fault)
    (made : ∀ field ∈ fields, OutcomeFailsOnly kind (interface.argument context field)) :
    FailsOnly kind (enterFields interface context fields) := by
  induction fields with
  | nil => exact failsOnly_pure _
  | cons field rest ih =>
      rcases List.forall_mem_cons.mp made with ⟨own, others⟩
      refine (failsOnly_lift own).bind ?_
      intro argument
      apply ((failsOnly_enter interface.tag argument).imp items).bind
      intro entered
      apply (ih others).bind
      intro more
      exact failsOnly_pure _

theorem failsOnly_recordGlobal (name value tag : String) :
    FailsOnly Fault.IsOfDocument (recordGlobal name value tag) :=
  fun _ fault _ failed =>
    GlobalDefines.failsOnly_record _ _ _ _ fault (recordGlobal_error_iff.mp failed).1

end Evaluation

namespace ResolvedInterface

theorem failsOnly_recordGlobals (tag : String) (defines : List (String × String)) :
    FailsOnly Fault.IsOfDocument (recordGlobals tag defines) := by
  induction defines with
  | nil => exact failsOnly_pure _
  | cons define rest ih =>
      exact (Evaluation.failsOnly_recordGlobal define.1 define.2 tag).bind fun _ => ih

theorem failsOnly_evaluate {interface : ResolvedInterface} (kinds : interface.HasKinds)
    (closed : interface.template.Closed) (device configuration : String) :
    FailsOnly Fault.IsOfDocument (interface.evaluate device configuration) := by
  have made : ∀ field ∈ interface.template.fields, OutcomeFailsOnly Fault.IsOfDocument
      (interface.argument (interface.context device configuration) field) :=
    fun field mem =>
      outcomeFailsOnly_of_exists (interface.exists_argument kinds (closed.fields field mem))
  apply (Evaluation.failsOnly_enterFields (fun _ => And.left) made).bind
  intro entered
  apply (failsOnly_recordGlobals interface.tag _).bind
  intro _
  refine (Evaluation.failsOnly_lift
    (outcomeFailsOnly_of_exists (exists_substitute kinds closed.descriptor))).bind ?_
  intro descriptor
  refine (Evaluation.failsOnly_lift
    (outcomeFailsOnly_of_exists (exists_substitute kinds closed.length))).bind ?_
  intro length
  exact failsOnly_pure _

end ResolvedInterface

/-! ## Generation -/

/-- The plan of an interface whose expressions have all of their variables. -/
structure InterfacePlan.Ready (plan : InterfacePlan) : Prop where
  kinds : plan.resolved.HasKinds
  closed : plan.resolved.template.Closed

def ConfigurationPlan.Ready (plan : ConfigurationPlan) : Prop :=
  ∀ interface ∈ plan.interfaces, interface.Ready

def DevicePlan.Ready (plan : DevicePlan) : Prop :=
  ∀ configuration ∈ plan.configurations, configuration.Ready

theorem InterfacePlan.Planned.ready {catalog : Catalog} {entry : String × Interface}
    {plan : InterfacePlan} (planned : plan.Planned catalog entry) (sound : catalog.Sound)
    (closed : catalog.Closed) (fits : entry.2.FitsTemplate catalog) : plan.Ready := by
  rcases ResolvedInterface.resolve_ok planned.resolved with ⟨-, -, -, known, -⟩
  exact ⟨ResolvedInterface.hasKinds_of_resolve sound fits planned.resolved,
    closed _ (OrderedMap.mem_of_get?_eq_some known)⟩

theorem DevicePlan.ready_of_planDocument {catalog : Catalog} {document : Document}
    {plans : List DevicePlan} {before after : List Event} (sound : catalog.Sound)
    (closed : catalog.Closed) (fits : ∀ entry ∈ document.allInterfaces, entry.2.FitsTemplate catalog)
    (run : planDocument catalog document before = .ok plans after) :
    ∀ plan ∈ plans, plan.Ready := by
  intro plan mem configuration configurationMem interface interfaceMem
  rcases Related.exists_left (planDocument_ok run) mem with ⟨device, deviceMem, planned⟩
  rcases Related.exists_left planned.configurations configurationMem with
    ⟨content, contentMem, configurationPlanned⟩
  rcases Related.exists_left configurationPlanned.interfaces interfaceMem with
    ⟨entry, entryMem, interfacePlanned⟩
  have known : content ∈ document.allConfigurations :=
    List.mem_flatMap.mpr ⟨device, deviceMem, contentMem⟩
  exact interfacePlanned.ready sound closed
    (fits entry (List.mem_flatMap.mpr ⟨content, known, entryMem⟩))

namespace Generation

theorem failsOnly_finishEndpoints (tag : String) :
    FailsOnly Fault.IsOfItem (finishEndpoints tag) := by
  apply failsOnly_evaluation
  intro before fault after failed
  dsimp only at failed
  split at failed
  next => cases failed
  next other refused =>
    cases failed
    exact EndpointAllocator.failsOnly_finish _ _ fault refused

theorem failsOnly_interfaces (device configuration : String) (instances : ClassCounts)
    {plans : List InterfacePlan} (ready : ∀ plan ∈ plans, plan.Ready) :
    FailsOnly Fault.IsOfDocument (interfaces device configuration instances plans) := by
  induction plans generalizing instances with
  | nil => exact failsOnly_pure _
  | cons plan rest ih =>
      rcases List.forall_mem_cons.mp ready with ⟨own, others⟩
      apply (failsOnly_evaluation
        (ResolvedInterface.failsOnly_evaluate own.kinds own.closed _ _)).bind
      intro interface
      refine (failsOnly_report _).bind ?_
      intro _
      refine (failsOnly_change _).bind ?_
      intro _
      apply (ih _ others).bind
      intro more
      exact failsOnly_pure _

theorem failsOnly_configuration (device : String) (number : Nat) {plan : ConfigurationPlan}
    (ready : plan.Ready) : FailsOnly Fault.IsOfDocument (configuration device number plan) := by
  apply ((failsOnly_evaluation (Evaluation.failsOnly_addString _ _)).imp fun _ => And.left).bind
  intro description
  refine failsOnly_restartEndpoints.bind ?_
  intro _
  apply (failsOnly_interfaces device plan.tag .empty ready).bind
  intro evaluated
  apply ((failsOnly_finishEndpoints plan.tag).imp fun _ => And.left).bind
  intro _
  refine (failsOnly_change _).bind ?_
  intro _
  refine (failsOnly_report _).bind ?_
  intro _
  exact failsOnly_pure _

theorem failsOnly_configurations (device : String) (number : Nat)
    {plans : List ConfigurationPlan} (ready : ∀ plan ∈ plans, plan.Ready) :
    FailsOnly Fault.IsOfDocument (configurations device number plans) := by
  induction plans generalizing number with
  | nil => exact failsOnly_pure _
  | cons plan rest ih =>
      rcases List.forall_mem_cons.mp ready with ⟨own, others⟩
      apply (failsOnly_configuration device number own).bind
      intro block
      apply (ih _ others).bind
      intro blocks
      exact failsOnly_pure _

theorem failsOnly_device {plan : DevicePlan} (ready : plan.Ready) :
    FailsOnly Fault.IsOfDocument (device plan) := by
  have add : ∀ string,
      FailsOnly Fault.IsOfDocument (evaluation (Evaluation.addString plan.tag string)) :=
    fun string => (failsOnly_evaluation
      (Evaluation.failsOnly_addString plan.tag string)).imp fun _ => And.left
  refine (failsOnly_report _).bind ?_
  intro _
  apply (add _).bind
  intro manufacturer
  apply (add _).bind
  intro product
  apply (add _).bind
  intro serial
  apply (failsOnly_configurations plan.tag 1 ready).bind
  intro blocks
  exact failsOnly_pure _

theorem failsOnly_devices {plans : List DevicePlan} (ready : ∀ plan ∈ plans, plan.Ready) :
    FailsOnly Fault.IsOfDocument (devices plans) := by
  induction plans with
  | nil => exact failsOnly_pure _
  | cons plan rest ih =>
      rcases List.forall_mem_cons.mp ready with ⟨own, others⟩
      apply (failsOnly_device own).bind
      intro block
      apply (ih others).bind
      intro blocks
      exact failsOnly_pure _

theorem failsOnly_servedDevices {plans : List DevicePlan} (ready : ∀ plan ∈ plans, plan.Ready) :
    FailsOnly Fault.IsOfDocument (servedDevices plans) := by
  cases plans with
  | nil => exact failsOnly_pure _
  | cons plan rest =>
      rcases List.forall_mem_cons.mp ready with ⟨own, others⟩
      have counts : FailsOnly Fault.IsOfDocument reportCount := by
        intro before fault after failed
        cases failed
      apply (failsOnly_device own).bind
      intro block
      apply counts.bind
      intro served
      apply (failsOnly_devices others).bind
      intro blocks
      exact failsOnly_pure _

theorem failsOnly_hosts {catalog : Catalog} (sections : OrderedMap HostSection) :
    FailsOnly Fault.IsOfItem (hosts catalog sections) := by
  induction sections with
  | nil => exact failsOnly_pure _
  | cons entry rest ih =>
      apply (failsOnly_planning (Planning.failsOnly_lift (Catalog.failsOnly_hostClass _))).bind
      intro host
      refine (failsOnly_report _).bind ?_
      intro _
      exact (failsOnly_change _).bind fun _ => ih

theorem failsOnly_announce (plans : List DevicePlan) :
    FailsOnly Fault.IsOfItem (announce plans) := by
  unfold announce
  split
  · exact failsOnly_report _
  · exact failsOnly_pure _

/-- With a sound and closed catalog, a run on a document that fits its templates fails for the
choices of the document only. -/
theorem failsOnly_document {catalog : Catalog} {content : Document} (sound : catalog.Sound)
    (closed : catalog.Closed)
    (fits : ∀ entry ∈ content.allInterfaces, entry.2.FitsTemplate catalog) :
    FailsOnly Fault.IsOfDocument (document catalog content) := by
  apply failsOnly_of_bind
    ((failsOnly_planning (failsOnly_planDocument content)).imp fun _ => And.left)
  intro before plans middle planned
  rcases planning_ok_iff.mp planned with ⟨events, run, -⟩
  have ready := DevicePlan.ready_of_planDocument sound closed fits run
  apply ((failsOnly_announce plans).imp fun _ => And.left).bind
  intro _
  apply (failsOnly_servedDevices ready).bind
  intro served
  apply ((failsOnly_hosts content.hosts).imp fun _ => And.left).bind
  intro _ before fault after failed
  cases failed

end Generation

end UsbDescriptors
