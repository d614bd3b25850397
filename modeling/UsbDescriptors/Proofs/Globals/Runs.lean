import UsbDescriptors.Proofs.Document.Parts
import UsbDescriptors.Proofs.Globals.Recordings
import UsbDescriptors.Proofs.Related
import UsbDescriptors.Proofs.Runs.Faults

/-!
# Recordings of a run

The steps of a run record the global defines of the interfaces one after the other, and no other
step touches them. `Records` says of a step what it records, both if it succeeds and if it fails for
a disagreement; it is carried from the single recording over interfaces, configurations and devices
to the whole run.
-/

namespace UsbDescriptors

/-- A step records a list in the global defines of its state: these are what the list leaves if the
step succeeds, and if it fails for a disagreement, then recording the list does so in the same
way. -/
structure Records {State α : Type} (globals : State → GlobalDefines)
    (recordings : List Recording) (step : EStateM Fault State α) : Prop where
  ok : ∀ before value after, step before = .ok value after →
    (globals before).recordAll recordings = .ok (globals after)
  conflict : ∀ before fault after, step before = .error fault after → fault.IsConflict →
    (globals before).recordAll recordings = .error fault

section Steps

variable {State α β : Type} {globals : State → GlobalDefines} {recordings more : List Recording}
  {first : EStateM Fault State α} {next : α → EStateM Fault State β}

/-- A step that touches no global define and fails for something else records nothing. -/
theorem records_nothing {step : EStateM Fault State α}
    (kept : ∀ before value after, step before = .ok value after → globals after = globals before)
    (own : FailsOnly (fun fault => ¬ fault.IsConflict) step) : Records globals [] step where
  ok := fun before value after run => congrArg Except.ok (kept before value after run).symm
  conflict := fun before fault after failed conflict =>
    absurd conflict (own before fault after failed)

theorem records_pure (value : α) :
    Records globals [] (pure value : EStateM Fault State α) := by
  apply records_nothing _ (failsOnly_pure value)
  intro before result after run
  rcases step_pure_iff.mp run with ⟨-, rfl⟩
  rfl

theorem records_of_bind (own : Records globals recordings first)
    (continued : ∀ before value middle, first before = .ok value middle →
      Records globals more (next value)) :
    Records globals (recordings ++ more) (first >>= next) := by
  constructor
  · intro before result after run
    rcases step_bind_iff.mp run with ⟨value, middle, ran, rest⟩
    rw [GlobalDefines.recordAll_append, own.ok before value middle ran]
    exact (continued before value middle ran).ok middle result after rest
  · intro before fault after failed conflict
    rw [GlobalDefines.recordAll_append]
    rcases step_bind_error_iff.mp failed with stopped | ⟨value, middle, ran, rest⟩
    · rw [own.conflict before fault after stopped conflict]
      rfl
    · rw [own.ok before value middle ran]
      exact (continued before value middle ran).conflict middle fault after rest conflict

theorem Records.bind (own : Records globals recordings first)
    (continued : ∀ value, Records globals more (next value)) :
    Records globals (recordings ++ more) (first >>= next) :=
  records_of_bind own fun _ value _ _ => continued value

/-- A step that records nothing leaves the recordings to the steps behind it. -/
theorem Records.before (own : Records globals [] first)
    (continued : ∀ value, Records globals more (next value)) :
    Records globals more (first >>= next) :=
  own.bind continued

theorem Records.after (own : Records globals recordings first)
    (continued : ∀ value, Records globals [] (next value)) :
    Records globals recordings (first >>= next) := by
  rw [← List.append_nil recordings]
  exact own.bind continued

end Steps

/-! ## Evaluation -/

theorem failsOnly_substitute (context : Context) (expression : String) :
    OutcomeFailsOnly (fun fault => ¬ fault.IsConflict) (substitute context expression) := by
  unfold substitute
  split
  · exact outcomeFailsOnly_error id
  · exact outcomeFailsOnly_pure _

theorem ResolvedInterface.failsOnly_argument (interface : ResolvedInterface) (context : Context)
    (field : Field) :
    OutcomeFailsOnly (fun fault => ¬ fault.IsConflict) (interface.argument context field) := by
  unfold argument
  split
  · exact outcomeFailsOnly_pure _
  · split
    · exact outcomeFailsOnly_error id
    · exact outcomeFailsOnly_pure _
  · exact (failsOnly_substitute _ _).map
  · exact (failsOnly_substitute _ _).map

namespace Evaluation

theorem records_lift {α : Type} {outcome : Except Fault α}
    (own : OutcomeFailsOnly (fun fault => ¬ fault.IsConflict) outcome) :
    Records Registers.globals [] (lift outcome) := by
  apply records_nothing _ (failsOnly_lift own)
  intro before value after run
  rw [(lift_ok_iff.mp run).2]

theorem records_addString (owner : String) (string : String × Option String) :
    Records Registers.globals [] (addString owner string) := by
  apply records_nothing _ ((failsOnly_addString owner string).imp fun _ => And.right)
  intro before id after run
  rcases addString_ok_iff.mp run with ⟨strings, -, rfl⟩
  rfl

theorem records_addStrings (owner : String) (strings : List (String × Option String)) :
    Records Registers.globals [] (addStrings owner strings) := by
  induction strings with
  | nil => exact records_pure ()
  | cons string rest ih => exact (records_addString owner string).before fun _ => ih

theorem records_allocate (tag : String) (direction : Direction) (symbol : String) :
    Records Registers.globals [] (allocate tag direction symbol) := by
  apply records_nothing _ (failsOnly_allocate tag direction symbol)
  intro before endpoint after run
  rw [(allocate_ok_iff.mp run).2]

theorem records_enter (tag : String) (argument : Argument) :
    Records Registers.globals [] (enter tag argument) := by
  cases argument with
  | text value => exact records_pure _
  | endpoint direction symbol =>
      exact (records_allocate tag direction symbol).before fun _ => records_pure _
  | strings first rest =>
      apply (records_addString tag first).before
      intro id
      exact (records_addStrings tag rest).before fun _ => records_pure _

theorem records_enterFields (interface : ResolvedInterface) (context : Context)
    (fields : List Field) :
    Records Registers.globals [] (enterFields interface context fields) := by
  induction fields with
  | nil => exact records_pure _
  | cons field rest ih =>
      apply (records_lift (interface.failsOnly_argument context field)).before
      intro argument
      apply (records_enter interface.tag argument).before
      intro entered
      apply ih.before
      intro more
      exact records_pure _

theorem records_recordGlobal (name value tag : String) :
    Records Registers.globals [⟨name, value, tag⟩] (recordGlobal name value tag) := by
  constructor
  · intro before result after run
    rcases recordGlobal_ok_iff.mp run with ⟨globals, recorded, rfl⟩
    simp only [GlobalDefines.recordAll, recorded]
    rfl
  · intro before fault after failed conflict
    rcases recordGlobal_error_iff.mp failed with ⟨refused, -⟩
    simp only [GlobalDefines.recordAll, refused]
    rfl

/-- A recording that fails leaves the registers as they were. -/
theorem registers_of_recordGlobal {name value tag : String} {before after : Registers}
    {fault : Fault} (failed : recordGlobal name value tag before = .error fault after) :
    after = before :=
  (recordGlobal_error_iff.mp failed).2.symm

end Evaluation

namespace ResolvedInterface

/-- The recordings of an interface, one for every global property of its template. -/
def recordings (interface : ResolvedInterface) : List Recording :=
  interface.globalDefines.map fun define => ⟨define.1, define.2, interface.tag⟩

theorem records_recordGlobals (tag : String) (defines : List (String × String)) :
    Records Registers.globals (defines.map fun define => ⟨define.1, define.2, tag⟩)
      (recordGlobals tag defines) := by
  induction defines with
  | nil => exact records_pure ()
  | cons define rest ih =>
      exact (Evaluation.records_recordGlobal define.1 define.2 tag).bind fun _ => ih

theorem records_evaluate (interface : ResolvedInterface) (device configuration : String) :
    Records Registers.globals interface.recordings (interface.evaluate device configuration) := by
  apply (Evaluation.records_enterFields interface _ _).before
  intro entered
  apply (records_recordGlobals interface.tag interface.globalDefines).after
  intro _
  apply (Evaluation.records_lift (failsOnly_substitute _ _)).before
  intro descriptor
  apply (Evaluation.records_lift (failsOnly_substitute _ _)).before
  intro length
  exact records_pure _

end ResolvedInterface

/-! ## Generation -/

def ConfigurationPlan.recordings (plan : ConfigurationPlan) : List Recording :=
  plan.interfaces.flatMap fun interface => interface.resolved.recordings

def DevicePlan.recordings (plan : DevicePlan) : List Recording :=
  plan.configurations.flatMap ConfigurationPlan.recordings

def Session.globals (session : Session) : GlobalDefines :=
  session.registers.globals

namespace Generation

theorem records_evaluation {α : Type} {step : Evaluation α} {recordings : List Recording}
    (own : Records Registers.globals recordings step) :
    Records Session.globals recordings (evaluation step) := by
  constructor
  · intro before value after run
    rcases evaluation_ok_iff.mp run with ⟨registers, ran, rfl⟩
    exact own.ok _ value registers ran
  · intro before fault after failed conflict
    unfold evaluation at failed
    split at failed
    next => cases failed
    next other registers ran =>
      cases failed
      exact own.conflict _ fault registers ran conflict

theorem records_planning {α : Type} {step : Planning α} (own : FailsOnly Fault.IsOfItem step) :
    Records Session.globals [] (planning step) := by
  apply records_nothing _ (failsOnly_planning (own.imp fun _ => And.right))
  intro before value after run
  rcases planning_ok_iff.mp run with ⟨events, -, rfl⟩
  rfl

theorem records_report (event : Event) : Records Session.globals [] (report event) :=
  records_planning (Planning.failsOnly_report event)

theorem records_change {update : Session → Session}
    (kept : ∀ session, (update session).globals = session.globals) :
    Records Session.globals [] (change update) := by
  apply records_nothing _ (failsOnly_change update)
  intro before value after run
  rw [← change_ok_iff.mp run, kept]

theorem records_restartEndpoints : Records Session.globals [] restartEndpoints := by
  apply records_nothing _ failsOnly_restartEndpoints
  intro before value after run
  rw [← restartEndpoints_ok_iff.mp run]
  rfl

theorem records_finishEndpoints (tag : String) :
    Records Session.globals [] (finishEndpoints tag) := by
  apply records_nothing _ ((failsOnly_finishEndpoints tag).imp fun _ => And.right)
  intro before value after run
  rw [(finishEndpoints_ok_iff.mp run).2]

theorem records_interfaces (device configuration : String) (instances : ClassCounts)
    (plans : List InterfacePlan) :
    Records Session.globals (plans.flatMap fun plan => plan.resolved.recordings)
      (interfaces device configuration instances plans) := by
  induction plans generalizing instances with
  | nil => exact records_pure _
  | cons plan rest ih =>
      rw [List.flatMap_cons]
      apply (records_evaluation (plan.resolved.records_evaluate device configuration)).bind
      intro interface
      apply (records_report _).before
      intro _
      refine (records_change ?_).before ?_
      · exact fun _ => rfl
      intro _
      apply (ih _).after
      intro more
      exact records_pure _

theorem records_configuration (device : String) (number : Nat) (plan : ConfigurationPlan) :
    Records Session.globals plan.recordings (configuration device number plan) := by
  apply (records_evaluation (Evaluation.records_addString _ _)).before
  intro description
  apply records_restartEndpoints.before
  intro _
  apply (records_interfaces device plan.tag .empty plan.interfaces).after
  intro evaluated
  apply (records_finishEndpoints plan.tag).before
  intro _
  refine (records_change ?_).before ?_
  · exact fun _ => rfl
  intro _
  apply (records_report _).before
  intro _
  exact records_pure _

theorem records_configurations (device : String) (number : Nat)
    (plans : List ConfigurationPlan) :
    Records Session.globals (plans.flatMap ConfigurationPlan.recordings)
      (configurations device number plans) := by
  induction plans generalizing number with
  | nil => exact records_pure _
  | cons plan rest ih =>
      apply (records_configuration device number plan).bind
      intro block
      apply (ih _).after
      intro blocks
      exact records_pure _

theorem records_device (plan : DevicePlan) :
    Records Session.globals plan.recordings (device plan) := by
  have add : ∀ string,
      Records Session.globals [] (evaluation (Evaluation.addString plan.tag string)) :=
    fun string => records_evaluation (Evaluation.records_addString plan.tag string)
  apply (records_report _).before
  intro _
  apply (add _).before
  intro manufacturer
  apply (add _).before
  intro product
  apply (add _).before
  intro serial
  apply (records_configurations plan.tag 1 plan.configurations).after
  intro blocks
  exact records_pure _

theorem records_devices (plans : List DevicePlan) :
    Records Session.globals (plans.flatMap DevicePlan.recordings) (devices plans) := by
  induction plans with
  | nil => exact records_pure _
  | cons plan rest ih =>
      apply (records_device plan).bind
      intro block
      apply ih.after
      intro blocks
      exact records_pure _

theorem records_servedDevices (plans : List DevicePlan) :
    Records Session.globals (plans.flatMap DevicePlan.recordings) (servedDevices plans) := by
  cases plans with
  | nil => exact records_pure _
  | cons plan rest =>
      have counts : Records Session.globals [] reportCount := by
        apply records_nothing
        · intro before value after run
          cases run
          rfl
        · intro before fault after failed
          cases failed
      apply (records_device plan).bind
      intro block
      apply counts.before
      intro served
      apply (records_devices rest).after
      intro blocks
      exact records_pure _

theorem records_hosts {catalog : Catalog} (sections : OrderedMap HostSection) :
    Records Session.globals [] (hosts catalog sections) := by
  induction sections with
  | nil => exact records_pure _
  | cons entry rest ih =>
      apply (records_planning (Planning.failsOnly_lift (Catalog.failsOnly_hostClass _))).before
      intro host
      apply (records_report _).before
      intro _
      refine (records_change ?_).before ?_
      · exact fun _ => rfl
      exact fun _ => ih

theorem records_announce (plans : List DevicePlan) :
    Records Session.globals [] (announce plans) := by
  unfold announce
  split
  · exact records_report _
  · exact records_pure _

end Generation

/-! ## Documents -/

/-- The recordings of an interface of a document: none if it cannot be joined with a template. -/
def Interface.recordings (catalog : Catalog) (entry : String × Interface) : List Recording :=
  match ResolvedInterface.resolve catalog entry.1 entry.2 with
  | .ok resolved => resolved.recordings
  | .error _ => []

/-- The recordings of all interfaces of a document, in the order in which a run evaluates them. -/
def Document.recordings (document : Document) (catalog : Catalog) : List Recording :=
  document.allInterfaces.flatMap (Interface.recordings catalog)

theorem InterfacePlan.Planned.recordings {catalog : Catalog} {entry : String × Interface}
    {plan : InterfacePlan} (planned : plan.Planned catalog entry) :
    Interface.recordings catalog entry = plan.resolved.recordings := by
  rw [Interface.recordings, planned.resolved]

theorem Document.recordings_of_planDocument {catalog : Catalog} {document : Document}
    {plans : List DevicePlan} {before after : List Event}
    (run : planDocument catalog document before = .ok plans after) :
    document.recordings catalog = plans.flatMap DevicePlan.recordings := by
  have configurations : ∀ entry plan, ConfigurationPlan.Planned catalog entry plan →
      entry.2.interfaces.flatMap (Interface.recordings catalog) = plan.recordings :=
    fun entry plan planned =>
      Related.flatMap_eq (fun _ _ => InterfacePlan.Planned.recordings) planned.interfaces
  have devices : ∀ entry plan, DevicePlan.Planned catalog entry plan →
      entry.2.configurations.flatMap (fun configuration =>
        configuration.2.interfaces.flatMap (Interface.recordings catalog)) = plan.recordings :=
    fun entry plan planned => Related.flatMap_eq configurations planned.configurations
  rw [recordings, allInterfaces, allConfigurations, List.flatMap_assoc, List.flatMap_assoc]
  exact Related.flatMap_eq devices (planDocument_ok run)

namespace Generation

theorem records_document (catalog : Catalog) (content : Document) :
    Records Session.globals (content.recordings catalog) (document catalog content) := by
  change Records Session.globals ([] ++ content.recordings catalog) _
  apply records_of_bind (records_planning (failsOnly_planDocument content))
  intro before plans middle planned
  rcases planning_ok_iff.mp planned with ⟨events, run, -⟩
  rw [Document.recordings_of_planDocument run]
  apply (records_announce plans).before
  intro _
  apply (records_servedDevices plans).after
  intro served
  apply (records_hosts content.hosts).before
  intro _
  apply records_nothing
  · intro before value after run
    cases run
    rfl
  · intro before fault after failed
    cases failed

theorem document_globals {catalog : Catalog} {content : Document} {generated : Generated}
    {before after : Session} (run : document catalog content before = .ok generated after) :
    generated.globals = after.globals := by
  rcases document_steps run with ⟨_, _, _, _, _, _, -, -, -, -, rfl⟩
  rfl

end Generation

namespace Document

variable {catalog : Catalog} {document : Document}

theorem recordAll_of_generate {generated : Generated}
    (run : document.generate catalog = .ok generated) :
    GlobalDefines.empty.recordAll (document.recordings catalog) = .ok generated.globals := by
  rcases generate_ok_iff.mp run with ⟨session, ran⟩
  rw [Generation.document_globals ran]
  exact (Generation.records_document catalog document).ok _ _ _ ran

/-- A run fails for a disagreement in the way in which recording what its document wants does. -/
theorem recordAll_of_conflict {fault : Fault} (failed : document.generate catalog = .error fault)
    (conflict : fault.IsConflict) :
    GlobalDefines.empty.recordAll (document.recordings catalog) = .error fault := by
  rcases generate_error_iff.mp failed with ⟨session, ran⟩
  exact (Generation.records_document catalog document).conflict _ _ _ ran conflict

end Document

end UsbDescriptors
