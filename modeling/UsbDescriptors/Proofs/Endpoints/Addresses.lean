import UsbDescriptors.Catalog.Builtin
import UsbDescriptors.Proofs.Endpoints.Allocation
import UsbDescriptors.Proofs.Endpoints.Symbols
import UsbDescriptors.Proofs.Related
import UsbDescriptors.Proofs.Runs.Blocks
import UsbDescriptors.Proofs.Runs.Evaluations

/-!
# Endpoint addresses of a run

The endpoint fields of the templates of a configuration are its requests, in order. A successful
run grants exactly these with an allocator that is fresh for the configuration, and it ends only if
the highest number fits a device. The main statement collects what this means for the addresses
of every block, and for the configurations that do not fit.
-/

namespace UsbDescriptors

/-- The endpoint that a field asks for, by symbol and direction. -/
def Field.endpointRequest? (tag : String) (field : Field) : Option (String × Direction) :=
  match field.source with
  | .endpoint =>
      (Direction.ofFieldName? field.name).map fun direction =>
        (ResolvedInterface.endpointSymbol tag field.name, direction)
  | _ => none

/-- The direction of the endpoint that a field asks for. -/
def Field.direction? (field : Field) : Option Direction :=
  match field.source with
  | .endpoint => Direction.ofFieldName? field.name
  | _ => none

theorem Field.map_snd_endpointRequests (tag : String) (fields : List Field) :
    (fields.filterMap (endpointRequest? tag)).map Prod.snd = fields.filterMap direction? := by
  rw [List.map_filterMap]
  congr 1
  funext field
  unfold endpointRequest? direction?
  cases field.source with
  | endpoint => cases Direction.ofFieldName? field.name <;> rfl
  | _ => rfl

/-- The endpoints that an interface of a template asks for. -/
def Template.endpointRequests (template : Template) (tag : String) : List (String × Direction) :=
  template.fields.filterMap (Field.endpointRequest? tag)

/-- The endpoints that the interfaces of a configuration ask for. -/
def Configuration.endpointRequests (configuration : Configuration) (catalog : Catalog) :
    List (String × Direction) :=
  configuration.interfaces.flatMap fun entry =>
    match catalog.templates.get? entry.2.template with
    | some template => template.endpointRequests entry.1
    | none => []

def Argument.endpointRequest? : Argument → Option (String × Direction)
  | .endpoint direction symbol => some (symbol, direction)
  | .text _ | .strings _ _ => none

def ResolvedInterface.endpointRequests (interface : ResolvedInterface) :
    List (String × Direction) :=
  interface.template.endpointRequests interface.tag

namespace Registers

/-- Between two states of the registers endpoints were granted for a list of requests. -/
structure Granted (before after : Registers) (requests : List (String × Direction))
    (endpoints : List Endpoint) : Prop where
  endpoints_eq : endpoints = before.endpoints.grant requests
  allocator_eq : after.endpoints = before.endpoints.after (requests.map Prod.snd)

theorem Granted.nothing {before after : Registers} (same : after.endpoints = before.endpoints) :
    Granted before after [] [] :=
  ⟨rfl, same⟩

theorem Granted.append {before middle after : Registers}
    {requests more : List (String × Direction)} {endpoints others : List Endpoint}
    (first : Granted before middle requests endpoints) (second : Granted middle after more others) :
    Granted before after (requests ++ more) (endpoints ++ others) := by
  constructor
  · rw [EndpointAllocator.grant_append, ← first.allocator_eq, ← first.endpoints_eq,
      ← second.endpoints_eq]
  · rw [List.map_append, EndpointAllocator.after_append, ← first.allocator_eq,
      ← second.allocator_eq]

end Registers

namespace Evaluation

theorem argument_endpointRequest {interface : ResolvedInterface} {context : Context}
    {field : Field} {argument : Argument}
    (found : interface.argument context field = .ok argument) :
    argument.endpointRequest? = field.endpointRequest? interface.tag := by
  unfold Field.endpointRequest?
  rcases ResolvedInterface.argument_ok found with ⟨value, source, rfl⟩ |
    ⟨direction, source, named, rfl⟩ | ⟨expression, text, source, -, rfl⟩ |
    ⟨expression, text, source, -, rfl⟩
  · simp [source, Argument.endpointRequest?]
  · simp [source, named, Argument.endpointRequest?]
  · simp only [source, ResolvedInterface.stringArgument]
    split
    · rfl
    · split <;> rfl
  · simp [source, Argument.endpointRequest?]

theorem enter_granted {tag : String} {argument : Argument} {entered : String × Option Endpoint}
    {before after : Registers} (run : enter tag argument before = .ok entered after) :
    before.Granted after argument.endpointRequest?.toList entered.2.toList := by
  cases argument with
  | text value =>
      rcases step_pure_iff.mp run with ⟨rfl, rfl⟩
      exact .nothing rfl
  | endpoint direction symbol =>
      simp only [enter, step_bind_iff, step_pure_iff, allocate_ok_iff] at run
      rcases run with ⟨_, _, ⟨rfl, rfl⟩, rfl, rfl⟩
      exact ⟨rfl, rfl⟩
  | strings first rest =>
      simp only [enter, step_bind_iff, step_pure_iff, addString_ok_iff] at run
      rcases run with ⟨id, _, ⟨_, -, rfl⟩, _, _, added, rfl, rfl⟩
      rcases addStrings_ok added with ⟨table, rfl⟩
      exact .nothing rfl

theorem enterFields_granted {interface : ResolvedInterface} {context : Context}
    {fields : List Field} {all : List (String × Option Endpoint)} {before after : Registers}
    (run : enterFields interface context fields before = .ok all after) :
    before.Granted after (fields.filterMap (Field.endpointRequest? interface.tag))
      (all.filterMap Prod.snd) := by
  induction fields generalizing all before with
  | nil =>
      rcases step_pure_iff.mp run with ⟨rfl, rfl⟩
      exact .nothing rfl
  | cons field rest ih =>
      rcases enterFields_cons_ok run with
        ⟨argument, entered, middle, others, found, first, more, rfl⟩
      have joined := (enter_granted first).append (ih more)
      rw [argument_endpointRequest found] at joined
      have requests : (field :: rest).filterMap (Field.endpointRequest? interface.tag) =
          (field.endpointRequest? interface.tag).toList ++
            rest.filterMap (Field.endpointRequest? interface.tag) := by
        cases asked : field.endpointRequest? interface.tag <;> simp [asked]
      have endpoints : (entered :: others).filterMap Prod.snd =
          entered.2.toList ++ others.filterMap Prod.snd := by
        cases given : entered.2 <;> simp [given]
      rw [requests, endpoints]
      exact joined

end Evaluation

theorem ResolvedInterface.evaluate_granted {interface : ResolvedInterface}
    {device configuration : String} {evaluated : EvaluatedInterface} {before after : Registers}
    (run : interface.evaluate device configuration before = .ok evaluated after) :
    before.Granted after interface.endpointRequests evaluated.endpoints := by
  rcases evaluate_ok run with ⟨entered, middle, _, _, fields, recorded, -, -, rfl⟩
  rcases recordGlobals_ok recorded with ⟨globals, rfl⟩
  have granted := Evaluation.enterFields_granted fields
  exact ⟨granted.endpoints_eq, granted.allocator_eq⟩

/-- Over all interfaces of a configuration one allocator grants all requests. -/
theorem Generation.interfaces_granted {device configuration : String}
    {instances final : ClassCounts} {plans : List InterfacePlan} {all : List EvaluatedInterface}
    {before after : Session}
    (run : interfaces device configuration instances plans before = .ok (all, final) after) :
    before.registers.Granted after.registers
      (plans.flatMap fun plan => plan.resolved.endpointRequests)
      (all.flatMap EvaluatedInterface.endpoints) := by
  induction plans generalizing instances all before with
  | nil =>
      rcases step_pure_iff.mp run with ⟨same, rfl⟩
      rcases Prod.mk.inj same with ⟨rfl, -⟩
      exact .nothing rfl
  | cons plan rest ih =>
      rcases interfaces_cons_ok run with ⟨interface, others, registers, evaluated, continued, rfl⟩
      have first := ResolvedInterface.evaluate_granted evaluated
      have later := ih continued
      have reported : registers.Granted after.registers
          (rest.flatMap fun plan => plan.resolved.endpointRequests)
          (others.flatMap EvaluatedInterface.endpoints) :=
        ⟨later.endpoints_eq, later.allocator_eq⟩
      rw [List.flatMap_cons, List.flatMap_cons]
      exact first.append reported

theorem InterfacePlan.Planned.endpointRequests {catalog : Catalog} {entry : String × Interface}
    {plan : InterfacePlan} (planned : plan.Planned catalog entry) :
    plan.resolved.endpointRequests =
      match catalog.templates.get? entry.2.template with
      | some template => template.endpointRequests entry.1
      | none => [] := by
  rcases ResolvedInterface.resolve_ok planned.resolved with ⟨tag, -, -, found, -⟩
  rw [found]
  simp only [ResolvedInterface.endpointRequests, tag]

/-- A block holds exactly the endpoints that a fresh allocator grants for the requests of the
configuration, and their highest number fits a device. -/
theorem ConfigurationBlock.MadeFrom.granted {catalog : Catalog} {device : String}
    {entry : String × Configuration} {number : Nat} {block : ConfigurationBlock}
    (origin : block.MadeFrom catalog device (entry, number)) :
    block.endpoints = EndpointAllocator.fresh.grant (entry.2.endpointRequests catalog) ∧
      (EndpointAllocator.fresh.after
        ((entry.2.endpointRequests catalog).map Prod.snd)).counter ≤ 15 := by
  rcases origin with ⟨plan, planned, before, after, run⟩
  rcases Generation.configuration_ok run with
    ⟨_, strings, all, instances, middle, -, evaluated, fits, rfl, -⟩
  have granted := Generation.interfaces_granted evaluated
  have requests : (plan.interfaces.flatMap fun plan => plan.resolved.endpointRequests) =
      entry.2.endpointRequests catalog :=
    (Related.flatMap_eq (fun _ _ planned => planned.endpointRequests.symm) planned.interfaces).symm
  rw [requests] at granted
  refine ⟨granted.endpoints_eq, ?_⟩
  have final : middle.registers.endpoints = EndpointAllocator.fresh.after
      ((entry.2.endpointRequests catalog).map Prod.snd) := granted.allocator_eq
  rw [← final]
  exact Nat.le_of_succ_le_succ fits

/-- Every request of a configuration is that of a field whose last word names the direction. -/
theorem Configuration.suffix_of_mem_endpointRequests {configuration : Configuration}
    {catalog : Catalog} {symbol : String} {direction : Direction}
    (mem : (symbol, direction) ∈ configuration.endpointRequests catalog) :
    '_' :: direction.name.toList <:+ symbol.toList := by
  rcases List.mem_flatMap.mp mem with ⟨entry, -, requested⟩
  split at requested
  next template found =>
    rcases List.mem_filterMap.mp requested with ⟨field, -, asked⟩
    unfold Field.endpointRequest? at asked
    split at asked
    next =>
      rcases Option.map_eq_some_iff.mp asked with ⟨named, spelled, same⟩
      rcases Prod.mk.inj same with ⟨rfl, rfl⟩
      exact name_suffix_endpointSymbol entry.1 spelled
    next => cases asked
  next absent => cases requested

/-- What holds of the endpoint addresses in the block of a configuration. -/
structure ConfigurationBlock.AddressesFit (block : ConfigurationBlock) : Prop where
  distinct : (block.endpoints.map fun endpoint => endpoint.address.value).Nodup
  number_pos : ∀ endpoint ∈ block.endpoints, 1 ≤ endpoint.address.value &&& 0x7F
  number_le : ∀ endpoint ∈ block.endpoints, endpoint.address.value &&& 0x7F ≤ 15
  incoming : ∀ endpoint ∈ block.endpoints,
    (endpoint.address.value.testBit 7 = true ↔ "_IN".toList <:+ endpoint.symbol.toList)
  outgoing : ∀ endpoint ∈ block.endpoints,
    (endpoint.address.value.testBit 7 = false ↔ "_OUT".toList <:+ endpoint.symbol.toList)

/-- Endpoints that a fresh allocator grants without going beyond the numbers of a device have
proper addresses. -/
theorem ConfigurationBlock.addressesFit_of_grant {block : ConfigurationBlock}
    {configuration : Configuration} {catalog : Catalog}
    (granted : block.endpoints =
      EndpointAllocator.fresh.grant (configuration.endpointRequests catalog))
    (fits : (EndpointAllocator.fresh.after
      ((configuration.endpointRequests catalog).map Prod.snd)).counter ≤ 15) :
    block.AddressesFit := by
  have small : (EndpointAllocator.fresh.after
      ((configuration.endpointRequests catalog).map Prod.snd)).counter < 128 := by omega
  have ending : ∀ endpoint ∈ block.endpoints,
      '_' :: endpoint.address.direction.name.toList <:+ endpoint.symbol.toList := by
    intro endpoint mem
    rw [granted] at mem
    rcases EndpointAllocator.request_of_mem_grant mem with ⟨_, requested, -, -⟩
    exact Configuration.suffix_of_mem_endpointRequests requested
  have numbers : ∀ endpoint ∈ block.endpoints,
      1 ≤ endpoint.address.value &&& 0x7F ∧ endpoint.address.value &&& 0x7F ≤ 15 := by
    intro endpoint mem
    rw [granted] at mem
    have bounds := EndpointAllocator.number_of_mem_grant EndpointAllocator.sound_fresh small mem
    exact ⟨bounds.1, Nat.le_trans bounds.2 fits⟩
  have bit : ∀ endpoint ∈ block.endpoints,
      endpoint.address.value.testBit 7 = decide (endpoint.address.direction = .incoming) := by
    intro endpoint mem
    rw [granted] at mem
    exact EndpointAllocator.testBit_of_mem_grant mem
  constructor
  · rw [granted]
    exact EndpointAllocator.nodup_values_grant EndpointAllocator.sound_fresh small
  · intro endpoint mem
    exact (numbers endpoint mem).1
  · intro endpoint mem
    exact (numbers endpoint mem).2
  · intro endpoint mem
    rw [bit endpoint mem, decide_eq_true_eq]
    exact eq_iff_name_suffix (ending endpoint mem) .incoming
  · intro endpoint mem
    rw [bit endpoint mem, decide_eq_false_iff_not]
    have outgoing : ¬ endpoint.address.direction = .incoming ↔
        endpoint.address.direction = .outgoing := by
      cases endpoint.address.direction <;> decide
    rw [outgoing]
    exact eq_iff_name_suffix (ending endpoint mem) .outgoing

/-- In every block of a successful run the endpoint addresses are distinct, carry numbers from 1 to
15, and have bit 7 set if and only if the symbol ends in the name of that direction. The numbers
that a configuration asks for are already in this range before they are cut to seven bits, so a
configuration that asks for more never gets through a run. -/
theorem endpointAddresses_of_generate {catalog : Catalog} {document : Document}
    {generated : Generated} (run : document.generate catalog = .ok generated) :
    (∀ device ∈ generated.devices, ∀ block ∈ device.configurations, block.AddressesFit) ∧
      ∀ device ∈ document.devices, ∀ configuration ∈ device.2.configurations,
        ∀ endpoint ∈ EndpointAllocator.fresh.issued
            ((configuration.2.endpointRequests catalog).map Prod.snd),
          endpoint.2 ≤ 15 := by
  constructor
  · intro device deviceMem block blockMem
    rcases Document.exists_configuration_of_generate run deviceMem blockMem with
      ⟨_, -, _, -, _, origin⟩
    exact ConfigurationBlock.addressesFit_of_grant origin.granted.1 origin.granted.2
  · intro entry entryMem configuration configurationMem endpoint endpointMem
    rcases Document.exists_block_of_generate run entryMem configurationMem with
      ⟨_, -, _, -, _, origin⟩
    have bounds := EndpointAllocator.bounds_of_mem_issued EndpointAllocator.sound_fresh endpointMem
    exact Nat.le_trans bounds.2 origin.granted.2

def serialAndStorage : Document where
  devices := [("dev0", {
    vendor := .number 1
    configurations := [("config1", {
      interfaces := [("cdc0", { template := "cdc" }), ("msc0", { template := "msc" })] })] })]

theorem endpointAddresses_serialAndStorage :
    ∃ generated, serialAndStorage.generate Catalog.builtin = .ok generated ∧
      (∀ device ∈ generated.devices, ∀ block ∈ device.configurations, block.AddressesFit) ∧
      ∀ device ∈ serialAndStorage.devices, ∀ configuration ∈ device.2.configurations,
        ∀ endpoint ∈ EndpointAllocator.fresh.issued
            ((configuration.2.endpointRequests Catalog.builtin).map Prod.snd),
          endpoint.2 ≤ 15 := by
  have success : (serialAndStorage.generate Catalog.builtin).isOk = true := by decide +kernel
  cases run : serialAndStorage.generate Catalog.builtin with
  | error fault =>
      rw [run] at success
      cases success
  | ok generated => exact ⟨generated, rfl, endpointAddresses_of_generate run⟩

end UsbDescriptors
