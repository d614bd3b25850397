import UsbDescriptors.ClassCounts
import UsbDescriptors.ClassRegistry
import UsbDescriptors.DeviceBlock
import UsbDescriptors.Plan

/-!
# Generation

A run turns a document into blocks and registers. Strings, global defines, class counts, runtime
objects and report tables are shared by all devices; endpoints and class instances are numbered
anew in every configuration.
-/

namespace UsbDescriptors

/-- Everything that a run computes. -/
structure Generated where
  devices : List DeviceBlock
  reports : List ReportTable
  /-- How many of the report tables belong to the first device, the one that is served. -/
  servedReports : Nat
  strings : StringTable
  globals : GlobalDefines
  counts : ClassCounts
  registry : ClassRegistry
  /-- Whether the document has devices. -/
  deviceEnabled : Bool
  /-- Whether the document has host classes. -/
  hostEnabled : Bool
deriving DecidableEq, Repr

/-- What a run has collected so far. -/
structure Session where
  registers : Registers := {}
  counts : ClassCounts := .empty
  registry : ClassRegistry := .empty
  reports : List ReportTable := []
deriving DecidableEq, Repr

/-- A step of a run. A fault leaves the session as it was at the fault. -/
abbrev Generation (α : Type) := EStateM Fault Session α

namespace Generation

variable {α : Type}

/-- An evaluation as a step of a run. -/
def evaluation (step : Evaluation α) : Generation α := fun session =>
  match step session.registers with
  | .ok result registers => .ok result { session with registers }
  | .error fault registers => .error fault { session with registers }

/-- Planning as a step of a run. -/
def planning (step : Planning α) : Generation α := fun session =>
  let registers := session.registers
  match step registers.events with
  | .ok result events => .ok result { session with registers := { registers with events } }
  | .error fault events => .error fault { session with registers := { registers with events } }

def change (update : Session → Session) : Generation Unit := fun session =>
  .ok () (update session)

def report (event : Event) : Generation Unit :=
  planning (Planning.report event)

/-- Starts the numbering of endpoints anew. -/
def restartEndpoints : Generation Unit :=
  evaluation fun registers => .ok () { registers with endpoints := .fresh }

/-- Checks that the endpoints of a configuration fit in a device. -/
def finishEndpoints (configuration : String) : Generation Unit :=
  evaluation fun registers =>
    match registers.endpoints.finish configuration with
    | .ok _ => .ok () registers
    | .error fault => .error fault registers

/-- Enters an evaluated interface: its runtime object and its reports. -/
def register (interface : EvaluatedInterface) (ordinal : Nat) (reports : Option ReportTable) :
    Generation Unit :=
  change fun session =>
    { session with
      registry := session.registry.addDevice interface.scope interface.tag ordinal
      reports := session.reports ++ reports.toList }

/-- The interfaces of a configuration. Each gets the number of interfaces of its class before
it as its ordinal; `instances` counts these. -/
def interfaces (device configuration : String) :
    (instances : ClassCounts) → List InterfacePlan →
      Generation (List EvaluatedInterface × ClassCounts)
  | instances, [] => pure ([], instances)
  | instances, plan :: rest => do
      let interface ← evaluation (plan.resolved.evaluate device configuration)
      report (.statement interface.tag interface.statement)
      register interface (instances.get .device interface.className) plan.reports
      let instances := instances.add .device interface.className 1
      let (more, instances) ← interfaces device configuration instances rest
      return (interface :: more, instances)

def configuration (device : String) (number : Nat) (plan : ConfigurationPlan) :
    Generation ConfigurationBlock := do
  let content := plan.configuration
  let description ←
    evaluation (Evaluation.addString plan.tag ("description", content.description))
  restartEndpoints
  let (interfaces, instances) ← interfaces device plan.tag .empty plan.interfaces
  finishEndpoints plan.tag
  change fun session => { session with counts := session.counts.mergeMax instances }
  let block : ConfigurationBlock := {
    tag := plan.tag
    number, description, interfaces
    attributes := content.attributes
    power := content.power }
  report (.configuration plan.tag block.interfaceCount block.endpointCount)
  return block

/-- The configurations of a device, numbered from `number` on. -/
def configurations (device : String) :
    (number : Nat) → List ConfigurationPlan → Generation (List ConfigurationBlock)
  | _, [] => pure []
  | number, plan :: rest => do
      let block ← configuration device number plan
      let blocks ← configurations device (number + 1) rest
      return block :: blocks

def device (plan : DevicePlan) : Generation DeviceBlock := do
  report (.device plan.tag plan.configurations.length)
  let add := fun property value => evaluation (Evaluation.addString plan.tag (property, some value))
  let manufacturer ← add "manufacturer" plan.device.manufacturer
  let product ← add "product" plan.device.product
  let serial ← add "serial" plan.device.serial
  let blocks ← configurations plan.tag 1 plan.configurations
  return .ofDevice plan.tag plan.device plan.codes { manufacturer, product, serial } blocks

def devices : List DevicePlan → Generation (List DeviceBlock)
  | [] => pure []
  | plan :: rest => do
      let block ← device plan
      let blocks ← devices rest
      return block :: blocks

def reportCount : Generation Nat := fun session =>
  .ok session.reports.length session

/-- All devices, and the number of report tables of the first one. -/
def servedDevices : List DevicePlan → Generation (List DeviceBlock × Nat)
  | [] => pure ([], 0)
  | plan :: rest => do
      let block ← device plan
      let served ← reportCount
      let blocks ← devices rest
      return (block :: blocks, served)

def hosts (catalog : Catalog) : OrderedMap HostSection → Generation Unit
  | [] => pure ()
  | (name, content) :: rest => do
      let host ← planning (Planning.lift (catalog.hostClass name))
      report (.hostClass name content.count)
      change fun session =>
        { session with
          counts := session.counts.add .host host.className content.count
          registry := session.registry.addHost host.scopeName name }
      hosts catalog rest

/-- Says which of several devices is served. -/
def announce : List DevicePlan → Generation Unit
  | first :: second :: rest =>
      report (.severalDevices (first :: second :: rest).length first.tag)
  | _ => pure ()

def document (catalog : Catalog) (document : Document) : Generation Generated := do
  let plans ← planning (planDocument catalog document)
  announce plans
  let (devices, servedReports) ← servedDevices plans
  hosts catalog document.hosts
  fun session => .ok {
    devices, servedReports
    reports := session.reports
    strings := session.registers.strings
    globals := session.registers.globals
    counts := session.counts
    registry := session.registry
    deviceEnabled := !document.devices.isEmpty
    hostEnabled := !document.hosts.isEmpty } session

end Generation

namespace Document

/-- What a run makes of a document, and the events on the way. -/
def generateWithEvents (document : Document) (catalog : Catalog) :
    Except Fault Generated × List Event :=
  match Generation.document catalog document {} with
  | .ok generated session => (.ok generated, session.registers.events)
  | .error fault session => (.error fault, session.registers.events)

def generate (document : Document) (catalog : Catalog) : Except Fault Generated :=
  (document.generateWithEvents catalog).1

end Document

end UsbDescriptors
