import UsbDescriptors.Event
import UsbDescriptors.Interface.Resolved
import UsbDescriptors.ReportTable
import UsbDescriptors.Vocabulary

/-!
# Plans

Before any text is generated, everything that a document names is looked up: class codes,
templates, reports and host classes. The HID callback of the stack knows interfaces by their
instance only, so a device may have HID interfaces in one configuration at most.
-/

namespace UsbDescriptors

/-- An interface with its template, and its reports if the template lists reports. -/
structure InterfacePlan where
  resolved : ResolvedInterface
  reports : Option ReportTable
deriving Repr

/-- A configuration with the plans of its interfaces. -/
structure ConfigurationPlan where
  tag : String
  configuration : Configuration
  interfaces : List InterfacePlan
deriving Repr

/-- A device with its class codes and the plans of its configurations. -/
structure DevicePlan where
  tag : String
  device : Device
  codes : ClassCodes
  configurations : List ConfigurationPlan
deriving Repr

/-- A step of planning, with the events so far. -/
abbrev Planning (α : Type) := EStateM Fault (List Event) α

namespace Planning

/-- Goes on with the outcome of something that reports no events. -/
def lift {α : Type} (outcome : Except Fault α) : Planning α := fun events =>
  match outcome with
  | .ok result => .ok result events
  | .error fault => .error fault events

def report (event : Event) : Planning Unit := fun events =>
  .ok () (events ++ [event])

end Planning

def InterfacePlan.hasReports (plan : InterfacePlan) : Bool :=
  plan.reports.isSome

def ConfigurationPlan.hasReports (plan : ConfigurationPlan) : Bool :=
  plan.interfaces.any InterfacePlan.hasReports

/-- The reports of an interface. An empty list is allowed, but most likely a mistake. -/
def planReports (resolved : ResolvedInterface) : Planning (Option ReportTable) :=
  match resolved.template.reports with
  | none => pure none
  | some _ => do
      let names := resolved.reportNames
      if names.isEmpty then
        Planning.report (.noReports resolved.tag)
      let table ← Planning.lift (ReportTable.ofNames resolved.tag names)
      return some table

/-- Looks up what an interface names. -/
def planInterface (catalog : Catalog) (tag : String) (interface : Interface) :
    Planning InterfacePlan := do
  let resolved ← Planning.lift (ResolvedInterface.resolve catalog tag interface)
  let reports ← planReports resolved
  return { resolved, reports }

def planInterfaces (catalog : Catalog) : OrderedMap Interface → Planning (List InterfacePlan)
  | [] => pure []
  | (tag, interface) :: rest => do
      let plan ← planInterface catalog tag interface
      let plans ← planInterfaces catalog rest
      return plan :: plans

/-- Checks that no other configuration of a device has reports if this one has. -/
def checkReports (device : String) (earlier : Option String) (plan : ConfigurationPlan) :
    Except Fault (Option String) :=
  if plan.hasReports then
    match earlier with
    | some first => .error (.hidConfigurations device first plan.tag)
    | none => .ok (some plan.tag)
  else .ok earlier

/-- Looks up what the configurations of a device name; `earlier` is the configuration with
reports among those before. -/
def planConfigurations (catalog : Catalog) (device : String) :
    (earlier : Option String) → OrderedMap Configuration → Planning (List ConfigurationPlan)
  | _, [] => pure []
  | earlier, (tag, configuration) :: rest => do
      let interfaces ← planInterfaces catalog configuration.interfaces
      let plan := { tag, configuration, interfaces }
      let earlier ← Planning.lift (checkReports device earlier plan)
      let plans ← planConfigurations catalog device earlier rest
      return plan :: plans

def planDevices (catalog : Catalog) : OrderedMap Device → Planning (List DevicePlan)
  | [] => pure []
  | (tag, device) :: rest => do
      let codes ← Planning.lift (ClassCodes.lookup device.className device.subclass device.protocol)
      let configurations ← planConfigurations catalog tag none device.configurations
      let plans ← planDevices catalog rest
      return { tag, device, codes, configurations } :: plans

/-- Checks that the host classes of a document exist. -/
def checkHosts (catalog : Catalog) : OrderedMap HostSection → Except Fault Unit
  | [] => .ok ()
  | (name, _) :: rest => do
      let _ ← catalog.hostClass name
      checkHosts catalog rest

/-- Looks up everything that a document names. -/
def planDocument (catalog : Catalog) (document : Document) : Planning (List DevicePlan) := do
  let plans ← planDevices catalog document.devices
  Planning.lift (checkHosts catalog document.hosts)
  return plans

end UsbDescriptors
