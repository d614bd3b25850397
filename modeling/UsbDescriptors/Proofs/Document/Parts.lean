import UsbDescriptors.Interface.Resolved
import UsbDescriptors.Proofs.Classes.Counts
import UsbDescriptors.ReportTable
import Mathlib.Algebra.GroupWithZero.Nat

/-!
# Parts of a document

The configurations and interfaces of a whole document in document order, and what a catalog says
about them: the classes that the interfaces belong to, and the interfaces that carry reports.
-/

namespace UsbDescriptors

namespace Interface

/-- Whether an interface belongs to a class. Classes are the same if their identifiers are. -/
def isOfClass (interface : Interface) (catalog : Catalog) (className : String) : Bool :=
  (catalog.templates.get? interface.template).any fun template =>
    identifier template.className = identifier className

/-- Whether the template of an interface lists reports. -/
def carriesReports (interface : Interface) (catalog : Catalog) : Bool :=
  (catalog.templates.get? interface.template).any fun template => template.reports.isSome

/-- Counts with one more instance of the class of an interface. -/
def addTo (interface : Interface) (catalog : Catalog) (counts : ClassCounts) : ClassCounts :=
  match catalog.templates.get? interface.template with
  | some template => counts.add .device template.className 1
  | none => counts

theorem get_addTo {interface : Interface} {catalog : Catalog} {counts : ClassCounts} {bus : Bus}
    {className : String} : (interface.addTo catalog counts).get bus className =
      counts.get bus className +
        if bus = .device ∧ interface.isOfClass catalog className = true then 1 else 0 := by
  unfold addTo isOfClass
  cases catalog.templates.get? interface.template with
  | none => simp
  | some template => simp [ClassCounts.get_add, eq_comm]

theorem namesDistinct_addTo {interface : Interface} {catalog : Catalog} {counts : ClassCounts}
    (distinct : counts.NamesDistinct) : (interface.addTo catalog counts).NamesDistinct := by
  unfold addTo
  split
  · exact distinct.add
  · exact distinct

end Interface

namespace Configuration

/-- The number of interfaces of a class. -/
def instanceCount (configuration : Configuration) (catalog : Catalog) (className : String) : Nat :=
  configuration.interfaces.countP fun entry => entry.2.isOfClass catalog className

/-- The numbers of interfaces of all classes. -/
def instances (configuration : Configuration) (catalog : Catalog) : ClassCounts :=
  configuration.interfaces.foldl (fun counts entry => entry.2.addTo catalog counts) .empty

/-- The interfaces that carry reports. -/
def reportInterfaces (configuration : Configuration) (catalog : Catalog) :
    List (String × Interface) :=
  configuration.interfaces.filter fun entry => entry.2.carriesReports catalog

/-- Whether an interface of a configuration carries reports. -/
def carriesReports (configuration : Configuration) (catalog : Catalog) : Bool :=
  configuration.interfaces.any fun entry => entry.2.carriesReports catalog

variable {configuration : Configuration} {catalog : Catalog}

theorem get_foldl_addTo {interfaces : List (String × Interface)} {counts : ClassCounts}
    {bus : Bus} {className : String} :
    (interfaces.foldl (fun counts entry => entry.2.addTo catalog counts) counts).get bus className =
      counts.get bus className + if bus = .device then
        interfaces.countP fun entry => entry.2.isOfClass catalog className else 0 := by
  induction interfaces generalizing counts with
  | nil => simp
  | cons entry rest ih =>
      rw [List.foldl_cons, ih, Interface.get_addTo, List.countP_cons]
      by_cases side : bus = .device
      · simp only [side, true_and, if_true]
        omega
      · simp [side]

/-- A configuration counts its interfaces on the device side and nothing on the host side. -/
theorem get_instances {bus : Bus} {className : String} :
    (configuration.instances catalog).get bus className =
      if bus = .device then configuration.instanceCount catalog className else 0 := by
  rw [instances, get_foldl_addTo, ClassCounts.get_empty, Nat.zero_add, instanceCount]

theorem namesDistinct_instances : (configuration.instances catalog).NamesDistinct := by
  have step : ∀ (interfaces : List (String × Interface)) (counts : ClassCounts),
      counts.NamesDistinct →
        (interfaces.foldl (fun counts entry => entry.2.addTo catalog counts) counts).NamesDistinct := by
    intro interfaces
    induction interfaces with
    | nil => exact fun _ distinct => distinct
    | cons entry rest ih =>
        intro counts distinct
        exact ih _ (Interface.namesDistinct_addTo distinct)
  exact step _ _ ClassCounts.namesDistinct_empty

end Configuration

/-- The interfaces of a device that carry reports. -/
def Device.reportInterfaces (device : Device) (catalog : Catalog) : List (String × Interface) :=
  device.configurations.flatMap fun entry => entry.2.reportInterfaces catalog

namespace Catalog

/-- Counts with the instances of a host section. -/
def addHost (catalog : Catalog) (counts : ClassCounts) (entry : String × HostSection) :
    ClassCounts :=
  match catalog.hostClasses.get? entry.1 with
  | some host => counts.add .host host.className entry.2.count
  | none => counts

theorem addHost_of_ok {catalog : Catalog} {counts : ClassCounts} {entry : String × HostSection}
    {host : HostClass} (found : catalog.hostClass entry.1 = .ok host) :
    catalog.addHost counts entry = counts.add .host host.className entry.2.count := by
  unfold hostClass at found
  split at found
  next host present =>
    cases found
    rw [addHost, present]
  next => cases found

/-- Whether a host section is about a class. -/
def isHostOf (catalog : Catalog) (className name : String) : Bool :=
  (catalog.hostClasses.get? name).any fun host => identifier host.className = identifier className

theorem get_addHost {catalog : Catalog} {counts : ClassCounts} {entry : String × HostSection}
    {bus : Bus} {className : String} : (catalog.addHost counts entry).get bus className =
      counts.get bus className +
        if bus = .host ∧ catalog.isHostOf className entry.1 = true then entry.2.count else 0 := by
  unfold addHost isHostOf
  cases catalog.hostClasses.get? entry.1 with
  | none => simp
  | some host => simp [ClassCounts.get_add, eq_comm]

theorem get_foldl_addHost {catalog : Catalog} {sections : OrderedMap HostSection}
    {counts : ClassCounts} {bus : Bus} {className : String} :
    (sections.foldl (fun counts entry => catalog.addHost counts entry) counts).get bus className =
      counts.get bus className + if bus = .host then
        ((sections.filter fun entry => catalog.isHostOf className entry.1).map
          fun entry => entry.2.count).sum else 0 := by
  induction sections generalizing counts with
  | nil => simp
  | cons entry rest ih =>
      rw [List.foldl_cons, ih, get_addHost]
      by_cases side : bus = .host
      · by_cases member : catalog.isHostOf className entry.1 = true
        · simp [side, member, Nat.add_assoc]
        · simp [side, member]
      · simp [side]

end Catalog

namespace Document

def allConfigurations (document : Document) : List (String × Configuration) :=
  document.devices.flatMap fun device => device.2.configurations

def allInterfaces (document : Document) : List (String × Interface) :=
  document.allConfigurations.flatMap fun configuration => configuration.2.interfaces

/-- The interfaces of a document that carry reports. -/
def reportInterfaces (document : Document) (catalog : Catalog) : List (String × Interface) :=
  document.allConfigurations.flatMap fun entry => entry.2.reportInterfaces catalog

section Members

variable {document : Document} {catalog : Catalog} {entry : String × Interface}

theorem mem_allInterfaces_iff : entry ∈ document.allInterfaces ↔
    ∃ device ∈ document.devices, ∃ configuration ∈ device.2.configurations,
      entry ∈ configuration.2.interfaces := by
  simp only [allInterfaces, allConfigurations, List.mem_flatMap]
  constructor
  · rintro ⟨configuration, ⟨device, deviceMem, configurationMem⟩, mem⟩
    exact ⟨device, deviceMem, configuration, configurationMem, mem⟩
  · rintro ⟨device, deviceMem, configuration, configurationMem, mem⟩
    exact ⟨configuration, ⟨device, deviceMem, configurationMem⟩, mem⟩

theorem mem_reportInterfaces_iff : entry ∈ document.reportInterfaces catalog ↔
    entry ∈ document.allInterfaces ∧ entry.2.carriesReports catalog = true := by
  simp only [reportInterfaces, allInterfaces, Configuration.reportInterfaces, List.mem_flatMap,
    List.mem_filter]
  constructor
  · rintro ⟨configuration, configurationMem, mem, carries⟩
    exact ⟨⟨configuration, configurationMem, mem⟩, carries⟩
  · rintro ⟨⟨configuration, configurationMem, mem⟩, carries⟩
    exact ⟨configuration, configurationMem, mem, carries⟩

end Members

/-- The number of instances of a host class. -/
def hostCount (document : Document) (catalog : Catalog) (className : String) : Nat :=
  ((document.hosts.filter fun entry => catalog.isHostOf className entry.1).map
    fun entry => entry.2.count).sum

/-- The counts of a document if the configurations are merged in a given order. -/
def counts (document : Document) (catalog : Catalog) (order : List (String × Configuration)) :
    ClassCounts :=
  document.hosts.foldl (fun counts entry => catalog.addHost counts entry)
    (ClassCounts.empty.mergeAll (order.map fun entry => entry.2.instances catalog))

end Document

end UsbDescriptors
