import UsbDescriptors.Catalog.Builtin
import UsbDescriptors.Proofs.Runs.Registration

/-!
# Instances of classes

Within a configuration the interfaces of a class are numbered from zero on, in document order, and
the same counter says at the end how many there are. Over all configurations of all devices the
greatest of these numbers is kept, so that no instance number is out of reach of the define of its
class. The instances of host classes are added up. In which order the configurations are merged
makes no difference to any count.
-/

namespace UsbDescriptors

namespace ClassCounts

theorem mem_of_get_pos {counts : ClassCounts} {bus : Bus} {className : String}
    (positive : 0 < counts.get bus className) :
    (symbol bus className, counts.get bus className) ∈ counts.side bus := by
  cases found : (counts.side bus).get? (symbol bus className) with
  | none =>
      rw [get, found] at positive
      exact absurd positive (Nat.lt_irrefl 0)
  | some number =>
      rw [get, found]
      exact OrderedMap.mem_of_get?_eq_some found

end ClassCounts

/-- The objects of a configuration are numbered by class from zero on, and each number is below the
define that carries the count of the class. -/
structure Generated.Numbers (generated : Generated) (catalog : Catalog)
    (entry : String × Configuration) (group : List ClassEntry) : Prop where
  objects : entry.2.Objects catalog group
  below : ∀ className, ∀ ordinal ∈ ClassEntry.ordinals catalog className entry.2.interfaces group,
    (ClassCounts.symbol .device className, generated.counts.get .device className) ∈
        generated.counts.device ∧
      ordinal < generated.counts.get .device className

namespace Document

variable {catalog : Catalog} {document : Document}

/-- The most interfaces of a class that a configuration has. -/
def mostInstances (document : Document) (catalog : Catalog) (className : String) : Nat :=
  (document.allConfigurations.map fun entry => entry.2.instanceCount catalog className).foldr max 0

theorem instanceCount_le_mostInstances {entry : String × Configuration} {className : String}
    (mem : entry ∈ document.allConfigurations) :
    entry.2.instanceCount catalog className ≤ document.mostInstances catalog className := by
  have below : ∀ (numbers : List Nat) (number : Nat), number ∈ numbers →
      number ≤ numbers.foldr max 0 := by
    intro numbers number numberMem
    induction numbers with
    | nil => cases numberMem
    | cons first rest ih =>
        rw [List.foldr_cons]
        rcases List.mem_cons.mp numberMem with rfl | later
        · exact Nat.le_max_left _ _
        · exact Nat.le_trans (ih later) (Nat.le_max_right _ _)
  exact below _ _ (List.mem_map.mpr ⟨entry, mem, rfl⟩)

theorem namesDistinct_of_mem_instances {order : List (String × Configuration)} :
    ∀ counts ∈ order.map fun entry => entry.2.instances catalog, counts.NamesDistinct := by
  intro counts mem
  rcases List.mem_map.mp mem with ⟨entry, -, rfl⟩
  exact Configuration.namesDistinct_instances

/-- Merging keeps the most interfaces of a class, and nothing on the host side. -/
theorem get_mergeAll_instances {bus : Bus} {className : String}
    {order : List (String × Configuration)} :
    (ClassCounts.empty.mergeAll (order.map fun entry => entry.2.instances catalog)).get bus
        className =
      if bus = .device then
        (order.map fun entry => entry.2.instanceCount catalog className).foldr max 0 else 0 := by
  rw [ClassCounts.get_mergeAll namesDistinct_of_mem_instances, ClassCounts.get_empty,
    Nat.zero_max, List.map_map]
  cases bus with
  | device => simp only [Function.comp_def, Configuration.get_instances, if_true]
  | host =>
      simp only [Function.comp_def, Configuration.get_instances, reduceCtorEq, if_false]
      induction order with
      | nil => rfl
      | cons entry rest ih =>
          rw [List.map_cons, List.foldr_cons, Nat.zero_max]
          exact ih

theorem get_counts {bus : Bus} {className : String} {order : List (String × Configuration)} :
    (document.counts catalog order).get bus className =
      match bus with
      | .device => (order.map fun entry => entry.2.instanceCount catalog className).foldr max 0
      | .host => document.hostCount catalog className := by
  rw [counts, Catalog.get_foldl_addHost, get_mergeAll_instances]
  cases bus with
  | device => simp
  | host => simp [hostCount]

/-- A successful run numbers the interfaces of a class from zero on in every configuration. The count
of a class is the greatest number of its interfaces that a configuration has on the device side, and
the sum of its instances on the host side. It is the same for every order in which the configurations
can be merged. -/
theorem instances_of_generate {generated : Generated}
    (run : document.generate catalog = .ok generated) :
    (∃ groups hosts, generated.registry.entries = groups.flatten ++ hosts ∧
      (∀ object ∈ hosts, object.host = true) ∧
      List.Forall₂ (generated.Numbers catalog) document.allConfigurations groups) ∧
    (∀ className,
      generated.counts.get .device className = document.mostInstances catalog className) ∧
    (∀ className,
      generated.counts.get .host className = document.hostCount catalog className) ∧
    generated.counts = document.counts catalog document.allConfigurations ∧
    ∀ order : List (String × Configuration), order.Perm document.allConfigurations →
      ∀ bus className, (document.counts catalog order).get bus className =
        generated.counts.get bus className := by
  rcases registered_of_generate run with ⟨groups, hosts, registered⟩
  have devices : ∀ className,
      generated.counts.get .device className = document.mostInstances catalog className := by
    intro className
    rw [registered.counts, get_counts, mostInstances]
  have numbers : ∀ entry ∈ document.allConfigurations, ∀ group,
      entry.2.Objects catalog group → generated.Numbers catalog entry group := by
    intro entry mem group objects
    refine ⟨objects, ?_⟩
    intro className ordinal ordinalMem
    rw [objects.numbered className, List.mem_range] at ordinalMem
    have bounded : ordinal < generated.counts.get .device className := by
      rw [devices className]
      exact Nat.lt_of_lt_of_le ordinalMem (instanceCount_le_mostInstances mem)
    exact ⟨ClassCounts.mem_of_get_pos (Nat.zero_lt_of_lt bounded), bounded⟩
  refine ⟨⟨groups, hosts, registered.registry, ?_, ?_⟩, devices, ?_, registered.counts, ?_⟩
  · intro object mem
    rcases Related.exists_left registered.hosts mem with ⟨_, -, -, host⟩
    exact host
  · exact Related.imp_of_mem registered.groups numbers
  · intro className
    rw [registered.counts, get_counts]
  · intro order reordered bus className
    have merged := @ClassCounts.get_mergeAll_perm .empty bus className _ _
      (reordered.map fun entry => entry.2.instances catalog) namesDistinct_of_mem_instances
    rw [registered.counts, counts, counts, Catalog.get_foldl_addHost, Catalog.get_foldl_addHost,
      merged]

/-- Serial lines in two configurations, and two host classes. -/
def serialLines : Document where
  devices := [("dev0", {
    vendor := .number 1
    configurations := [
      ("a", { interfaces := [("cdc0", { template := "cdc" }), ("msc0", { template := "msc" })] }),
      ("b", { interfaces := [("cdc1", { template := "cdc" }), ("cdc2", { template := "cdc" })] })] })]
  hosts := [("hid", { count := 4 }), ("cdc", {})]

theorem instances_serialLines : ∃ generated, serialLines.generate Catalog.builtin = .ok generated ∧
    (∃ groups hosts, generated.registry.entries = groups.flatten ++ hosts ∧
      (∀ object ∈ hosts, object.host = true) ∧
      List.Forall₂ (generated.Numbers Catalog.builtin) serialLines.allConfigurations groups) ∧
    generated.counts.get .device "CDC" = 2 ∧ generated.counts.get .host "HID" = 4 ∧
    (serialLines.counts Catalog.builtin serialLines.allConfigurations.reverse).get .device "CDC" =
      2 := by
  have success : (serialLines.generate Catalog.builtin).isOk = true := by decide +kernel
  rcases outcome_isOk_iff.mp success with ⟨generated, run⟩
  rcases instances_of_generate run with ⟨objects, devices, hosts, -, reordered⟩
  have serial : generated.counts.get .device "CDC" = 2 := (devices "CDC").trans (by decide +kernel)
  refine ⟨generated, run, objects, serial, (hosts "HID").trans (by decide +kernel), ?_⟩
  exact (reordered _ (List.reverse_perm _) .device "CDC").trans serial

end Document

end UsbDescriptors
