import UsbDescriptors.Proofs.Endpoints.Optimality
import UsbDescriptors.Proofs.Interfaces.Enumerators

/-!
# Counts of interface numbers

A configuration takes as many interface numbers as its interfaces do together. The endpoint numbers
of a device limit only the interfaces that have endpoints: with the built-in templates these take at
most two interface numbers for each of their incoming endpoints, of which there are 15 at most.
Interfaces without endpoints are not limited by anything.
-/

namespace UsbDescriptors

/-- How many interface numbers the interfaces of a configuration take. -/
def Configuration.numberCount (configuration : Configuration) (catalog : Catalog) : Nat :=
  (configuration.interfaces.map fun entry => entry.2.numberCount catalog).sum

/-- The directions of the endpoints that an interface asks for. -/
def Interface.directions (interface : Interface) (catalog : Catalog) : List Direction :=
  ((catalog.templates.get? interface.template).map Template.directions).getD []

/-- How many interfaces of a configuration have no endpoints. -/
def Configuration.endpointless (configuration : Configuration) (catalog : Catalog) : Nat :=
  configuration.interfaces.countP fun entry => (entry.2.directions catalog).isEmpty

theorem ConfigurationBlock.MadeFrom.interfaceCount {catalog : Catalog} {device : String}
    {entry : String × Configuration} {number : Nat} {block : ConfigurationBlock}
    (origin : block.MadeFrom catalog device (entry, number)) :
    block.interfaceCount = entry.2.numberCount catalog := by
  have lengths := congrArg List.length origin.enumerators_eq
  simp only [ConfigurationBlock.enumerators, Configuration.enumeratorNames, List.length_map,
    List.length_append, List.length_flatMap, Interface.numberNames, List.length_range,
    List.length_singleton, Nat.add_right_cancel_iff] at lengths
  exact lengths

theorem Configuration.map_snd_endpointRequests (configuration : Configuration) (catalog : Catalog) :
    (configuration.endpointRequests catalog).map Prod.snd =
      configuration.interfaces.flatMap fun entry => entry.2.directions catalog := by
  rw [endpointRequests, List.map_flatMap]
  refine List.flatMap_congr fun entry _ => ?_
  unfold Interface.directions
  cases catalog.templates.get? entry.2.template with
  | none => rfl
  | some template => exact template.map_snd_endpointRequests entry.1

/-- A built-in template takes at most two interface numbers for each of its incoming endpoints, and
one if it has no endpoints. -/
theorem Catalog.numbers_le_builtin : ∀ entry ∈ builtin.templates, max entry.2.interfaces 1 ≤
    2 * entry.2.directions.count .incoming + if entry.2.directions.isEmpty then 1 else 0 := by
  decide +kernel

theorem Interface.numberCount_le (interface : Interface) :
    interface.numberCount Catalog.builtin ≤
      2 * (interface.directions Catalog.builtin).count .incoming +
        if (interface.directions Catalog.builtin).isEmpty then 1 else 0 := by
  unfold numberCount directions
  cases known : Catalog.builtin.templates.get? interface.template with
  | none => simp
  | some template =>
      exact Catalog.numbers_le_builtin _ (OrderedMap.mem_of_get?_eq_some known)

/-- With the built-in templates the interface numbers of a configuration are at most two for each
incoming endpoint and one for each interface without endpoints. -/
theorem Configuration.numberCount_le (configuration : Configuration) :
    configuration.numberCount Catalog.builtin ≤
      2 * ((configuration.endpointRequests Catalog.builtin).map Prod.snd).count .incoming +
        configuration.endpointless Catalog.builtin := by
  rw [map_snd_endpointRequests, numberCount, endpointless]
  induction configuration.interfaces with
  | nil => simp
  | cons entry rest ih =>
      have own := entry.2.numberCount_le
      rw [List.map_cons, List.sum_cons, List.flatMap_cons, List.count_append, List.countP_cons]
      omega

/-- A block that a run makes with the built-in templates has no more interface numbers than 30 and
the interfaces without endpoints. -/
theorem ConfigurationBlock.MadeFrom.interfaceCount_le {device : String}
    {entry : String × Configuration} {number : Nat} {block : ConfigurationBlock}
    (origin : block.MadeFrom Catalog.builtin device (entry, number)) :
    block.interfaceCount ≤ 30 + entry.2.endpointless Catalog.builtin := by
  have fits := origin.granted.2
  have assigned := EndpointAllocator.assignment_grant (Nat.succ_le_succ fits)
  have incoming := assigned.count_le .incoming
  have count := entry.2.numberCount_le
  rw [origin.interfaceCount]
  omega

end UsbDescriptors
