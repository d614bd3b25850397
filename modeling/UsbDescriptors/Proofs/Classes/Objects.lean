import UsbDescriptors.ClassRegistry
import UsbDescriptors.Proofs.OrderedMaps
import Mathlib.Data.List.Induction
import Mathlib.Data.List.Perm.Basic

/-!
# Objects of the registry

The registry lists objects in the order in which they are added, and writes them twice: declared for
the header, and constructed and listed in arrays for the source. Both texts arrange the objects in
groups of one namespace, and the source parts every group in the objects of devices and those of
hosts. Nothing is lost in this and nothing is written twice, whatever is added in whatever order.

An object of a host is numbered by a count over what the registry holds at that time. The count is
the number of host objects that were added to the namespace before, so the objects of the hosts of a
namespace are numbered from zero on.
-/

namespace UsbDescriptors

/-- What is added to a registry: the object of a device interface with its number, or the object of
a host section. -/
inductive ClassAddition where
  | device (scope tag : String) (ordinal : Nat)
  | host (scope tag : String)
deriving DecidableEq, Repr

namespace ClassAddition

def scope : ClassAddition → String
  | device scope _ _ => scope
  | host scope _ => scope

def tag : ClassAddition → String
  | device _ tag _ => tag
  | host _ tag => tag

def isHost : ClassAddition → Bool
  | device .. => false
  | host .. => true

/-- The object that an addition makes behind earlier ones. A host object is numbered by the host
objects of its namespace that were added before. -/
def object (earlier : List ClassAddition) : ClassAddition → ClassEntry
  | device scope tag ordinal => { scope, tag, host := false, ordinal }
  | host scope tag =>
      { scope, tag, host := true,
        ordinal := earlier.countP fun other => other.isHost && other.scope = scope }

variable (earlier : List ClassAddition) (addition : ClassAddition)

@[simp]
theorem scope_object : (addition.object earlier).scope = addition.scope := by
  cases addition <;> rfl

@[simp]
theorem tag_object : (addition.object earlier).tag = addition.tag := by
  cases addition <;> rfl

@[simp]
theorem host_object : (addition.object earlier).host = addition.isHost := by
  cases addition <;> rfl

end ClassAddition

section Lists

/-- The items of a list are regrouped by a key if every key stands among the keys once. -/
theorem perm_regrouped {α : Type} {items : List α} {key : α → String} {keys : List String}
    (distinct : keys.Nodup) (all : ∀ item ∈ items, key item ∈ keys) :
    (keys.flatMap fun own => items.filter fun item => key item = own).Perm items := by
  have each (keys : List String) (distinct : keys.Nodup) :
      (keys.flatMap fun own => items.filter fun item => key item = own).Perm
        (items.filter fun item => key item ∈ keys) := by
    induction keys with
    | nil => simp
    | cons own rest ih =>
        rcases List.nodup_cons.mp distinct with ⟨absent, others⟩
        have front : (items.filter fun item => key item ∈ own :: rest).filter
            (fun item => key item = own) = items.filter fun item => key item = own := by
          rw [List.filter_filter]
          exact List.filter_congr fun item _ => by simp; grind
        have behind : (items.filter fun item => key item ∈ own :: rest).filter
            (fun item => !decide (key item = own)) = items.filter fun item => key item ∈ rest := by
          rw [List.filter_filter]
          exact List.filter_congr fun item _ => by simp; grind
        have parted := List.filter_append_perm (fun item => decide (key item = own))
          (items.filter fun item => key item ∈ own :: rest)
        rw [front, behind] at parted
        rw [List.flatMap_cons]
        exact ((ih others).append_left _).trans parted
  have kept : (items.filter fun item => key item ∈ keys) = items :=
    List.filter_eq_self.mpr fun item mem => by simp [all item mem]
  have whole := each keys distinct
  rwa [kept] at whole

/-- Names without their repetitions stand in the order in which they first appear. -/
theorem pairwise_idxOf_eraseDups (names : List String) :
    names.eraseDups.Pairwise fun first second => names.idxOf first < names.idxOf second := by
  induction names using List.reverseRecOn with
  | nil => simp
  | append_singleton names name ih =>
      have places : names.eraseDups.Pairwise fun first second =>
          (names ++ [name]).idxOf first < (names ++ [name]).idxOf second := by
        refine List.Pairwise.imp_of_mem ?_ ih
        intro first second firstMem secondMem before
        rwa [List.idxOf_append_of_mem (List.mem_eraseDups.mp firstMem),
          List.idxOf_append_of_mem (List.mem_eraseDups.mp secondMem)]
      by_cases present : name ∈ names
      · rwa [OrderedMap.eraseDups_concat_of_mem present]
      · rw [OrderedMap.eraseDups_concat_of_not_mem present, List.pairwise_append]
        refine ⟨places, List.pairwise_singleton _ _, ?_⟩
        intro first firstMem second single
        rcases List.mem_singleton.mp single with rfl
        have earlier := List.mem_eraseDups.mp firstMem
        rw [List.idxOf_append_of_mem earlier, List.idxOf_append_of_notMem present]
        exact Nat.lt_of_lt_of_le (List.idxOf_lt_length_of_mem earlier) (Nat.le_add_right _ _)

end Lists

namespace ClassRegistry

variable {registry : ClassRegistry} {additions : List ClassAddition} {addition : ClassAddition}

def adding (registry : ClassRegistry) : ClassAddition → ClassRegistry
  | .device scope tag ordinal => registry.addDevice scope tag ordinal
  | .host scope tag => registry.addHost scope tag

/-- The registry that is left by additions which are made one after the other. -/
def after (registry : ClassRegistry) (additions : List ClassAddition) : ClassRegistry :=
  additions.foldl adding registry

/-- The objects of devices in a namespace. -/
def devices (registry : ClassRegistry) (scope : String) : List ClassEntry :=
  (registry.group scope).filter fun entry => !entry.host

/-- The objects of hosts in a namespace. -/
def hosts (registry : ClassRegistry) (scope : String) : List ClassEntry :=
  (registry.group scope).filter fun entry => entry.host

/-- The registry holds one object for every addition, in the same order, and the host objects of every
namespace are numbered from zero on. -/
structure Keeps (registry : ClassRegistry) (additions : List ClassAddition) : Prop where
  entries : registry.entries =
    additions.mapIdx fun index addition => addition.object (additions.take index)
  numbered : ∀ scope, (registry.hosts scope).map ClassEntry.ordinal =
    List.range (registry.hosts scope).length

theorem hosts_addDevice (scope tag own : String) (ordinal : Nat) :
    (registry.addDevice scope tag ordinal).hosts own = registry.hosts own := by
  simp [hosts, group, addDevice]

theorem hosts_addHost (scope tag own : String) :
    (registry.addHost scope tag).hosts own = registry.hosts own ++
      if scope = own then [⟨scope, tag, true, (registry.hosts own).length⟩] else [] := by
  by_cases same : scope = own
  · subst scope
    simp [hosts, group, addHost, List.filter_filter]
  · simp [hosts, group, addHost, same]

namespace Keeps

/-- The objects are of the kinds that were added. -/
theorem kinds (keeps : registry.Keeps additions) :
    registry.entries.map (fun entry => (entry.scope, entry.host)) =
      additions.map fun addition => (addition.scope, addition.isHost) := by
  rw [keeps.entries]
  apply List.ext_getElem <;> simp

theorem entries_adding (keeps : registry.Keeps additions) (addition : ClassAddition) :
    (registry.adding addition).entries = registry.entries ++ [addition.object additions] := by
  cases addition with
  | device scope tag ordinal => rfl
  | host scope tag =>
      have counted : (registry.entries.filter fun entry => entry.host && entry.scope = scope).length =
          additions.countP fun other => other.isHost && other.scope = scope := by
        have same := congrArg (List.countP fun kind => kind.2 && kind.1 = scope) keeps.kinds
        rw [List.countP_map, List.countP_map] at same
        rw [← List.countP_eq_length_filter]
        exact same
      rw [ClassAddition.object, ← counted]
      rfl

theorem adding (keeps : registry.Keeps additions) (addition : ClassAddition) :
    (registry.adding addition).Keeps (additions ++ [addition]) := by
  constructor
  · rw [keeps.entries_adding, List.mapIdx_concat, List.take_left, keeps.entries]
    congr 1
    refine List.mapIdx_eq_mapIdx_iff.mpr fun index inside => ?_
    rw [List.take_append_of_le_length (Nat.le_of_lt inside)]
  · intro own
    have numbered := keeps.numbered own
    cases addition with
    | device scope tag ordinal => rwa [ClassRegistry.adding, hosts_addDevice]
    | host scope tag =>
        rw [ClassRegistry.adding, hosts_addHost]
        split
        next => rw [List.map_append, numbered, List.length_append, List.length_singleton,
          List.range_succ, List.map_singleton]
        next => rwa [List.append_nil]

end Keeps

theorem keeps_empty : empty.Keeps [] :=
  ⟨rfl, fun _ => rfl⟩

theorem keeps_after (additions : List ClassAddition) : (empty.after additions).Keeps additions := by
  induction additions using List.reverseRecOn with
  | nil => exact keeps_empty
  | append_singleton additions addition ih =>
      rw [after, List.foldl_append]
      exact ih.adding addition

/-- Every namespace has one group, the groups stand in the order in which their namespaces are first
added, and the objects of a group in the order in which they are added. No object is lost. -/
structure Arranges (registry : ClassRegistry) : Prop where
  distinct : registry.scopes.Nodup
  ordered : registry.scopes.Pairwise fun first second =>
    (registry.entries.map ClassEntry.scope).idxOf first <
      (registry.entries.map ClassEntry.scope).idxOf second
  own : ∀ scope, ∀ entry ∈ registry.group scope, entry.scope = scope
  inOrder : ∀ scope, (registry.group scope).Sublist registry.entries ∧
    (registry.devices scope).Sublist (registry.group scope) ∧
    (registry.hosts scope).Sublist (registry.group scope)
  parted : ∀ scope, (registry.devices scope ++ registry.hosts scope).Perm (registry.group scope)
  whole : (registry.scopes.flatMap registry.group).Perm registry.entries

theorem arranges (registry : ClassRegistry) : registry.Arranges := by
  have ordered := pairwise_idxOf_eraseDups (registry.entries.map ClassEntry.scope)
  have distinct : registry.scopes.Nodup := by
    refine ordered.imp fun before => ?_
    rintro rfl
    exact Nat.lt_irrefl _ before
  have kept : ∀ scope, (registry.group scope).Sublist registry.entries ∧
      (registry.devices scope).Sublist (registry.group scope) ∧
      (registry.hosts scope).Sublist (registry.group scope) :=
    fun _ => ⟨List.filter_sublist, List.filter_sublist, List.filter_sublist⟩
  refine ⟨distinct, ordered, ?_, kept, ?_, ?_⟩
  · intro scope entry mem
    simpa using (List.mem_filter.mp mem).2
  · intro scope
    have parted := List.filter_append_perm (fun entry => !entry.host) (registry.group scope)
    simpa [devices, hosts] using parted
  · apply perm_regrouped distinct
    intro entry mem
    exact List.mem_eraseDups.mpr (List.mem_map_of_mem mem)

end ClassRegistry

end UsbDescriptors
