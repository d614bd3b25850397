import UsbDescriptors.Proofs.Endpoints.Addresses
import UsbDescriptors.Proofs.OrderedMaps
import Mathlib.Data.List.Perm.Subperm

/-!
# Optimal endpoint numbers

The allocator never goes back to a number whose other direction is free, so in general it takes
more numbers than it has to. For the built-in templates it does not: there every outgoing endpoint
has an incoming one right behind it, so that between two interfaces the current number always
carries an incoming endpoint. `Tight` is this invariant. Under it as many numbers are in use as
there are incoming endpoints, and no way of numbering them needs fewer.
-/

namespace UsbDescriptors

/-- Every outgoing endpoint has an incoming one right behind it. -/
inductive Paired : List Direction → Prop
  | nil : Paired []
  | incoming {rest : List Direction} (others : Paired rest) : Paired (.incoming :: rest)
  | outgoing {rest : List Direction} (others : Paired rest) :
      Paired (.outgoing :: .incoming :: rest)

namespace Paired

instance decidable : (directions : List Direction) → Decidable (Paired directions)
  | [] => .isTrue .nil
  | .incoming :: rest =>
      match decidable rest with
      | .isTrue others => .isTrue (.incoming others)
      | .isFalse unpaired => .isFalse fun | .incoming others => unpaired others
  | .outgoing :: .incoming :: rest =>
      match decidable rest with
      | .isTrue others => .isTrue (.outgoing others)
      | .isFalse unpaired => .isFalse fun | .outgoing others => unpaired others
  | [.outgoing] => .isFalse nofun
  | .outgoing :: .outgoing :: _ => .isFalse nofun

theorem append {front back : List Direction} (first : Paired front) (second : Paired back) :
    Paired (front ++ back) := by
  induction first with
  | nil => exact second
  | incoming _ ih => exact .incoming ih
  | outgoing _ ih => exact .outgoing ih

theorem flatMap {α : Type} {items : List α} {part : α → List Direction}
    (each : ∀ item ∈ items, Paired (part item)) : Paired (items.flatMap part) := by
  induction items with
  | nil => exact .nil
  | cons item rest ih =>
      rcases List.forall_mem_cons.mp each with ⟨own, others⟩
      exact own.append (ih others)

end Paired

/-- The directions of the endpoints of a template, in the order of its fields. -/
def Template.directions (template : Template) : List Direction :=
  template.fields.filterMap Field.direction?

theorem Template.map_snd_endpointRequests (template : Template) (tag : String) :
    (template.endpointRequests tag).map Prod.snd = template.directions :=
  Field.map_snd_endpointRequests tag template.fields

theorem Catalog.paired_builtin : ∀ entry ∈ builtin.templates, Paired entry.2.directions := by
  decide +kernel

namespace EndpointAllocator

/-- As many numbers are in use as there are incoming endpoints, the last one for an incoming
endpoint. -/
structure Tight (allocator : EndpointAllocator) (incoming : Nat) : Prop where
  counter : allocator.counter = max 1 incoming
  lastIncoming : allocator.lastIncoming = incoming
  lastOutgoing : allocator.lastOutgoing ≤ incoming

theorem tight_fresh : fresh.Tight 0 where
  counter := rfl
  lastIncoming := rfl
  lastOutgoing := Nat.le_refl 0

namespace Tight

variable {allocator : EndpointAllocator} {incoming : Nat}

theorem next_incoming (tight : allocator.Tight incoming) :
    allocator.next .incoming = incoming + 1 := by
  simp only [next, last, tight.counter, tight.lastIncoming]
  split <;> omega

/-- An incoming endpoint takes the next number. -/
theorem advance_incoming (tight : allocator.Tight incoming) :
    (allocator.advance .incoming).Tight (incoming + 1) := by
  constructor
  · rw [counter_advance, tight.next_incoming]
    omega
  · exact tight.next_incoming
  · exact Nat.le_succ_of_le tight.lastOutgoing

/-- An outgoing endpoint takes the current number or the next one, and the incoming one behind it
always the next. -/
theorem advance_pair (tight : allocator.Tight incoming) :
    ((allocator.advance .outgoing).advance .incoming).Tight (incoming + 1) := by
  have outgoing : (allocator.advance .outgoing).lastOutgoing ≤ incoming + 1 := by
    have bound := tight.lastOutgoing
    simp only [advance, next, last, tight.counter]
    split <;> omega
  have number : (allocator.advance .outgoing).next .incoming = incoming + 1 := by
    have bound := tight.lastOutgoing
    have kept : (allocator.advance .outgoing).lastIncoming = incoming := tight.lastIncoming
    simp only [next, counter_advance, last, kept, tight.counter]
    split <;> split <;> omega
  constructor
  · rw [counter_advance, number]
    omega
  · exact number
  · exact outgoing

/-- Over paired endpoints the invariant counts the incoming ones. -/
theorem after {directions : List Direction} (tight : allocator.Tight incoming)
    (paired : Paired directions) :
    (allocator.after directions).Tight (incoming + directions.count .incoming) := by
  induction paired generalizing allocator incoming with
  | nil => exact tight
  | @incoming rest _ ih =>
      have later := ih tight.advance_incoming
      rw [Nat.add_right_comm] at later
      rw [List.count_cons_self]
      exact later
  | @outgoing rest _ ih =>
      have later := ih tight.advance_pair
      rw [Nat.add_right_comm] at later
      rw [List.count_cons_of_ne (by decide), List.count_cons_self]
      exact later

end Tight

theorem slots_after_of_paired {directions : List Direction} (paired : Paired directions) :
    (fresh.after directions).slots = 1 + max 1 (directions.count .incoming) := by
  have tight := tight_fresh.after paired
  rw [slots, tight.counter, Nat.zero_add, Nat.add_comm]

theorem map_direction_grant (allocator : EndpointAllocator)
    (requests : List (String × Direction)) :
    (allocator.grant requests).map (fun endpoint => endpoint.address.direction) =
      requests.map Prod.snd := by
  have directions := congrArg (List.map EndpointAddress.direction)
    (map_address_grant allocator requests)
  rw [List.map_map, List.map_map] at directions
  exact directions.trans (map_fst_issued allocator _)

end EndpointAllocator

/-- Distinct addresses for endpoints of a list of directions, within the numbers of a device. -/
structure AddressAssignment (directions : List Direction) (addresses : List EndpointAddress) :
    Prop where
  directions : addresses.map EndpointAddress.direction = directions
  distinct : (addresses.map EndpointAddress.value).Nodup
  numbers : ∀ address ∈ addresses, 1 ≤ address.number ∧ address.number ≤ 15

/-- There are 15 addresses of a direction. -/
theorem AddressAssignment.count_le {directions : List Direction}
    {addresses : List EndpointAddress} (assigned : AddressAssignment directions addresses)
    (direction : Direction) : directions.count direction ≤ 15 := by
  let own := addresses.filter fun address => address.direction = direction
  have count : directions.count direction = (own.map EndpointAddress.number).length := by
    rw [← assigned.directions, List.count_eq_countP, List.countP_map, List.length_map,
      ← List.countP_eq_length_filter]
    rfl
  have distinct : (own.map EndpointAddress.number).Nodup := by
    have values : (own.map EndpointAddress.value).Nodup :=
      (List.filter_sublist.map EndpointAddress.value).nodup assigned.distinct
    apply List.Nodup.map_on _ values.of_map
    intro address mem other otherMem equal
    have first := of_decide_eq_true (List.mem_filter.mp mem).2
    have second := of_decide_eq_true (List.mem_filter.mp otherMem).2
    cases address
    cases other
    simp_all
  have range : own.map EndpointAddress.number ⊆ List.range' 1 15 := by
    intro number mem
    rcases List.mem_map.mp mem with ⟨address, addressMem, rfl⟩
    have bounds := assigned.numbers address (List.mem_filter.mp addressMem).1
    rw [List.mem_range'_1]
    omega
  rw [count]
  exact (List.subperm_of_subset distinct range).length_le

/-- Addresses that a fresh allocator grants within the numbers of a device are an assignment. -/
theorem EndpointAllocator.assignment_grant {requests : List (String × Direction)}
    (fits : (fresh.after (requests.map Prod.snd)).slots ≤ maxSlots) :
    AddressAssignment (requests.map Prod.snd)
      ((fresh.grant requests).map Endpoint.address) := by
  have counter : (fresh.after (requests.map Prod.snd)).counter ≤ 15 := Nat.le_of_succ_le_succ fits
  have small : (fresh.after (requests.map Prod.snd)).counter < 128 := by omega
  constructor
  · rw [List.map_map]
    exact map_direction_grant fresh requests
  · rw [List.map_map]
    exact nodup_values_grant sound_fresh small
  · intro address mem
    rcases List.mem_map.mp mem with ⟨endpoint, endpointMem, rfl⟩
    have bounds := number_of_mem_grant sound_fresh small endpointMem
    rcases request_of_mem_grant endpointMem with ⟨number, -, -, made⟩
    have own : endpoint.address.value &&& 0x7F = endpoint.address.number := by
      rw [made, EndpointAddress.value_ofParts_and]
      rfl
    rw [own] at bounds
    exact ⟨bounds.1, Nat.le_trans bounds.2 counter⟩

/-- The directions of the endpoints that the interfaces of a configuration ask for. -/
def endpointDirections (plans : List InterfacePlan) : List Direction :=
  plans.flatMap fun plan => plan.resolved.template.directions

/-- The interfaces of built-in templates take as many endpoint numbers as they have incoming
endpoints, but at least one. They are refused at the end of their configuration if and only if
these are more than 15, and then there are no distinct addresses for their endpoints at all. -/
theorem endpointNumbers_optimal {device configuration : String} {instances final : ClassCounts}
    {plans : List InterfacePlan} {all : List EvaluatedInterface} {before after : Session}
    (known : ∀ plan ∈ plans, ∃ name,
      Catalog.builtin.templates.get? name = some plan.resolved.template)
    (start : before.registers.endpoints = .fresh)
    (run : Generation.interfaces device configuration instances plans before =
      .ok (all, final) after) :
    (all.flatMap EvaluatedInterface.endpoints).map (fun endpoint => endpoint.address.direction) =
        endpointDirections plans ∧
      after.registers.endpoints.slots = 1 + max 1 ((endpointDirections plans).count .incoming) ∧
      (∀ tag, after.registers.endpoints.finish tag =
          .error (.tooManyEndpoints tag after.registers.endpoints.slots
            EndpointAllocator.maxSlots) ↔
        15 < (endpointDirections plans).count .incoming) ∧
      (∀ tag, after.registers.endpoints.finish tag = .ok () ↔
        (endpointDirections plans).count .incoming ≤ 15) ∧
      (15 < (endpointDirections plans).count .incoming ↔
        ¬ ∃ addresses, AddressAssignment (endpointDirections plans) addresses) := by
  have granted := Generation.interfaces_granted run
  generalize asked : (plans.flatMap fun plan => plan.resolved.endpointRequests) = requests at granted
  have directions : requests.map Prod.snd = endpointDirections plans := by
    rw [← asked, List.map_flatMap]
    simp only [ResolvedInterface.endpointRequests, Template.map_snd_endpointRequests]
    rfl
  have paired : Paired (requests.map Prod.snd) := by
    rw [directions]
    refine Paired.flatMap fun plan mem => ?_
    rcases known plan mem with ⟨name, found⟩
    exact Catalog.paired_builtin _ (OrderedMap.mem_of_get?_eq_some found)
  rcases granted with ⟨endpoints, allocator⟩
  rw [start] at endpoints allocator
  have slots : after.registers.endpoints.slots =
      1 + max 1 ((requests.map Prod.snd).count .incoming) := by
    rw [allocator]
    exact EndpointAllocator.slots_after_of_paired paired
  have limit : EndpointAllocator.maxSlots = 16 := rfl
  rw [← directions]
  refine ⟨?_, slots, ?_, ?_, ?_⟩
  · rw [endpoints]
    exact EndpointAllocator.map_direction_grant _ _
  · intro tag
    refine EndpointAllocator.finish_eq_error_iff.trans ?_
    omega
  · intro tag
    refine EndpointAllocator.finish_eq_ok_iff.trans ?_
    omega
  · constructor
    · rintro exceeded ⟨addresses, assigned⟩
      exact absurd (assigned.count_le .incoming) (Nat.not_le.mpr exceeded)
    · intro unassigned
      by_contra fits
      refine unassigned ⟨_, EndpointAllocator.assignment_grant ?_⟩
      rw [← allocator]
      omega

/-- A serial line and a storage, in the order of their endpoints: in, out, in and out, in. -/
def serialAndStoragePlans : List InterfacePlan :=
  let scalar := fun value => Json.Value.number (.integer value)
  [{
    resolved := {
      tag := "cdc0", templateName := "cdc", template := Catalog.Builtin.cdc, description := none
      properties := [("notify_size", scalar 8), ("ep_size", scalar 64),
        ("rx_bufsize", scalar 64), ("tx_bufsize", scalar 64)] }
    reports := none }, {
    resolved := {
      tag := "msc0", templateName := "msc", template := Catalog.Builtin.msc, description := none
      properties := [("ep_size", scalar 64), ("ep_bufsize", scalar 512)] }
    reports := none }]

theorem endpointNumbers_serialAndStorage : ∃ all final after,
    Generation.interfaces "dev0" "config1" .empty serialAndStoragePlans {} =
        .ok (all, final) after ∧
      after.registers.endpoints.slots = 4 ∧
      ∃ addresses, AddressAssignment (endpointDirections serialAndStoragePlans) addresses := by
  have success : (match Generation.interfaces "dev0" "config1" .empty serialAndStoragePlans {} with
      | .ok _ _ => true
      | .error _ _ => false) = true := by decide +kernel
  have known : ∀ plan ∈ serialAndStoragePlans, ∃ name,
      Catalog.builtin.templates.get? name = some plan.resolved.template := by
    refine List.forall_mem_cons.mpr ⟨⟨"cdc", rfl⟩, List.forall_mem_cons.mpr ⟨⟨"msc", rfl⟩, ?_⟩⟩
    exact List.forall_mem_nil _
  have incoming : (endpointDirections serialAndStoragePlans).count .incoming = 3 := by
    decide +kernel
  cases run : Generation.interfaces "dev0" "config1" .empty serialAndStoragePlans {} with
  | error fault after =>
      rw [run] at success
      cases success
  | ok result after =>
      rcases result with ⟨all, final⟩
      rcases endpointNumbers_optimal known rfl run with ⟨-, slots, -, -, unassigned⟩
      rw [incoming] at slots unassigned
      refine ⟨all, final, after, rfl, slots, ?_⟩
      by_contra none
      exact absurd (unassigned.mpr none) (by decide)

end UsbDescriptors
