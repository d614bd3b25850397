import UsbDescriptors.EndpointAllocator
import Mathlib.Data.List.Nodup

/-!
# Endpoint numbers over a configuration

The allocator never fails by itself and cuts every number to seven bits. What keeps the addresses
of a configuration apart is the invariant `Sound`: no direction is ahead of the counter. Under it
every new number of a direction is above all earlier ones of the direction and at most the final
counter, so that a final counter within the limit of a device means that no bit was lost and no
address was given twice.
-/

namespace UsbDescriptors

namespace EndpointAddress

theorem testBit_value_ofParts (number : Nat) (direction : Direction) :
    (ofParts number direction).value.testBit 7 = decide (direction = .incoming) := by
  rw [Nat.testBit_eq_decide_div_mod_eq]
  cases direction with
  | incoming =>
      have bit : (128 + number % 128) / 2 ^ 7 % 2 = 1 := by omega
      simp only [value, ofParts, bit, decide_true]
  | outgoing => simp [value, ofParts]

theorem value_ofParts_and (number : Nat) (direction : Direction) :
    (ofParts number direction).value &&& 0x7F = number % 128 := by
  have mask : (0x7F : Nat) = 2 ^ 7 - 1 := by decide
  rw [mask, Nat.and_two_pow_sub_one_eq_mod]
  cases direction with
  | incoming => simp [value, ofParts]
  | outgoing => simp [value, ofParts]

end EndpointAddress

namespace EndpointAllocator

/-- The state after endpoints of a list of directions. -/
def after (allocator : EndpointAllocator) (directions : List Direction) : EndpointAllocator :=
  directions.foldl advance allocator

/-- The endpoints of a list of directions with their numbers, before these are cut to seven
bits. -/
def issued (allocator : EndpointAllocator) : List Direction → List (Direction × Nat)
  | [] => []
  | direction :: rest =>
      (direction, allocator.next direction) :: (allocator.advance direction).issued rest

/-- The endpoints that are allocated for a list of symbols and directions. -/
def grant (allocator : EndpointAllocator) : List (String × Direction) → List Endpoint
  | [] => []
  | (symbol, direction) :: rest =>
      { symbol, address := (allocator.allocate direction).1 } ::
        (allocator.advance direction).grant rest

/-- The counter has started, and no direction is ahead of it. -/
structure Sound (allocator : EndpointAllocator) : Prop where
  counter_pos : 1 ≤ allocator.counter
  last_le_counter (direction : Direction) : allocator.last direction ≤ allocator.counter

@[simp]
theorem after_nil (allocator : EndpointAllocator) : allocator.after [] = allocator := rfl

@[simp]
theorem after_cons (allocator : EndpointAllocator) (direction : Direction)
    (rest : List Direction) :
    allocator.after (direction :: rest) = (allocator.advance direction).after rest := rfl

theorem after_append (allocator : EndpointAllocator) (front back : List Direction) :
    allocator.after (front ++ back) = (allocator.after front).after back := by
  simp [after]

theorem grant_append (allocator : EndpointAllocator) (front back : List (String × Direction)) :
    allocator.grant (front ++ back) =
      allocator.grant front ++ (allocator.after (front.map Prod.snd)).grant back := by
  induction front generalizing allocator with
  | nil => rfl
  | cons request rest ih => simp [grant, ih]

@[simp]
theorem counter_advance (allocator : EndpointAllocator) (direction : Direction) :
    (allocator.advance direction).counter = allocator.next direction := by
  cases direction <;> rfl

@[simp]
theorem last_advance_self (allocator : EndpointAllocator) (direction : Direction) :
    (allocator.advance direction).last direction = allocator.next direction := by
  cases direction <;> rfl

theorem last_advance_of_ne (allocator : EndpointAllocator) {direction other : Direction}
    (different : other ≠ direction) :
    (allocator.advance direction).last other = allocator.last other := by
  cases direction <;> cases other <;> first | rfl | exact absurd rfl different

theorem counter_le_next (allocator : EndpointAllocator) (direction : Direction) :
    allocator.counter ≤ allocator.next direction := by
  unfold next
  split <;> omega

theorem finish_eq_error_iff {allocator : EndpointAllocator} {tag : String} :
    allocator.finish tag = .error (.tooManyEndpoints tag allocator.slots maxSlots) ↔
      maxSlots < allocator.slots := by
  unfold finish
  split <;> simp_all

theorem finish_eq_ok_iff {allocator : EndpointAllocator} {tag : String} :
    allocator.finish tag = .ok () ↔ allocator.slots ≤ maxSlots := by
  unfold finish
  split <;> simp_all

theorem sound_fresh : fresh.Sound where
  counter_pos := Nat.le_refl 1
  last_le_counter direction := by cases direction <;> decide

namespace Sound

variable {allocator : EndpointAllocator}

theorem last_lt_next (sound : allocator.Sound) (direction : Direction) :
    allocator.last direction < allocator.next direction := by
  have bound := sound.last_le_counter direction
  unfold next
  split <;> omega

/-- One allocation keeps the invariant. -/
theorem advance (sound : allocator.Sound) (direction : Direction) :
    (allocator.advance direction).Sound := by
  have grows := allocator.counter_le_next direction
  constructor
  · rw [counter_advance]
    exact Nat.le_trans sound.counter_pos grows
  · intro other
    rw [counter_advance]
    by_cases same : other = direction
    · subst other
      exact Nat.le_of_eq (last_advance_self allocator direction)
    · rw [last_advance_of_ne allocator same]
      exact Nat.le_trans (sound.last_le_counter other) grows

/-- All allocations of a configuration keep the invariant. -/
theorem after (sound : allocator.Sound) (directions : List Direction) :
    (allocator.after directions).Sound := by
  induction directions generalizing allocator with
  | nil => exact sound
  | cons direction rest ih => exact ih (sound.advance direction)

theorem last_le_last_advance (sound : allocator.Sound) (direction other : Direction) :
    allocator.last other ≤ (allocator.advance direction).last other := by
  by_cases same : other = direction
  · subst other
    rw [last_advance_self]
    exact Nat.le_of_lt (sound.last_lt_next direction)
  · exact Nat.le_of_eq (last_advance_of_ne allocator same).symm

end Sound

theorem counter_le_counter_after (allocator : EndpointAllocator) (directions : List Direction) :
    allocator.counter ≤ (allocator.after directions).counter := by
  induction directions generalizing allocator with
  | nil => exact Nat.le_refl _
  | cons direction rest ih =>
      rw [after_cons]
      have first := allocator.counter_le_next direction
      rw [← counter_advance] at first
      exact Nat.le_trans first (ih (allocator.advance direction))

/-- Every number of a direction is above the last one before, and the counter ends at or above
it. -/
theorem bounds_of_mem_issued {allocator : EndpointAllocator} (sound : allocator.Sound)
    {directions : List Direction} {direction : Direction} {number : Nat}
    (mem : (direction, number) ∈ allocator.issued directions) :
    allocator.last direction < number ∧ number ≤ (allocator.after directions).counter := by
  induction directions generalizing allocator with
  | nil => cases mem
  | cons first rest ih =>
      rw [after_cons]
      rcases List.mem_cons.mp mem with same | later
      · rcases Prod.mk.inj same with ⟨rfl, rfl⟩
        refine ⟨sound.last_lt_next direction, ?_⟩
        rw [← counter_advance]
        exact counter_le_counter_after _ rest
      · have bounds := ih (sound.advance first) later
        exact ⟨Nat.lt_of_le_of_lt (sound.last_le_last_advance first direction) bounds.1, bounds.2⟩

theorem nodup_issued {allocator : EndpointAllocator} (sound : allocator.Sound)
    (directions : List Direction) : (allocator.issued directions).Nodup := by
  induction directions generalizing allocator with
  | nil => exact List.nodup_nil
  | cons direction rest ih =>
      refine List.nodup_cons.mpr ⟨?_, ih (sound.advance direction)⟩
      -- All later numbers of this direction lie above the one that it has just got.
      intro again
      have bounds := bounds_of_mem_issued (sound.advance direction) again
      rw [last_advance_self] at bounds
      exact absurd bounds.1 (Nat.lt_irrefl _)

theorem map_fst_issued (allocator : EndpointAllocator) (directions : List Direction) :
    (allocator.issued directions).map Prod.fst = directions := by
  induction directions generalizing allocator with
  | nil => rfl
  | cons direction rest ih => rw [issued, List.map_cons, ih]

theorem map_address_grant (allocator : EndpointAllocator) (requests : List (String × Direction)) :
    (allocator.grant requests).map Endpoint.address =
      (allocator.issued (requests.map Prod.snd)).map
        fun endpoint => EndpointAddress.ofParts endpoint.2 endpoint.1 := by
  induction requests generalizing allocator with
  | nil => rfl
  | cons request rest ih => simp [grant, issued, allocate, ih]

/-- An endpoint belongs to a request, whose symbol and direction it has. -/
theorem request_of_mem_grant {allocator : EndpointAllocator}
    {requests : List (String × Direction)} {endpoint : Endpoint}
    (mem : endpoint ∈ allocator.grant requests) :
    ∃ number, (endpoint.symbol, endpoint.address.direction) ∈ requests ∧
      (endpoint.address.direction, number) ∈ allocator.issued (requests.map Prod.snd) ∧
      endpoint.address = .ofParts number endpoint.address.direction := by
  induction requests generalizing allocator with
  | nil => cases mem
  | cons request rest ih =>
      rcases List.mem_cons.mp mem with rfl | later
      · exact ⟨allocator.next request.2, List.mem_cons_self, List.mem_cons_self, rfl⟩
      · rcases ih later with ⟨number, requested, given, address⟩
        exact ⟨number, List.mem_cons_of_mem _ requested, List.mem_cons_of_mem _ given, address⟩

theorem testBit_of_mem_grant {allocator : EndpointAllocator}
    {requests : List (String × Direction)} {endpoint : Endpoint}
    (mem : endpoint ∈ allocator.grant requests) :
    endpoint.address.value.testBit 7 = decide (endpoint.address.direction = .incoming) := by
  rcases request_of_mem_grant mem with ⟨number, -, -, address⟩
  rw [address, EndpointAddress.testBit_value_ofParts]
  rfl

/-- As long as the counter stays below 128 every granted address carries a number that is above
zero and at most the final counter. -/
theorem number_of_mem_grant {allocator : EndpointAllocator} (sound : allocator.Sound)
    {requests : List (String × Direction)}
    (fits : (allocator.after (requests.map Prod.snd)).counter < 128) {endpoint : Endpoint}
    (mem : endpoint ∈ allocator.grant requests) :
    1 ≤ endpoint.address.value &&& 0x7F ∧
      endpoint.address.value &&& 0x7F ≤ (allocator.after (requests.map Prod.snd)).counter := by
  rcases request_of_mem_grant mem with ⟨number, -, given, address⟩
  have bounds := bounds_of_mem_issued sound given
  rw [address, EndpointAddress.value_ofParts_and, Nat.mod_eq_of_lt (by omega)]
  exact ⟨Nat.one_le_of_lt bounds.1, bounds.2⟩

/-- As long as the counter stays below 128 the address bytes of a configuration are distinct. -/
theorem nodup_values_grant {allocator : EndpointAllocator} (sound : allocator.Sound)
    {requests : List (String × Direction)}
    (fits : (allocator.after (requests.map Prod.snd)).counter < 128) :
    ((allocator.grant requests).map fun endpoint => endpoint.address.value).Nodup := by
  have same : (allocator.grant requests).map (fun endpoint => endpoint.address.value) =
      (allocator.issued (requests.map Prod.snd)).map
        fun endpoint => (EndpointAddress.ofParts endpoint.2 endpoint.1).value := by
    have addresses := congrArg (List.map EndpointAddress.value)
      (map_address_grant allocator requests)
    simpa [List.map_map, Function.comp_def] using addresses
  rw [same]
  apply List.Nodup.map_on _ (nodup_issued sound _)
  rintro ⟨direction, number⟩ mem ⟨other, otherNumber⟩ otherMem equal
  have bounds := bounds_of_mem_issued sound mem
  have otherBounds := bounds_of_mem_issued sound otherMem
  have directions : direction = other := by
    have bits := congrArg (fun byte => byte.testBit 7) equal
    simp only [EndpointAddress.testBit_value_ofParts] at bits
    cases direction <;> cases other <;> first | rfl | simp at bits
  have numbers : number = otherNumber := by
    have low := congrArg (fun byte => byte &&& 0x7F) equal
    simp only [EndpointAddress.value_ofParts_and] at low
    omega
  rw [directions, numbers]

end EndpointAllocator

end UsbDescriptors
