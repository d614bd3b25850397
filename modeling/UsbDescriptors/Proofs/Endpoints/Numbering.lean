import UsbDescriptors.Proofs.Endpoints.Allocation

/-!
# The numbers of a fresh allocator

Before they are cut to seven bits the numbers of a configuration go up in steps of at most one, and
the counter always stands at the last of them. So no number between one and the highest is left
out. As every endpoint of a direction takes a number above the last one of its direction, the
highest number is at least the number of endpoints of either direction, and as every endpoint takes
at most one new number, it is at most the number of all endpoints.
-/

namespace UsbDescriptors

namespace EndpointAllocator

/-- Allocates endpoints of a list of directions one after the other. -/
def allocateEach : List Direction → StateM EndpointAllocator (List EndpointAddress)
  | [] => pure []
  | direction :: rest => do
      let address ← modifyGet fun allocator => allocator.allocate direction
      let addresses ← allocateEach rest
      return address :: addresses

/-- The highest of some numbers that were issued, zero if there are none. -/
def highest (issued : List (Direction × Nat)) : Nat :=
  (issued.map Prod.snd).max?.getD 0

/-- What holds of the numbers that are issued for a list of directions, and of the state behind
them. -/
structure Numbering (directions : List Direction) (issued : List (Direction × Nat))
    (final : EndpointAllocator) : Prop where
  directions_eq : issued.map Prod.fst = directions
  nondecreasing : (issued.map Prod.snd).Pairwise (· ≤ ·)
  /-- Every number carries at most one endpoint of each direction. -/
  once (endpoint : Direction × Nat) : issued.count endpoint ≤ 1
  pos : ∀ endpoint ∈ issued, 1 ≤ endpoint.2
  gapless (number : Nat) (pos : 1 ≤ number) (bound : number ≤ highest issued) :
    ∃ direction, (direction, number) ∈ issued
  le_highest : max (directions.count .incoming) (directions.count .outgoing) ≤ highest issued
  highest_le : highest issued ≤ directions.count .incoming + directions.count .outgoing
  slots_eq (started : directions ≠ []) : final.slots = highest issued + 1
  finishes (configuration : String) :
    final.finish configuration = .ok () ↔ ∀ endpoint ∈ issued, endpoint.2 ≤ 15

theorem run_allocateEach (allocator : EndpointAllocator) (directions : List Direction) :
    (allocateEach directions).run allocator =
      ((allocator.issued directions).map fun endpoint =>
        EndpointAddress.ofParts endpoint.2 endpoint.1, allocator.after directions) := by
  induction directions generalizing allocator with
  | nil => rfl
  | cons direction rest ih =>
      have step : (allocateEach (direction :: rest)).run allocator =
          (EndpointAddress.ofParts (allocator.next direction) direction ::
              ((allocateEach rest).run (allocator.advance direction)).1,
            ((allocateEach rest).run (allocator.advance direction)).2) := rfl
      rw [step, ih]
      rfl

example : ((allocateEach [.incoming, .incoming, .outgoing, .outgoing]).run fresh).1.map
    EndpointAddress.value = [0x81, 0x82, 0x02, 0x03] := by decide

theorem next_le_counter_succ (allocator : EndpointAllocator) (direction : Direction) :
    allocator.next direction ≤ allocator.counter + 1 := by
  unfold next
  split <;> omega

theorem counter_le_of_mem_issued {allocator : EndpointAllocator} {directions : List Direction}
    {endpoint : Direction × Nat} (mem : endpoint ∈ allocator.issued directions) :
    allocator.counter ≤ endpoint.2 := by
  induction directions generalizing allocator with
  | nil => cases mem
  | cons direction rest ih =>
      have grows := allocator.counter_le_next direction
      rcases List.mem_cons.mp mem with rfl | later
      · exact grows
      · have bound := ih later
        rw [counter_advance] at bound
        omega

theorem pairwise_issued (allocator : EndpointAllocator) (directions : List Direction) :
    ((allocator.issued directions).map Prod.snd).Pairwise (· ≤ ·) := by
  induction directions generalizing allocator with
  | nil => exact .nil
  | cons direction rest ih =>
      refine .cons ?_ (ih (allocator.advance direction))
      intro number mem
      rcases List.mem_map.mp mem with ⟨endpoint, later, rfl⟩
      have bound := counter_le_of_mem_issued later
      rwa [counter_advance] at bound

/-- No number between the counter before and the counter behind is left out. -/
theorem exists_issued {allocator : EndpointAllocator} {directions : List Direction} {number : Nat}
    (new : allocator.counter < number) (bound : number ≤ (allocator.after directions).counter) :
    ∃ direction, (direction, number) ∈ allocator.issued directions := by
  induction directions generalizing allocator with
  | nil => exact absurd new (Nat.not_lt.mpr bound)
  | cons direction rest ih =>
      by_cases own : number ≤ allocator.next direction
      · have step := allocator.next_le_counter_succ direction
        have same : number = allocator.next direction := by omega
        exact ⟨direction, same ▸ List.mem_cons_self⟩
      · have above : (allocator.advance direction).counter < number := by
          rw [counter_advance]
          omega
        rcases ih above bound with ⟨other, mem⟩
        exact ⟨other, List.mem_cons_of_mem _ mem⟩

/-- Every endpoint of a direction moves the last number of the direction. -/
theorem last_add_count_le {allocator : EndpointAllocator} (sound : allocator.Sound)
    (directions : List Direction) (direction : Direction) :
    allocator.last direction + directions.count direction ≤
      (allocator.after directions).last direction := by
  induction directions generalizing allocator with
  | nil => exact Nat.le_refl _
  | cons first rest ih =>
      have later := ih (sound.advance first)
      rw [after_cons]
      by_cases same : first = direction
      · subst same
        have step := sound.last_lt_next first
        rw [last_advance_self] at later
        rw [List.count_cons_self]
        omega
      · rw [last_advance_of_ne allocator (Ne.symm same)] at later
        rwa [List.count_cons_of_ne same]

theorem counter_after_le (allocator : EndpointAllocator) (directions : List Direction) :
    (allocator.after directions).counter ≤ allocator.counter + directions.length := by
  induction directions generalizing allocator with
  | nil => exact Nat.le_refl _
  | cons direction rest ih =>
      have step := allocator.next_le_counter_succ direction
      have later := ih (allocator.advance direction)
      rw [counter_advance] at later
      rw [after_cons, List.length_cons]
      omega

theorem count_add_count (directions : List Direction) :
    directions.count .incoming + directions.count .outgoing = directions.length := by
  induction directions with
  | nil => rfl
  | cons direction rest ih => cases direction <;> simp <;> omega

section Fresh

variable {directions : List Direction}

@[simp]
theorem next_fresh (direction : Direction) : fresh.next direction = 1 := by
  cases direction <;> rfl

theorem exists_issued_fresh (started : directions ≠ []) {number : Nat} (pos : 1 ≤ number)
    (bound : number ≤ (fresh.after directions).counter) :
    ∃ direction, (direction, number) ∈ fresh.issued directions := by
  rcases Nat.eq_or_lt_of_le pos with rfl | above
  · rcases List.exists_cons_of_ne_nil started with ⟨direction, rest, rfl⟩
    exact ⟨direction, by simp [issued]⟩
  · exact exists_issued above bound

/-- Once something was allocated the counter stands at the highest number. -/
theorem highest_issued (started : directions ≠ []) :
    highest (fresh.issued directions) = (fresh.after directions).counter := by
  have counter := (sound_fresh.after directions).counter_pos
  rcases exists_issued_fresh started counter (Nat.le_refl _) with ⟨direction, mem⟩
  have top : ((fresh.issued directions).map Prod.snd).max? =
      some (fresh.after directions).counter := by
    apply List.max?_eq_some_iff.mpr
    refine ⟨List.mem_map_of_mem mem, fun number numberMem => ?_⟩
    rcases List.mem_map.mp numberMem with ⟨endpoint, issued, rfl⟩
    exact (bounds_of_mem_issued sound_fresh issued).2
  simp [highest, top]

theorem exists_issued_of_le_highest {number : Nat} (pos : 1 ≤ number)
    (bound : number ≤ highest (fresh.issued directions)) :
    ∃ direction, (direction, number) ∈ fresh.issued directions := by
  rcases eq_or_ne directions [] with rfl | started
  · exact absurd pos (Nat.not_le.mpr (Nat.lt_succ_of_le bound))
  · exact exists_issued_fresh started pos (highest_issued started ▸ bound)

theorem count_le_highest (direction : Direction) :
    directions.count direction ≤ highest (fresh.issued directions) := by
  rcases eq_or_ne directions [] with rfl | started
  · exact Nat.le_refl 0
  · have last := last_add_count_le sound_fresh directions direction
    have bound := (sound_fresh.after directions).last_le_counter direction
    rw [highest_issued started]
    omega

/-- The first endpoint takes the number at which the counter starts already. -/
theorem highest_le_length : highest (fresh.issued directions) ≤ directions.length := by
  rcases eq_or_ne directions [] with rfl | started
  · exact Nat.le_refl 0
  · rw [highest_issued started]
    rcases List.exists_cons_of_ne_nil started with ⟨direction, rest, rfl⟩
    have later := counter_after_le (fresh.advance direction) rest
    rw [counter_advance, next_fresh] at later
    rw [after_cons, List.length_cons]
    omega

theorem counter_after_le_iff {limit : Nat} (pos : 1 ≤ limit) :
    (fresh.after directions).counter ≤ limit ↔
      ∀ endpoint ∈ fresh.issued directions, endpoint.2 ≤ limit := by
  constructor
  · intro fits endpoint mem
    exact Nat.le_trans (bounds_of_mem_issued sound_fresh mem).2 fits
  · intro fits
    rcases eq_or_ne directions [] with rfl | started
    · exact pos
    · have counter := (sound_fresh.after directions).counter_pos
      rcases exists_issued_fresh started counter (Nat.le_refl _) with ⟨direction, mem⟩
      exact fits _ mem

end Fresh

/-- A fresh allocator that is asked for endpoints of any directions issues numbers without going
back and without gaps, each at most once for a direction. The highest of them lies between the
larger number of endpoints of one direction and the number of all endpoints, one slot more is in
use, and the configuration fits a device if and only if no number is above 15. The addresses carry
these numbers cut to seven bits. -/
theorem numbering_allocateEach (directions : List Direction) :
    (allocateEach directions).run fresh =
        ((fresh.issued directions).map fun endpoint =>
          EndpointAddress.ofParts endpoint.2 endpoint.1, fresh.after directions) ∧
      Numbering directions (fresh.issued directions) (fresh.after directions) := by
  refine ⟨run_allocateEach fresh directions, ?_⟩
  constructor
  · exact map_fst_issued fresh directions
  · exact pairwise_issued fresh directions
  · exact List.nodup_iff_count_le_one.mp (nodup_issued sound_fresh directions)
  · intro endpoint mem
    exact Nat.one_le_of_lt (bounds_of_mem_issued sound_fresh mem).1
  · intro number pos bound
    exact exists_issued_of_le_highest pos bound
  · exact Nat.max_le.mpr ⟨count_le_highest .incoming, count_le_highest .outgoing⟩
  · rw [count_add_count]
    exact highest_le_length
  · intro started
    rw [highest_issued started, slots]
  · intro configuration
    rw [finish_eq_ok_iff, ← counter_after_le_iff (by decide)]
    exact Nat.succ_le_succ_iff

end EndpointAllocator

end UsbDescriptors
