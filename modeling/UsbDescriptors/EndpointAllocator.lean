import UsbDescriptors.Fault
import UsbDescriptors.Vocabulary

/-!
# Endpoint allocation

Every configuration numbers its endpoints from one. A number carries at most one endpoint of each
direction, so a new number is taken only when the current one already carries an endpoint of the
wanted direction.
-/

namespace UsbDescriptors

/-- The state of the allocation within one configuration. -/
structure EndpointAllocator where
  /-- The current number. -/
  counter : Nat
  /-- The number of the last incoming endpoint, zero before the first. -/
  lastIncoming : Nat
  /-- The number of the last outgoing endpoint, zero before the first. -/
  lastOutgoing : Nat
deriving DecidableEq, Repr

namespace EndpointAllocator

/-- The state at the start of a configuration. -/
def fresh : EndpointAllocator := ⟨1, 0, 0⟩

def last (allocator : EndpointAllocator) : Direction → Nat
  | .incoming => allocator.lastIncoming
  | .outgoing => allocator.lastOutgoing

/-- The number of the next endpoint of a direction. -/
def next (allocator : EndpointAllocator) (direction : Direction) : Nat :=
  if allocator.counter = allocator.last direction then allocator.counter + 1
  else allocator.counter

/-- The state after the next endpoint of a direction. -/
def advance (allocator : EndpointAllocator) (direction : Direction) : EndpointAllocator :=
  let number := allocator.next direction
  match direction with
  | .incoming => { allocator with counter := number, lastIncoming := number }
  | .outgoing => { allocator with counter := number, lastOutgoing := number }

/-- Allocates an endpoint: its address and the state behind it. -/
def allocate (allocator : EndpointAllocator) (direction : Direction) :
    EndpointAddress × EndpointAllocator :=
  (EndpointAddress.ofParts (allocator.next direction) direction, allocator.advance direction)

/-- The endpoint numbers in use, number zero of the control endpoint included. -/
def slots (allocator : EndpointAllocator) : Nat :=
  allocator.counter + 1

/-- The most endpoint numbers that a configuration may use. -/
def maxSlots : Nat := 16

/-- Checks that a configuration fits in the endpoints of a device. -/
def finish (allocator : EndpointAllocator) (configuration : String) : Except Fault Unit :=
  if maxSlots < allocator.slots then
    .error (.tooManyEndpoints configuration allocator.slots maxSlots)
  else .ok ()

end EndpointAllocator

end UsbDescriptors
