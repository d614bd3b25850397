import UsbDescriptors.GlobalDefines

/-!
# Class counts

How many instances of each class the stack has to support, on the device side and on the host
side. A count is stored under the name of the define that carries it.
-/

namespace UsbDescriptors

/-- The side of the stack that a count belongs to. -/
inductive Bus where
  | device
  | host
deriving DecidableEq, Repr

/-- The start of the names of the counts of a side. -/
def Bus.stem : Bus → String
  | .device => "CFG_TUD"
  | .host => "CFG_TUH"

structure ClassCounts where
  device : OrderedMap Nat
  host : OrderedMap Nat
deriving DecidableEq, Repr

namespace ClassCounts

def empty : ClassCounts := ⟨[], []⟩

/-- The name under which the instances of a class are counted. -/
def symbol (bus : Bus) (className : String) : String :=
  bus.stem ++ "_" ++ identifier className

def side (counts : ClassCounts) : Bus → OrderedMap Nat
  | .device => counts.device
  | .host => counts.host

/-- The number of instances of a class, zero for a class that was never counted. -/
def get (counts : ClassCounts) (bus : Bus) (className : String) : Nat :=
  ((counts.side bus).get? (symbol bus className)).getD 0

def add (counts : ClassCounts) (bus : Bus) (className : String) (number : Nat) : ClassCounts :=
  let total := counts.get bus className + number
  match bus with
  | .device => { counts with device := counts.device.insert (symbol bus className) total }
  | .host => { counts with host := counts.host.insert (symbol bus className) total }

/-- Raises the counts of one side to at least those of another. -/
def raise (counts others : OrderedMap Nat) : OrderedMap Nat :=
  others.foldl
    (fun raised (name, number) => raised.insert name (max ((raised.get? name).getD 0) number))
    counts

/-- Raises every count to at least the one in `others`: of several configurations only one is
active at a time, so the busiest one decides. -/
def mergeMax (counts others : ClassCounts) : ClassCounts :=
  { device := raise counts.device others.device
    host := raise counts.host others.host }

/-- The defines that carry the counts of one side. -/
def text (counts : ClassCounts) (bus : Bus) : String :=
  defineText ((counts.side bus).map fun count => (count.1, toString count.2))

end ClassCounts

end UsbDescriptors
