import UsbDescriptors.Vocabulary

/-!
# Events

What a run reports while it goes on. Every event has a level; how much is shown is up to the
reader.
-/

namespace UsbDescriptors

/-- How important an event is, the most important first. -/
inductive Level where
  | error
  | warn
  | info
  | debug
deriving DecidableEq, Repr

namespace Level

/-- The place of a level in the order of importance. -/
def rank : Level → Nat
  | .error => 1
  | .warn => 2
  | .info => 3
  | .debug => 4

def name : Level → String
  | .error => "ERROR"
  | .warn => "WARN"
  | .info => "INFO"
  | .debug => "DEBUG"

end Level

/-- Something that happens during a run. -/
inductive Event where
  | usingTemplate (path : String)
  | reading (path : String)
  | writing (path : String)
  /-- An interface that has to list reports lists none. -/
  | noReports (tag : String)
  /-- Only the first of several devices is served. -/
  | severalDevices (number : Nat) (first : String)
  | device (tag : String) (configurations : Nat)
  | configuration (tag : String) (interfaces endpoints : Nat)
  | endpoint (tag : String) (allocated : Endpoint)
  | statement (tag call : String)
  | hostClass (name : String) (instances : Nat)
deriving DecidableEq, Repr

namespace Event

def level : Event → Level
  | .noReports _ | .severalDevices _ _ => .warn
  | .reading _ | .writing _ | .device _ _ | .configuration _ _ _ => .info
  | .usingTemplate _ | .endpoint _ _ | .statement _ _ | .hostClass _ _ => .debug

def text : Event → String
  | .usingTemplate path => "Using template '" ++ path ++ "'"
  | .reading path => "Reading '" ++ path ++ "'"
  | .writing path => "Writing '" ++ path ++ "'"
  | .noReports tag => "Interface '" ++ tag ++ "' declares no HID reports"
  | .severalDevices number first =>
      toString number ++ " devices defined; descriptor callbacks serve '" ++ first ++ "'"
  | .device tag configurations =>
      "Device '" ++ tag ++ "': " ++ toString configurations ++ " configuration(s)"
  | .configuration tag interfaces endpoints =>
      "Configuration '" ++ tag ++ "': " ++ toString interfaces ++ " interface(s), "
        ++ toString endpoints ++ " endpoint(s)"
  | .endpoint tag allocated =>
      tag ++ ": " ++ allocated.address.direction.name ++ " endpoint " ++ allocated.symbol ++ " = "
        ++ allocated.address.text
  | .statement tag call => tag ++ ": " ++ call
  | .hostClass name instances =>
      "Host class '" ++ name ++ "': " ++ toString instances ++ " instance(s)"

end Event

/-- The events of a run up to a level. -/
def shown (level : Level) (events : List Event) : List Event :=
  events.filter fun event => event.level.rank ≤ level.rank

end UsbDescriptors
