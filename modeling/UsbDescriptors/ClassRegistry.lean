import UsbDescriptors.OrderedMap
import UsbDescriptors.Text.Writing

/-!
# The class registry

The C++ objects that connect interfaces to the runtime library. Objects are grouped by their
namespace, in the order in which the namespaces first appear, and within a group the objects of
device interfaces stand before those of host classes.
-/

namespace UsbDescriptors

/-- An object of the runtime library. -/
structure ClassEntry where
  /-- The C++ namespace of its class. -/
  scope : String
  /-- The tag of the interface or host section, which names the object. -/
  tag : String
  /-- Whether it belongs to a host class. -/
  host : Bool
  /-- The instance number that is passed to its constructor. -/
  ordinal : Nat
deriving DecidableEq, Repr

namespace ClassEntry

/-- The C++ class of the object within its namespace. -/
def label (entry : ClassEntry) : String :=
  if entry.host then "HostDevice" else "Device"

def declaration (entry : ClassEntry) : String :=
  "extern " ++ entry.scope ++ "::" ++ entry.label ++ " " ++ entry.tag ++ ";"

def definition (entry : ClassEntry) : String :=
  entry.scope ++ "::" ++ entry.label ++ " " ++ entry.tag ++ "(" ++ toString entry.ordinal ++ ", \""
    ++ entry.tag ++ "\");"

end ClassEntry

/-- The objects of a run in the order in which they are added. -/
structure ClassRegistry where
  entries : List ClassEntry
deriving DecidableEq, Repr

namespace ClassRegistry

def empty : ClassRegistry := ⟨[]⟩

/-- Adds the object of a device interface; `ordinal` is its number among the interfaces of its
class in the same configuration. -/
def addDevice (registry : ClassRegistry) (scope tag : String) (ordinal : Nat) : ClassRegistry :=
  ⟨registry.entries ++ [{ scope, tag, host := false, ordinal }]⟩

/-- Adds the object of a host section, numbered among the host objects of its namespace. -/
def addHost (registry : ClassRegistry) (scope tag : String) : ClassRegistry :=
  let earlier := registry.entries.filter fun entry => entry.host && entry.scope = scope
  ⟨registry.entries ++ [{ scope, tag, host := true, ordinal := earlier.length }]⟩

/-- The namespaces in the order in which they first appear. -/
def scopes (registry : ClassRegistry) : List String :=
  (registry.entries.map ClassEntry.scope).eraseDups

def group (registry : ClassRegistry) (scope : String) : List ClassEntry :=
  registry.entries.filter fun entry => entry.scope = scope

def declarationLines (registry : ClassRegistry) (scope : String) : List String :=
  ("// " ++ scope) :: (registry.group scope).map ClassEntry.declaration

/-- The lines of an array of pointers to objects, none for no objects. -/
def arrayLines (label array : String) (entries : List ClassEntry) : List String :=
  if entries.isEmpty then []
  else
    [label ++ "* " ++ array ++ "[]\x7b"] ++ entries.map (fun entry => "\t&" ++ entry.tag ++ ",")
      ++ ["\x7d;"]

/-- The lines that construct the objects of a namespace and list them in arrays. -/
def definitionLines (registry : ClassRegistry) (scope : String) : List String :=
  let entries := registry.group scope
  let devices := entries.filter fun entry => !entry.host
  let hosts := entries.filter fun entry => entry.host
  (devices ++ hosts).map ClassEntry.definition
    ++ ["", "namespace " ++ scope, "\x7b"]
    ++ arrayLines "Device" "devices" devices
    ++ arrayLines "HostDevice" "host_devices" hosts
    ++ ["\x7d // namespace " ++ scope]

/-- The texts of the groups with an empty line between them. -/
def grouped (registry : ClassRegistry) (lines : String → List String) : String :=
  if registry.entries.isEmpty then "// none\n"
  else joined "\n" (registry.scopes.map fun scope => unlines (lines scope))

def declarations (registry : ClassRegistry) : String :=
  registry.grouped registry.declarationLines

def definitions (registry : ClassRegistry) : String :=
  registry.grouped registry.definitionLines

end ClassRegistry

end UsbDescriptors
