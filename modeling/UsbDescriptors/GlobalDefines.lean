import UsbDescriptors.Fault
import UsbDescriptors.Text.Writing

/-!
# Global defines

Some properties of an interface configure the whole stack. They become preprocessor defines, on
whose values all interfaces have to agree.
-/

namespace UsbDescriptors

def defineLine (name value : String) : String :=
  "#define " ++ name ++ " " ++ value

/-- The lines that define a list of names. -/
def defineText (defines : List (String × String)) : String :=
  linesOrNone (defines.map fun define => defineLine define.1 define.2)

/-- The value of a global define and the interface that gave it first. -/
structure GlobalDefine where
  value : String
  /-- The tag of the interface. -/
  tag : String
deriving DecidableEq, Repr

/-- The global defines in the order in which they were first recorded. -/
abbrev GlobalDefines := OrderedMap GlobalDefine

namespace GlobalDefines

def empty : GlobalDefines := []

/-- The define that a property of a class sets. -/
def symbol (className property : String) : String :=
  "CFG_TUD_" ++ identifier className ++ "_" ++ identifier property

/-- Records the value that an interface wants for a define. Recording the same value again is
fine, a different one is a conflict with the first interface. -/
def record (defines : GlobalDefines) (name value tag : String) : Except Fault GlobalDefines :=
  match defines.get? name with
  | none => .ok (defines ++ [(name, { value, tag })])
  | some first =>
      if first.value = value then .ok defines
      else .error (.globalConflict name first.tag first.value tag value)

def value? (defines : GlobalDefines) (name : String) : Option String :=
  (defines.get? name).map GlobalDefine.value

def text (defines : GlobalDefines) : String :=
  defineText (defines.map fun define => (define.1, define.2.value))

end GlobalDefines

end UsbDescriptors
