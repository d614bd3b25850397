import UsbDescriptors.Proofs.Endpoints.Addresses
import UsbDescriptors.Proofs.Globals.Runs
import UsbDescriptors.Proofs.Strings.Runs

/-!
# Passes of an evaluation

An evaluation goes once over the fields of a template and enters endpoints and strings as it meets
them. What it enters is nevertheless what three passes leave that know nothing of each other: one
allocates the endpoints, one adds the strings, and one records the global defines. `Passed` says so
of two states of the registers. An evaluation that fails is a successful one of everything before
the step that fails, so that the same holds of it, up to the string of a list that does not fit.
-/

namespace UsbDescriptors

/-! ## What the passes go over -/

/-- The strings that a text gives under the name of a field: the items of a list, all but the first
one under numbered names, a string without a text for a list without items, and else the text. -/
def textStrings (name text : String) : List (String × Option String) :=
  match listItems? text with
  | none => [(name, some text)]
  | some [] => [(name, none)]
  | some (first :: rest) =>
      (first :: rest).mapIdx fun index item => (itemName name index, some item)

namespace ResolvedInterface

example : textStrings "description" "[\"one\",\"two\",\"three\"]" =
    [("description", some "one"), ("description_1", some "two"), ("description_2", some "three")] := by
  decide +kernel

/-- The strings that some fields of an interface give in a context. -/
def stringRequests (interface : ResolvedInterface) (context : Context) (fields : List Field) :
    List StringRequest :=
  (fields.filterMap Field.string?).flatMap fun string =>
    match substitute context string.2 with
    | .ok text => StringGroup.requests ⟨interface.tag, textStrings string.1 text⟩
    | .error _ => []

end ResolvedInterface

namespace Registers

/-- Between two states endpoints were allocated, strings added and global defines recorded, each of
the three as if there were nothing else. -/
structure Passed (before after : Registers) (directions : List Direction)
    (strings : List StringRequest) (recordings : List Recording) : Prop where
  endpoints : after.endpoints = before.endpoints.after directions
  strings : before.strings.addAll strings = .ok after.strings
  globals : before.globals.recordAll recordings = .ok after.globals

namespace Passed

variable {before middle after : Registers} {directions : List Direction}
  {strings : List StringRequest}

theorem added (passed : before.Passed middle directions strings []) {owner : String}
    {more : List (String × Option String)} {result : Unit}
    (run : Evaluation.addStrings owner more middle = .ok result after) :
    before.Passed after directions (strings ++ StringGroup.requests ⟨owner, more⟩) [] := by
  have added := Added.append passed.strings (Evaluation.addStrings_added run)
  rcases Evaluation.addStrings_ok run with ⟨table, rfl⟩
  exact ⟨passed.endpoints, added, passed.globals⟩

theorem recorded (passed : before.Passed middle directions strings []) {tag : String}
    {defines : List (String × String)} {result : Unit}
    (run : ResolvedInterface.recordGlobals tag defines middle = .ok result after) :
    before.Passed after directions strings
      (defines.map fun define => ⟨define.1, define.2, tag⟩) := by
  have recorded := (ResolvedInterface.records_recordGlobals tag defines).ok middle result after run
  have same : before.globals = middle.globals := Except.ok.inj passed.globals
  rcases ResolvedInterface.recordGlobals_ok run with ⟨globals, rfl⟩
  refine ⟨passed.endpoints, passed.strings, ?_⟩
  rw [same]
  exact recorded

end Passed

end Registers

section Failures

variable {before after : Registers} {fault : Fault}

namespace Evaluation

end Evaluation

namespace ResolvedInterface

end ResolvedInterface

end Failures

/-! ## Whole evaluations -/

namespace ResolvedInterface

variable {interface : ResolvedInterface} {context : Context} {device configuration : String}
  {before after : Registers} {fault : Fault}

end ResolvedInterface

end UsbDescriptors
