import UsbDescriptors.EndpointAllocator
import UsbDescriptors.Event
import UsbDescriptors.GlobalDefines
import UsbDescriptors.Interface.Resolved
import UsbDescriptors.StringTable

/-!
# Evaluated interfaces

The descriptor of an interface is a call of a macro. An argument of the call is settled in two
steps: what it is follows from the interface alone, and then the endpoints and strings that it
asks for are entered in the registers of the run. Entries made before a fault stay.
-/

namespace UsbDescriptors

/-- What the arguments of descriptor macros are entered in. -/
structure Registers where
  strings : StringTable := .empty
  endpoints : EndpointAllocator := .fresh
  globals : GlobalDefines := .empty
  /-- The events so far. -/
  events : List Event := []
deriving DecidableEq, Repr

/-- An argument of a descriptor macro before it is entered in the registers. -/
inductive Argument where
  /-- A text that needs no entry. -/
  | text (value : String)
  /-- A new endpoint with its symbol. -/
  | endpoint (direction : Direction) (symbol : String)
  /-- One string or several, each with the property that it gives. The first one is the
  argument. -/
  | strings (first : String × Option String) (rest : List (String × Option String))
deriving DecidableEq, Repr

/-- The descriptor of an interface and what belongs to it. -/
structure EvaluatedInterface where
  tag : String
  className : String
  /-- The C++ namespace of the runtime class. -/
  scope : String
  /-- The macro that is called. -/
  descriptor : String
  arguments : List String
  /-- The length of the descriptor in bytes. -/
  length : String
  interfaceNumbers : List String
  endpoints : List Endpoint
deriving DecidableEq, Repr

def EvaluatedInterface.statement (interface : EvaluatedInterface) : String :=
  interface.descriptor ++ "(" ++ joined ", " interface.arguments ++ ")"

namespace ResolvedInterface

/-- The symbol of the endpoint of a field. -/
def endpointSymbol (tag field : String) : String :=
  "EPNUM_" ++ identifier tag ++ "_" ++ identifier field

/-- The strings that the items of a list give, the first under the name of the field and the
others under numbered names. -/
def numberedStrings (field : String) (items : List String) : List (String × Option String) :=
  items.zipIdx.map fun item =>
    (if item.2 = 0 then field else field ++ "_" ++ toString item.2, some item.1)

/-- The strings that a text gives: the items of a list, or else the text itself. -/
def stringArgument (field text : String) : Argument :=
  match listItems? text with
  | none => .strings (field, some text) []
  | some items =>
      match numberedStrings field items with
      | [] => .strings (field, none) []
      | first :: rest => .strings first rest

/-- The argument that a field makes of an interface. -/
def argument (interface : ResolvedInterface) (context : Context) (field : Field) :
    Except Fault Argument :=
  match field.source with
  | .literal value => .ok (.text value.plainText)
  | .endpoint =>
      match Direction.ofFieldName? field.name with
      | none => .error (.noDirection interface.templateName field.name)
      | some direction => .ok (.endpoint direction (endpointSymbol interface.tag field.name))
  | .string expression => (substitute context expression).map (stringArgument field.name)
  | .text expression => (substitute context expression).map .text

end ResolvedInterface

/-- A step of an evaluation. The registers keep what was entered before a fault. -/
abbrev Evaluation (α : Type) := EStateM Fault Registers α

namespace Evaluation

/-- Goes on with the outcome of something that needs no registers. -/
def lift {α : Type} (outcome : Except Fault α) : Evaluation α := fun registers =>
  match outcome with
  | .ok result => .ok result registers
  | .error fault => .error fault registers

def addString (owner : String) (string : String × Option String) : Evaluation String :=
  fun registers =>
    match registers.strings.add owner string.1 string.2 with
    | .ok (id, strings) => .ok id { registers with strings }
    | .error fault => .error fault registers

def addStrings (owner : String) : List (String × Option String) → Evaluation Unit
  | [] => pure ()
  | string :: rest => do
      let _ ← addString owner string
      addStrings owner rest

def allocate (tag : String) (direction : Direction) (symbol : String) : Evaluation Endpoint :=
  fun registers =>
    let (address, endpoints) := registers.endpoints.allocate direction
    let endpoint : Endpoint := { symbol, address }
    .ok endpoint
      { registers with endpoints, events := registers.events ++ [.endpoint tag endpoint] }

def recordGlobal (name value tag : String) : Evaluation Unit := fun registers =>
  match registers.globals.record name value tag with
  | .ok globals => .ok () { registers with globals }
  | .error fault => .error fault registers

/-- Enters an argument: its text in the call, and its endpoint if it has one. -/
def enter (tag : String) : Argument → Evaluation (String × Option Endpoint)
  | .text value => pure (value, none)
  | .endpoint direction symbol => do
      let endpoint ← allocate tag direction symbol
      return (symbol, some endpoint)
  | .strings first rest => do
      let id ← addString tag first
      addStrings tag rest
      return (id, none)

/-- Enters the arguments that the fields of a template make of an interface, one by one. -/
def enterFields (interface : ResolvedInterface) (context : Context) :
    List Field → Evaluation (List (String × Option Endpoint))
  | [] => pure []
  | field :: rest => do
      let argument ← lift (interface.argument context field)
      let entered ← enter interface.tag argument
      let more ← enterFields interface context rest
      return entered :: more

end Evaluation

namespace ResolvedInterface

/-- The global defines that an interface wants, in the order of its properties. -/
def globalDefines (interface : ResolvedInterface) : List (String × String) :=
  interface.template.properties.filterMap fun property =>
    if property.2.isGlobal then
      some (GlobalDefines.symbol interface.template.className property.1,
        ((interface.properties.get? property.1).getD .null).plainText)
    else none

/-- Records global defines for an interface, one by one. -/
def recordGlobals (tag : String) : List (String × String) → Evaluation Unit
  | [] => pure ()
  | (name, value) :: rest => do
      Evaluation.recordGlobal name value tag
      recordGlobals tag rest

/-- Evaluates an interface of a configuration of a device: first its arguments in the order of the
fields, then its global defines, and at last the name and the length of its descriptor. -/
def evaluate (interface : ResolvedInterface) (device configuration : String) :
    Evaluation EvaluatedInterface := do
  let template := interface.template
  let context := interface.context device configuration
  let entered ← Evaluation.enterFields interface context template.fields
  recordGlobals interface.tag interface.globalDefines
  let descriptor ← Evaluation.lift (substitute context template.descriptor)
  let length ← Evaluation.lift (substitute context template.length)
  return {
    tag := interface.tag
    className := template.className
    scope := template.scopeName
    descriptor
    arguments := entered.map Prod.fst
    length
    interfaceNumbers := interface.interfaceNumbers
    endpoints := entered.filterMap Prod.snd }

end ResolvedInterface

end UsbDescriptors
