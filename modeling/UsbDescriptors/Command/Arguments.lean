import UsbDescriptors.Event

/-!
# Arguments of the command line

Options stand anywhere in front of `--`, and each is spelled in full: neither a value behind an
equals sign nor several short options in one argument are known.
-/

namespace UsbDescriptors

/-- What the command line asks for. -/
structure Arguments where
  quiet : Bool := false
  verbose : Bool := false
  /-- The catalog to use instead of the built-in one. -/
  catalog : Option String := none
  /-- The directory of output templates. -/
  templates : Option String := none
  input : String
  output : String
deriving DecidableEq, Repr

/-- The level up to which events are shown. -/
def Arguments.level (arguments : Arguments) : Level :=
  if arguments.verbose then .debug
  else if arguments.quiet then .warn
  else .info

/-- Why arguments cannot be understood. -/
inductive ArgumentError where
  | unrecognized (argument : String)
  | noValue (option : String)
  | duplicate (option value : String)
  | afterHelp
  | missing (names : List String)
deriving DecidableEq, Repr

def ArgumentError.message : ArgumentError → String
  | .unrecognized argument => "Unrecognized argument: " ++ argument ++ "\n"
  | .noValue option => "No value provided for option '" ++ option ++ "'.\n"
  | .duplicate option value =>
      "Error parsing option '" ++ option ++ "' with value '" ++ value
        ++ "': duplicate values provided\n"
  | .afterHelp => "Trailing arguments are not allowed after \x60help\x60."
  | .missing names =>
      "Required positional arguments not provided:"
        ++ String.join (names.map fun name => "\n    " ++ name) ++ "\n"

/-- What a command line amounts to. -/
inductive Request where
  | version
  | help
  | generate (arguments : Arguments)
  | invalid (error : ArgumentError)
deriving DecidableEq, Repr

namespace Arguments

structure Draft where
  quiet : Bool := false
  verbose : Bool := false
  catalog : Option String := none
  templates : Option String := none
  /-- The positional arguments so far. -/
  positional : List String := []
  /-- Whether help was asked for. -/
  help : Bool := false
  /-- Whether no more options are recognized. -/
  optionsEnded : Bool := false

def positionalNames : List String := ["input", "output"]

def valueOption (option : String) (present : Option String) (value : String) :
    Except ArgumentError (Option String) :=
  match present with
  | some _ => .error (.duplicate option value)
  | none => .ok (some value)

def addPositional (draft : Draft) (argument : String) : Except ArgumentError Draft :=
  if draft.positional.length < positionalNames.length then
    .ok { draft with positional := draft.positional ++ [argument] }
  else .error (.unrecognized argument)

/-- Reads the arguments one by one. -/
def scan : Draft → List String → Except ArgumentError Draft
  | draft, [] => .ok draft
  | draft, argument :: rest =>
      if draft.optionsEnded then do
        scan (← addPositional draft argument) rest
      else if argument = "--help" ∨ argument = "help" then
        scan { draft with help := true } rest
      else if argument.toList.head? ≠ some '-' then do
        scan (← addPositional draft argument) rest
      else if argument = "--" then
        scan { draft with optionsEnded := true } rest
      else if draft.help then .error .afterHelp
      else if argument = "-q" ∨ argument = "--quiet" then
        scan { draft with quiet := true } rest
      else if argument = "-v" ∨ argument = "--verbose" then
        scan { draft with verbose := true } rest
      else if argument = "--catalog" ∨ argument = "--templates" then
        match rest with
        | [] => .error (.noValue argument)
        | value :: rest =>
            if argument = "--catalog" then do
              let catalog ← valueOption argument draft.catalog value
              scan { draft with catalog } rest
            else do
              let templates ← valueOption argument draft.templates value
              scan { draft with templates } rest
      else .error (.unrecognized argument)

/-- The request that the arguments read amount to. -/
def finish (draft : Draft) : Request :=
  if draft.help then .help
  else
    match draft.positional with
    | [input, output] =>
        .generate {
          input, output
          quiet := draft.quiet
          verbose := draft.verbose
          catalog := draft.catalog
          templates := draft.templates }
    | given => .invalid (.missing (positionalNames.drop given.length))

end Arguments

/-- The request of a command line. The version may be asked for anywhere. -/
def Request.ofArguments (arguments : List String) : Request :=
  if arguments.contains "--version" then .version
  else
    match Arguments.scan {} arguments with
    | .error error => .invalid error
    | .ok draft => Arguments.finish draft

end UsbDescriptors
