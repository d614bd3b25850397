import UsbDescriptors.Catalog.Builtin
import UsbDescriptors.Catalog.Reader
import UsbDescriptors.Command.Arguments
import UsbDescriptors.Document.Validation
import UsbDescriptors.Files.FileSystem
import UsbDescriptors.OutputTemplates
import UsbDescriptors.Sections

/-!
# The command line

A run of the command reads a catalog, output templates and a document, generates the output files
in memory, and only then writes them. All file operations are those of a `FileSystem`.
-/

namespace UsbDescriptors

def Generated.outputs (generated : Generated) (templates : OutputTemplates) :
    Except Fault (OrderedMap String) :=
  templates.renderAll generated.variables

/-- What a run of the command leaves to be shown. -/
structure Outcome where
  /-- The exit status: 1 for arguments that are not understood, 2 for a run that fails. -/
  status : Nat
  /-- The text for the standard output. -/
  output : String := ""
  /-- The events that are shown. -/
  events : List Event := []
  /-- The text for the standard error output, behind the events. -/
  error : String := ""
deriving DecidableEq, Repr

/-- A fault of the command, with what was being done. -/
inductive CommandFault where
  | plain (fault : Fault)
  | loadingCatalog (path : String) (fault : Fault)
  | readingTemplates (path : String) (fault : Fault)
  | readingInput (path : String) (error : FileError)
  | writingOutput (path : String) (error : FileError)
deriving DecidableEq, Repr

def CommandFault.message : CommandFault → String
  | .plain fault => fault.message
  | .loadingCatalog path fault => "Failed to load catalog '" ++ path ++ "': " ++ fault.message
  | .readingTemplates path fault =>
      "Failed to read templates from '" ++ path ++ "': " ++ fault.message
  | .readingInput path error => "Failed to read '" ++ path ++ "': " ++ error.message
  | .writingOutput path error =>
      "Failed to write output to '" ++ path ++ "': " ++ error.message

namespace Command

variable {m : Type → Type} [Monad m] [FileSystem m]

/-- A step of the command: it may fail, and it reports events. -/
abbrev Step (m : Type → Type) (α : Type) := ExceptT CommandFault (StateT (List Event) m) α

def report (events : List Event) : Step m Unit :=
  modify (· ++ events)

def perform {α : Type} (operation : m α) : Step m α :=
  ExceptT.lift (StateT.lift operation)

/-- Goes on with an outcome unless it is a fault. -/
def settle {α ε : Type} (context : ε → CommandFault) (outcome : Except ε α) : Step m α :=
  match outcome with
  | .ok result => pure result
  | .error error => throw (context error)

def loadCatalog : Option String → Step m Catalog
  | none => pure .builtin
  | some path => do
      let text ← settle (.loadingCatalog path ∘ .file) (← perform (FileSystem.readText path))
      settle (.loadingCatalog path) (Catalog.read text)

/-- Replaces every template of a list for which a directory has a file of the same name. -/
def overrideEach (directory : String) : OutputTemplates → Step m OutputTemplates
  | [] => pure []
  | (name, text) :: rest => do
      let path := joinPath directory name
      let text ←
        if ← perform (FileSystem.isFile path) then do
          report [.usingTemplate path]
          settle (.readingTemplates directory ∘ .file) (← perform (FileSystem.readText path))
        else pure text
      let templates ← overrideEach directory rest
      return (name, text) :: templates

def loadTemplates : Option String → Step m OutputTemplates
  | none => pure .builtin
  | some directory => overrideEach directory .builtin

def writeEach (directory : String) : OrderedMap String → Step m Unit
  | [] => pure ()
  | (name, text) :: rest => do
      let path := joinPath directory name
      report [.writing path]
      settle (.writingOutput directory) (← perform (FileSystem.writeText path text))
      writeEach directory rest

/-- Writes files to a directory, which is created if it does not exist. -/
def writeFiles (directory : String) (files : OrderedMap String) : Step m Unit := do
  settle (.writingOutput directory) (← perform (FileSystem.createDirectories directory))
  writeEach directory files

/-- Generates the output files of a document. -/
def generateFiles (catalog : Catalog) (templates : OutputTemplates) (document : Document) :
    Step m (OrderedMap String) := do
  let (generated, events) := document.generateWithEvents catalog
  report events
  let generated ← settle .plain generated
  settle .plain (generated.outputs templates)

/-- Generates and writes what the arguments ask for. -/
def generate (arguments : Arguments) : Step m Unit := do
  let catalog ← loadCatalog arguments.catalog
  let templates ← loadTemplates arguments.templates
  report [.reading arguments.input]
  let text ←
    settle (.readingInput arguments.input) (← perform (FileSystem.readText arguments.input))
  let document ← settle .plain (Document.read catalog text)
  let files ← generateFiles catalog templates document
  writeFiles arguments.output files

def usage : String :=
  unlines
    ["Usage: usbconfig [-q] [-v] [--catalog <catalog>] [--templates <templates>] [--] <input> "
        ++ "<output>",
      "",
      "Generate TinyUSB descriptors and class definitions from a USB configuration.",
      "",
      "Positional Arguments:",
      "  input             JSON configuration file",
      "  output            directory to write generated files into",
      "",
      "Options:",
      "  -q, --quiet       only print warnings and errors",
      "  -v, --verbose     print debugging messages",
      "  --catalog         template catalog to use instead of the built-in one",
      "  --templates       directory with output templates overriding the built-in ones",
      "  --help, help      display usage information",
      "",
      "Notes:",
      "  Run with --version [--dependencies] to print build information.",
      "",
      "Error codes:",
      "  2 The configuration could not be turned into output files.",
      ""]

def versionLine : String := "usbconfig version 0.1.0"

def argumentErrorText (error : ArgumentError) : String :=
  error.message ++ "\nRun usbconfig --help for more information.\n"

def run (arguments : List String) : m Outcome :=
  match Request.ofArguments arguments with
  | .version => pure { status := 0, output := versionLine ++ "\n" }
  | .help => pure { status := 0, output := usage }
  | .invalid error => pure { status := 1, error := argumentErrorText error }
  | .generate arguments => do
      let (outcome, events) ← (generate arguments).run.run []
      let events := shown arguments.level events
      match outcome with
      | .ok _ => return { status := 0, events }
      | .error fault =>
          return { status := 2, events, error := "** ERROR! " ++ fault.message ++ "\n" }

end Command

end UsbDescriptors
