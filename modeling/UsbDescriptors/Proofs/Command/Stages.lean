import UsbDescriptors.Files.FileTree
import UsbDescriptors.Proofs.Outputs.Rendering

/-!
# The stages of a run of the command

A run reads a catalog, output templates and a document, and makes the output files of them, before
it touches a file. `Arguments.outputs` says what comes of these stages as a function of the tree of
files, and `Reads` that a step of the command does nothing but find this out.
-/

namespace UsbDescriptors

/-- The catalog that is used, by what stands in a tree. -/
def FileTree.catalog (tree : FileTree) : Option String → Except CommandFault Catalog
  | none => .ok .builtin
  | some path => do
      let text ← (tree.readText path).mapError (.loadingCatalog path ∘ .file)
      (Catalog.read text).mapError (.loadingCatalog path)

/-- An output template, replaced by the file of the same name in a directory if there is one. -/
def FileTree.template (tree : FileTree) (directory : String) (template : String × String) :
    Except CommandFault (String × String) :=
  let path := joinPath directory template.1
  if tree.isFile path then do
    let text ← (tree.readText path).mapError (.readingTemplates directory ∘ .file)
    return (template.1, text)
  else .ok template

/-- The output templates that are used, by what stands in a tree. -/
def FileTree.templates (tree : FileTree) : Option String → Except CommandFault OutputTemplates
  | none => .ok .builtin
  | some directory => OutputTemplates.builtin.mapM (tree.template directory)

/-- The output files that are asked for, by what stands in a tree. -/
def Arguments.outputs (arguments : Arguments) (tree : FileTree) :
    Except CommandFault (OrderedMap String) := do
  let catalog ← tree.catalog arguments.catalog
  let templates ← tree.templates arguments.templates
  let text ← (tree.readText arguments.input).mapError (.readingInput arguments.input)
  let document ← (Document.read catalog text).mapError .plain
  (document.outputs catalog templates).mapError .plain

namespace Command

variable {α β ε : Type} {tree : FileTree}

/-- What a step does on a tree of files, with the events before it: its outcome, the events behind
it and the tree that it leaves. -/
def onTree (step : Step (StateM FileTree) α) (events : List Event) (tree : FileTree) :
    (Except CommandFault α × List Event) × FileTree :=
  (step.run.run events).run tree

/-- Two steps behave as the first one if this fails, and otherwise go on where it ended. -/
theorem onTree_bind (step : Step (StateM FileTree) α) (next : α → Step (StateM FileTree) β)
    (events : List Event) (tree : FileTree) :
    onTree (step >>= next) events tree =
      match onTree step events tree with
      | ((.ok result, later), after) => onTree (next result) later after
      | ((.error fault, later), after) => ((.error fault, later), after) := by
  simp only [onTree, ExceptT.run_bind, StateT.run_bind]
  rcases (step.run.run events).run tree with ⟨⟨_ | _, _⟩, _⟩ <;> rfl

theorem onTree_perform (operation : StateM FileTree α) (events : List Event) (tree : FileTree) :
    onTree (perform operation) events tree =
      ((.ok (operation.run tree).1, events), (operation.run tree).2) := rfl

/-- A step that does not touch the tree, and whose outcome the tree decides. -/
def Reads (step : Step (StateM FileTree) α) (tree : FileTree)
    (outcome : Except CommandFault α) : Prop :=
  ∀ events, ∃ later, onTree step events tree = ((outcome, later), tree)

theorem reads_pure (result : α) : Reads (pure result) tree (.ok result) :=
  fun events => ⟨events, rfl⟩

theorem reads_settle (context : ε → CommandFault) (outcome : Except ε α) :
    Reads (settle context outcome) tree (outcome.mapError context) := by
  cases outcome with
  | ok result => exact fun events => ⟨events, rfl⟩
  | error error => exact fun events => ⟨events, rfl⟩

theorem Reads.bind {step : Step (StateM FileTree) α} {next : α → Step (StateM FileTree) β}
    {outcome : Except CommandFault α} {rest : α → Except CommandFault β}
    (first : Reads step tree outcome) (later : ∀ result, Reads (next result) tree (rest result)) :
    Reads (step >>= next) tree (outcome >>= rest) := by
  intro events
  rcases first events with ⟨middle, ran⟩
  rw [onTree_bind, ran]
  cases outcome with
  | ok result => exact later result middle
  | error fault => exact ⟨middle, rfl⟩

/-- An operation that leaves the tree as it is, with a step that goes on with its result. -/
theorem Reads.perform {operation : StateM FileTree α} {result : α}
    {next : α → Step (StateM FileTree) β} {outcome : Except CommandFault β}
    (ran : operation.run tree = (result, tree)) (later : Reads (next result) tree outcome) :
    Reads (Command.perform operation >>= next) tree outcome := by
  intro events
  rw [onTree_bind, onTree_perform, ran]
  exact later events

theorem Reads.report {events : List Event} {next : Unit → Step (StateM FileTree) β}
    {outcome : Except CommandFault β} (later : Reads (next ()) tree outcome) :
    Reads (Command.report events >>= next) tree outcome := by
  intro before
  exact later (before ++ events)

/-- A file is read, and a step goes on with its text. -/
theorem Reads.readText {context : FileError → CommandFault} {path : String}
    {next : String → Step (StateM FileTree) β} {rest : String → Except CommandFault β}
    (later : ∀ text, Reads (next text) tree (rest text)) :
    Reads (Command.perform (FileSystem.readText path) >>= fun found => settle context found >>= next)
      tree ((tree.readText path).mapError context >>= rest) :=
  .perform rfl ((reads_settle context (tree.readText path)).bind later)

theorem reads_loadCatalog (path : Option String) :
    Reads (loadCatalog path) tree (tree.catalog path) := by
  cases path with
  | none => exact reads_pure Catalog.builtin
  | some path => exact .readText fun text => reads_settle _ (Catalog.read text)

theorem reads_overrideEach (directory : String) (templates : OutputTemplates) :
    Reads (overrideEach directory templates) tree (templates.mapM (tree.template directory)) := by
  induction templates with
  | nil => exact reads_pure []
  | cons template rest ih =>
      rcases template with ⟨name, text⟩
      rw [overrideEach, List.mapM_cons]
      refine .perform rfl ?_
      unfold FileTree.template
      split
      next present =>
        simp only [if_pos present, bind_assoc, pure_bind]
        exact .report (.readText fun text => ih.bind fun templates => reads_pure _)
      next absent =>
        simp only [if_neg absent]
        exact ih.bind fun templates => reads_pure _

theorem reads_loadTemplates (directory : Option String) :
    Reads (loadTemplates directory) tree (tree.templates directory) := by
  cases directory with
  | none => exact reads_pure OutputTemplates.builtin
  | some directory => exact reads_overrideEach directory OutputTemplates.builtin

/-- Everything that a run does before it touches a file. -/
def prepare {m : Type → Type} [Monad m] [FileSystem m] (arguments : Arguments) :
    Step m (OrderedMap String) := do
  let catalog ← loadCatalog arguments.catalog
  let templates ← loadTemplates arguments.templates
  report [.reading arguments.input]
  let text ←
    settle (.readingInput arguments.input) (← perform (FileSystem.readText arguments.input))
  let document ← settle .plain (Document.read catalog text)
  generateFiles catalog templates document

theorem generate_eq {m : Type → Type} [Monad m] [LawfulMonad m] [FileSystem m]
    (arguments : Arguments) :
    (generate arguments : Step m Unit) = prepare arguments >>= writeFiles arguments.output := by
  simp only [generate, prepare, bind_assoc]

theorem reads_prepare (arguments : Arguments) (tree : FileTree) :
    Reads (prepare arguments) tree (arguments.outputs tree) := by
  refine (reads_loadCatalog arguments.catalog).bind fun catalog => ?_
  refine (reads_loadTemplates arguments.templates).bind fun templates => ?_
  refine .report (.readText fun text => ?_)
  refine (reads_settle .plain (Document.read catalog text)).bind fun document => ?_
  rw [generateFiles_eq]
  exact .report (reads_settle .plain (document.outputs catalog templates))

end Command

end UsbDescriptors
