import UsbDescriptors.Proofs.Command.Stages
import UsbDescriptors.Proofs.Files.Writing

/-!
# What a run of the command leaves behind

A run that fails before it comes to write leaves every file as it was. Writing is not undone: where
it stops, the files in front of the one that cannot be written are already there. A run that
succeeds writes the output files and touches nothing else.
-/

namespace UsbDescriptors

theorem OutputTemplates.isFileName_builtin : ∀ name ∈ builtin.keys, IsFileName name := by
  decide +kernel

theorem isFileName_of_keys {files : OrderedMap String}
    (keys : files.keys = OutputTemplates.builtin.keys) : ∀ file ∈ files, IsFileName file.1 :=
  fun file mem => OutputTemplates.isFileName_builtin file.1 (keys ▸ List.mem_map_of_mem mem)

theorem Arguments.keys_of_outputs {arguments : Arguments} {tree : FileTree}
    {files : OrderedMap String} (made : arguments.outputs tree = .ok files) :
    files.keys = OutputTemplates.builtin.keys := by
  simp only [outputs, outcome_bind_iff, outcome_mapError_iff] at made
  rcases made with ⟨catalog, -, templates, -, text, -, document, -, rendered⟩
  exact Document.keys_of_outputs rendered

namespace Command

open FileTree (Wrote WritingStops Writable)

variable {α : Type} {directory : String} {files : OrderedMap String} {tree after : FileTree}
  {events later : List Event} {outcome : Except CommandFault Unit}

/-- An operation on files that may fail, with a step that goes on where it ended. -/
theorem onTree_settled (operation : StateM FileTree (Except FileError Unit))
    (context : FileError → CommandFault) (next : Unit → Step (StateM FileTree) α)
    (events : List Event) (tree : FileTree) :
    onTree (perform operation >>= fun found => settle context found >>= next) events tree =
      match operation.run tree with
      | (.ok _, after) => onTree (next ()) events after
      | (.error error, after) => ((.error (context error), events), after) := by
  rw [onTree_bind, onTree_perform]
  rcases operation.run tree with ⟨_ | _, after⟩ <;> rfl

theorem onTree_writeEach_cons (name text : String) (rest : OrderedMap String) :
    onTree (writeEach directory ((name, text) :: rest)) events tree =
      let reported := events ++ [.writing (joinPath directory name)]
      match tree.writeText (joinPath directory name) text with
      | .ok written => onTree (writeEach directory rest) reported written
      | .error error => ((.error (.writingOutput directory error), reported), tree) := by
  rw [writeEach]
  have step := onTree_settled (FileSystem.writeText (joinPath directory name) text)
    (.writingOutput directory) (fun _ => writeEach directory rest)
    (events ++ [.writing (joinPath directory name)]) tree
  refine Eq.trans ?_ (step.trans ?_)
  · rfl
  · simp only [FileSystem.writeText, FileTree.update, StateT.run]
    cases tree.writeText (joinPath directory name) text <;> rfl

theorem onTree_writeFiles :
    onTree (writeFiles directory files) events tree =
      match (FileTree.createDirectories directory).run tree with
      | (.ok _, grown) => onTree (writeEach directory files) events grown
      | (.error error, grown) => ((.error (.writingOutput directory error), events), grown) :=
  onTree_settled (FileTree.createDirectories directory) (.writingOutput directory)
    (fun _ => writeEach directory files) events tree

/-- Files are written up to the first that cannot be written. -/
theorem exists_written (names : ∀ file ∈ files, IsFileName file.1) (distinct : files.keys.Nodup)
    (ran : onTree (writeEach directory files) events tree = ((outcome, later), after)) :
    ∃ written missed, files = written ++ missed ∧ tree.Wrote after directory written ∧
      match missed with
      | [] => outcome = .ok ()
      | (name, text) :: _ => ∃ error,
          after.writeText (joinPath directory name) text = .error error ∧
            outcome = .error (.writingOutput directory error) := by
  -- the tree before is generalised: behind a file that was written the rest starts on another one
  induction files generalizing events tree with
  | nil =>
      cases ran
      exact ⟨[], [], rfl, FileTree.wrote_nothing (FileTree.Keeps.refl _), rfl⟩
  | cons file rest ih =>
      rcases file with ⟨name, text⟩
      rcases List.forall_mem_cons.mp names with ⟨isName, others⟩
      rcases List.nodup_cons.mp distinct with ⟨new, apart⟩
      rw [onTree_writeEach_cons] at ran
      cases first : tree.writeText (joinPath directory name) text with
      | error error =>
          rw [first] at ran
          cases ran
          exact ⟨[], (name, text) :: rest, rfl, FileTree.wrote_nothing (FileTree.Keeps.refl _),
            error, first, rfl⟩
      | ok middle =>
          rw [first] at ran
          rcases ih others apart ran with ⟨written, missed, split, wrote, ended⟩
          subst split
          have front : ∀ file ∈ written, IsFileName file.1 := fun file mem =>
            others file (List.mem_append_left missed mem)
          have absent : name ∉ written.keys := fun mem =>
            new (List.map_append ▸ List.mem_append_left _ mem)
          exact ⟨(name, text) :: written, missed, rfl, wrote.cons isName front absent first, ended⟩

/-- Files are all written if each of them can be. -/
theorem exists_writeEach (names : ∀ file ∈ files, IsFileName file.1) (distinct : files.keys.Nodup)
    (writable : ∀ file ∈ files, ∃ location, tree.Writable (joinPath directory file.1) location) :
    ∃ after, ∀ events, ∃ later,
      onTree (writeEach directory files) events tree = ((.ok (), later), after) := by
  induction files generalizing tree with
  | nil => exact ⟨tree, fun events => ⟨events, rfl⟩⟩
  | cons file rest ih =>
      rcases file with ⟨name, text⟩
      rcases List.forall_mem_cons.mp names with ⟨isName, others⟩
      rcases List.nodup_cons.mp distinct with ⟨new, apart⟩
      rcases List.forall_mem_cons.mp writable with ⟨⟨location, own⟩, remaining⟩
      have free : ∀ file ∈ rest, ∃ place,
          (tree.put location (.file text.toUTF8)).Writable (joinPath directory file.1) place := by
        intro file mem
        rcases remaining file mem with ⟨place, free⟩
        refine ⟨place, free.behind own fun same => ?_⟩
        have equal := FileTree.locate_joinPath_inj (others file mem) isName free.located
          (same ▸ own.located)
        exact new (equal ▸ List.mem_map_of_mem mem)
      rcases ih others apart free with ⟨after, written⟩
      refine ⟨after, fun events => ?_⟩
      rw [onTree_writeEach_cons, own.writeText text]
      exact written _

/-- A directory in the place of the second file stops the run behind the first. -/
theorem exists_writeEach_blocked {name other text otherText : String} {rest : OrderedMap String}
    {location place : Location} (writable : tree.Writable (joinPath directory name) location)
    (located : tree.locate (joinPath directory other) = .ok place)
    (present : tree.get? place = some .directory) (events : List Event) :
    ∃ later, onTree (writeEach directory ((name, text) :: (other, otherText) :: rest)) events tree =
      ((.error (.writingOutput directory .isDirectory), later),
        tree.put location (.file text.toUTF8)) := by
  have kept : ∀ place, tree.get? place = some .directory →
      (tree.put location (.file text.toUTF8)).get? place = some .directory :=
    fun _ => writable.directory_put
  have blocked : (tree.put location (.file text.toUTF8)).writeText (joinPath directory other)
      otherText = .error .isDirectory :=
    FileTree.writeText_of_directory (FileTree.locate_of_directories kept located)
      (kept place present)
  rw [onTree_writeEach_cons, writable.writeText text]
  simp only [onTree_writeEach_cons, blocked]
  exact ⟨_, rfl⟩

/-- How a run ends that was asked to generate: its outcome, and the tree that it leaves. -/
inductive Ends (arguments : Arguments) (tree : FileTree) :
    Except CommandFault Unit → FileTree → Prop
  | refused {fault : CommandFault} (failed : arguments.outputs tree = .error fault) :
      Ends arguments tree (.error fault) tree
  | stopped {files : OrderedMap String} {error : FileError} {after : FileTree}
      (made : arguments.outputs tree = .ok files)
      (stops : tree.WritingStops after arguments.output files error) :
      Ends arguments tree (.error (.writingOutput arguments.output error)) after
  | finished {files : OrderedMap String} {after : FileTree}
      (made : arguments.outputs tree = .ok files)
      (wrote : tree.Wrote after arguments.output files) : Ends arguments tree (.ok ()) after

theorem exists_onTree_generate (arguments : Arguments) (events : List Event) (tree : FileTree) :
    ∃ reported, onTree (generate arguments) events tree =
      match arguments.outputs tree with
      | .ok files => onTree (writeFiles arguments.output files) reported tree
      | .error fault => ((.error fault, reported), tree) := by
  rcases reads_prepare arguments tree events with ⟨reported, prepared⟩
  refine ⟨reported, ?_⟩
  rw [generate_eq, onTree_bind, prepared]
  cases arguments.outputs tree <;> rfl

theorem ends_generate {arguments : Arguments}
    (ran : onTree (generate arguments) events tree = ((outcome, later), after)) :
    Ends arguments tree outcome after := by
  rcases exists_onTree_generate arguments events tree with ⟨reported, generated⟩
  rw [generated] at ran
  cases made : arguments.outputs tree with
  | error fault =>
      rw [made] at ran
      cases ran
      exact .refused made
  | ok files =>
      rw [made] at ran
      have keys := Arguments.keys_of_outputs made
      have names := isFileName_of_keys keys
      have distinct : files.keys.Nodup := keys ▸ OutputTemplates.nodup_keys_builtin
      have kept := tree.keeps_createDirectories arguments.output
      simp only [onTree_writeFiles] at ran
      split at ran
      next grown ensured =>
        rw [ensured] at kept
        rcases exists_written names distinct ran with ⟨written, missed, split, wrote, ended⟩
        cases missed with
        | nil =>
            rw [List.append_nil] at split
            rw [ended]
            exact .finished made (split ▸ wrote.behind kept)
        | cons file rest =>
            rcases ended with ⟨error, refused, failed⟩
            rw [failed]
            exact .stopped made (.atFile split (wrote.behind kept) refused)
      next error grown refused =>
        rw [refused] at kept
        cases ran
        exact .stopped made (.atDirectory refused (FileTree.wrote_nothing kept))

theorem run_of_generate {arguments : List String} {asked : Arguments}
    (request : Request.ofArguments arguments = .generate asked) (tree : FileTree) :
    (run arguments : StateM FileTree Outcome).run tree =
      match onTree (generate asked) [] tree with
      | ((.ok _, events), after) => ({ status := 0, events := shown asked.level events }, after)
      | ((.error fault, events), after) =>
          ({ status := 2, events := shown asked.level events,
             error := "** ERROR! " ++ fault.message ++ "\n" }, after) := by
  simp only [run, request, onTree, StateT.run_bind]
  rcases ((generate asked : Step (StateM FileTree) Unit).run.run []).run tree with
    ⟨⟨_ | _, events⟩, after⟩ <;> rfl

theorem ends_of_run {arguments : List String} {asked : Arguments} {left : Outcome}
    (request : Request.ofArguments arguments = .generate asked)
    (ran : (run arguments : StateM FileTree Outcome).run tree = (left, after)) :
    ∃ result, Ends asked tree result after ∧
      match result with
      | .ok _ => left.status = 0
      | .error fault =>
          left.status = 2 ∧ left.error = "** ERROR! " ++ fault.message ++ "\n" := by
  rw [run_of_generate request] at ran
  rcases generated : onTree (generate asked) [] tree with ⟨⟨result, events⟩, behind⟩
  have ends := ends_generate generated
  rw [generated] at ran
  cases result with
  | ok _ =>
      cases ran
      exact ⟨_, ends, rfl⟩
  | error fault =>
      cases ran
      exact ⟨_, ends, rfl, rfl⟩

theorem leaves_of_other {arguments : List String} {left : Outcome}
    (other : ∀ asked, Request.ofArguments arguments ≠ .generate asked)
    (ran : (run arguments : StateM FileTree Outcome).run tree = (left, after)) :
    left.status ≠ 2 ∧ after = tree := by
  have quiet : ∀ ended : Outcome, ended.status ≠ 2 →
      (pure ended : StateM FileTree Outcome).run tree = (left, after) →
        left.status ≠ 2 ∧ after = tree := by
    rintro ended status ⟨⟩
    exact ⟨status, rfl⟩
  unfold run at ran
  split at ran
  next => exact quiet _ (by simp) ran
  next => exact quiet _ (by simp) ran
  next error invalid => exact quiet _ (by simp) ran
  next asked request => exact absurd request (other asked)

/-- A run that is refused for its catalog, templates, input or document leaves the tree as it was.
One that stops while it writes leaves the output files in front of the one that cannot be written,
and nothing else but directories. A run that succeeds leaves exactly the output files of the
document. No other request than to generate touches the tree. -/
theorem leaves_of_run {arguments : List String} {outcome : Outcome}
    (ran : (run arguments : StateM FileTree Outcome).run tree = (outcome, after)) :
    (outcome.status = 2 → ∃ asked fault, Request.ofArguments arguments = .generate asked ∧
      outcome.error = "** ERROR! " ++ fault.message ++ "\n" ∧
      (asked.outputs tree = .error fault ∧ after = tree ∨
        ∃ files error, asked.outputs tree = .ok files ∧
          files.keys = OutputTemplates.builtin.keys ∧ fault = .writingOutput asked.output error ∧
          tree.WritingStops after asked.output files error)) ∧
    (∀ asked, Request.ofArguments arguments = .generate asked → outcome.status = 0 →
      ∃ files, asked.outputs tree = .ok files ∧ files.keys = OutputTemplates.builtin.keys ∧
        tree.Wrote after asked.output files) ∧
    ((∀ asked, Request.ofArguments arguments ≠ .generate asked) →
      outcome.status ≠ 2 ∧ after = tree) := by
  refine ⟨fun failed => ?_, fun asked request done => ?_, fun other => leaves_of_other other ran⟩
  · by_cases generates : ∃ asked, Request.ofArguments arguments = .generate asked
    · rcases generates with ⟨asked, request⟩
      rcases ends_of_run request ran with ⟨result, ends, shown⟩
      cases ends with
      | refused made => exact ⟨asked, _, request, shown.2, .inl ⟨made, rfl⟩⟩
      | stopped made stops =>
          have keys := Arguments.keys_of_outputs made
          exact ⟨asked, _, request, shown.2, .inr ⟨_, _, made, keys, rfl, stops⟩⟩
      | finished made wrote => exact absurd (shown.symm.trans failed) (by decide)
    · exact absurd failed (leaves_of_other (not_exists.mp generates) ran).1
  · rcases ends_of_run request ran with ⟨result, ends, shown⟩
    cases ends with
    | refused made => exact absurd (shown.1.symm.trans done) (by decide)
    | stopped made stops => exact absurd (shown.1.symm.trans done) (by decide)
    | finished made wrote => exact ⟨_, made, Arguments.keys_of_outputs made, wrote⟩

/-- The status of a run that comes to write says whether it wrote everything. -/
theorem exists_run_of_outputs {arguments : List String} {asked : Arguments}
    (request : Request.ofArguments arguments = .generate asked)
    (made : asked.outputs tree = .ok files)
    (writes : ∀ events, ∃ later,
      onTree (writeFiles asked.output files) events tree = ((outcome, later), after)) :
    ∃ left, (run arguments : StateM FileTree Outcome).run tree = (left, after) ∧
      left.status = if outcome.isOk then 0 else 2 := by
  rcases exists_onTree_generate asked [] tree with ⟨reported, generated⟩
  rcases writes reported with ⟨later, written⟩
  rw [made] at generated
  rw [run_of_generate request, generated]
  simp only [written]
  cases outcome <;> exact ⟨_, rfl, rfl⟩

/-- An empty document, and a file with given names on the way to it. -/
def documentTree (names : List String) : FileTree :=
  (FileTree.empty.putFile (.inside ["in.json"]) "\x7b\x7d".toUTF8).putFile (.inside names) .empty

/-- A directory stands where an output file is to be written. -/
def occupiedTree : FileTree := documentTree ["out", "usb_descriptors.h", "x"]

/-- An output directory stands ready. -/
def readyTree : FileTree := documentTree ["out", "x"]

theorem ofArguments_document : Request.ofArguments ["in.json", "out"] =
    .generate { input := "in.json", output := "out" } := by decide +kernel

theorem exists_outputs (tree : FileTree) (found : tree.readText "in.json" = .ok "\x7b\x7d") :
    ∃ files, ({ input := "in.json", output := "out" } : Arguments).outputs tree = .ok files := by
  have success : (Document.read Catalog.builtin "\x7b\x7d" >>= fun document =>
      document.generate Catalog.builtin).isOk = true := by decide +kernel
  rcases outcome_isOk_iff.mp success with ⟨generated, both⟩
  rcases outcome_bind_iff.mp both with ⟨document, read, run⟩
  rcases generated.outputs_builtin with ⟨files, rendered, -⟩
  have made : document.outputs Catalog.builtin .builtin = .ok files :=
    outcome_bind_iff.mpr ⟨generated, run, rendered⟩
  refine ⟨files, ?_⟩
  simp only [Arguments.outputs, outcome_bind_iff, outcome_mapError_iff]
  exact ⟨.builtin, rfl, .builtin, rfl, _, found, document, read, made⟩

theorem exists_run_readyTree : ∃ outcome after,
    (run ["in.json", "out"] : StateM FileTree Outcome).run readyTree = (outcome, after) ∧
      outcome.status = 0 := by
  rcases exists_outputs readyTree (FileTree.readText_of_file rfl rfl) with ⟨files, made⟩
  have keys := Arguments.keys_of_outputs made
  have writable : ∀ name ∈ OutputTemplates.builtin.keys,
      ∃ location, readyTree.Writable (joinPath "out" name) location := by
    simp only [OutputTemplates.builtin, OrderedMap.keys, List.map_cons, List.map_nil,
      List.forall_mem_cons]
    refine ⟨?_, ?_, ?_, ?_, ?_, List.forall_mem_nil _⟩
    all_goals exact ⟨.inside ["out", _], rfl, (Option.some_ne_none _).symm, rfl⟩
  have ensured : (FileTree.createDirectories "out").run readyTree = (.ok (), readyTree) := rfl
  rcases exists_writeEach (isFileName_of_keys keys) (keys ▸ OutputTemplates.nodup_keys_builtin)
    fun file mem => writable file.1 (keys ▸ List.mem_map_of_mem mem) with ⟨after, written⟩
  have writes : ∀ events, ∃ later,
      onTree (writeFiles "out" files) events readyTree = ((.ok (), later), after) := by
    intro events
    rw [onTree_writeFiles, ensured]
    exact written events
  rcases exists_run_of_outputs ofArguments_document made writes with ⟨outcome, ran, status⟩
  exact ⟨outcome, after, ran, status⟩

theorem exists_run_occupiedTree : ∃ outcome source,
    (run ["in.json", "out"] : StateM FileTree Outcome).run occupiedTree =
        (outcome, occupiedTree.put (.inside ["out", "usb_descriptors.c"]) (.file source)) ∧
      outcome.status = 2 := by
  rcases exists_outputs occupiedTree (FileTree.readText_of_file rfl rfl) with ⟨files, made⟩
  have keys := Arguments.keys_of_outputs made
  rcases files with _ | ⟨⟨first, source⟩, _ | ⟨⟨second, header⟩, rest⟩⟩
  · cases keys
  · cases keys
  · simp only [OrderedMap.keys, OutputTemplates.builtin, List.map_cons, List.cons.injEq] at keys
    rcases keys with ⟨rfl, rfl, -⟩
    have writable : occupiedTree.Writable (joinPath "out" "usb_descriptors.c")
        (.inside ["out", "usb_descriptors.c"]) := ⟨rfl, (Option.some_ne_none _).symm, rfl⟩
    have present : occupiedTree.get? (.inside ["out", "usb_descriptors.h"]) =
        some .directory := rfl
    have ensured : (FileTree.createDirectories "out").run occupiedTree =
        (.ok (), occupiedTree) := rfl
    have writes : ∀ events, ∃ later, onTree (writeFiles "out" (("usb_descriptors.c", source) ::
        ("usb_descriptors.h", header) :: rest)) events occupiedTree =
          ((.error (.writingOutput "out" .isDirectory), later),
            occupiedTree.put (.inside ["out", "usb_descriptors.c"]) (.file source.toUTF8)) := by
      intro events
      rw [onTree_writeFiles, ensured]
      exact exists_writeEach_blocked writable rfl present events
    rcases exists_run_of_outputs ofArguments_document made writes with ⟨outcome, ran, status⟩
    exact ⟨outcome, source.toUTF8, ran, status⟩

theorem leaves_readyTree :
    (∃ outcome after files,
      (run ["in.json", "out"] : StateM FileTree Outcome).run readyTree = (outcome, after) ∧
        outcome.status = 0 ∧ files.keys = OutputTemplates.builtin.keys ∧
        readyTree.Wrote after "out" files) ∧
    ∃ outcome after files error,
      (run ["in.json", "out"] : StateM FileTree Outcome).run occupiedTree = (outcome, after) ∧
        outcome.status = 2 ∧ occupiedTree.WritingStops after "out" files error := by
  constructor
  · rcases exists_run_readyTree with ⟨outcome, after, ran, status⟩
    rcases (leaves_of_run ran).2.1 _ ofArguments_document status with ⟨files, -, keys, wrote⟩
    exact ⟨outcome, after, files, ran, status, keys, wrote⟩
  · rcases exists_run_occupiedTree with ⟨outcome, source, ran, status⟩
    rcases (leaves_of_run ran).1 status with ⟨asked, fault, request, -, ⟨failed, -⟩ | stopped⟩
    · -- the files were made, so the run was not refused before it came to write
      rcases exists_outputs occupiedTree (FileTree.readText_of_file rfl rfl) with ⟨files, made⟩
      cases request.symm.trans ofArguments_document
      rw [made] at failed
      cases failed
    · rcases stopped with ⟨files, error, -, -, -, stops⟩
      cases request.symm.trans ofArguments_document
      exact ⟨outcome, _, files, error, ran, status, stops⟩

/-- With a directory in the place of the second output file the run fails, and leaves the first. -/
theorem halfWritten_occupiedTree : ∃ outcome after content,
    (run ["in.json", "out"] : StateM FileTree Outcome).run occupiedTree = (outcome, after) ∧
      outcome.status = 2 ∧
      occupiedTree.get? (.inside ["out", "usb_descriptors.c"]) = none ∧
      after.get? (.inside ["out", "usb_descriptors.c"]) = some (.file content) := by
  rcases exists_run_occupiedTree with ⟨outcome, source, ran, status⟩
  exact ⟨outcome, _, source, ran, status, rfl, FileTree.get?_put_self (by decide)⟩

end Command

end UsbDescriptors
