import UsbDescriptors.Command.Run
import UsbDescriptors.Proofs.Runs.Faults

/-!
# Rendering

The built-in output templates are put together from plain texts and references to the variables of
a run. So every successful run is rendered, whatever its sections say: what a document brings into
a section is never read as a reference. Together with the faults of a run this settles how
generating the files of an accepted document can fail.
-/

namespace UsbDescriptors

/-- The names of the variables of a run. -/
def Generated.variableNames : List String :=
  ["device_descriptors", "hid_reports", "configurations", "strings", "config_enums",
    "report_enums", "string_enum", "string_max_length", "declarations", "definitions",
    "device_enabled", "host_enabled", "device_classes", "host_classes", "globals"]

theorem Generated.keys_variables (generated : Generated) :
    generated.variables.keys = variableNames := rfl

theorem Generated.isKey_variableNames : ∀ name ∈ variableNames, Expression.IsKey name := by
  decide +kernel

namespace OutputTemplates

open Expression (DefinedBy WrittenWith)

theorem writtenWith_builtin : ∀ entry ∈ builtin, WrittenWith Generated.variableNames entry.2 := by
  simp only [builtin, List.forall_mem_cons, List.not_mem_nil, false_imp_iff, implies_true,
    descriptorSource, descriptorHeader, classHeader, classSource, stackConfiguration]
  repeat' with_reducible constructor
  all_goals decide

theorem definedBy_builtin (generated : Generated) :
    ∀ entry ∈ builtin, DefinedBy generated.variables.keys entry.2 := by
  intro entry mem
  rw [generated.keys_variables]
  exact (writtenWith_builtin entry mem).definedBy Generated.isKey_variableNames

variable {templates : OutputTemplates} {context : Context}

theorem renderEach_ok {names : List String} (defined : ∀ name ∈ names, ∃ text,
      templates.get? name = some text ∧ DefinedBy context.keys text) :
    ∃ files, templates.renderEach context names = .ok files ∧ files.keys = names := by
  induction names with
  | nil => exact ⟨[], rfl, rfl⟩
  | cons name rest ih =>
      rcases List.forall_mem_cons.mp defined with ⟨⟨text, present, known⟩, others⟩
      rcases substitute_ok_iff.mpr known with ⟨rendered, filled⟩
      rcases ih others with ⟨files, more, names⟩
      have own : templates.render name context = .ok rendered := by
        simp only [render, present, filled]
      refine ⟨(name, rendered) :: files, ?_, congrArg (name :: ·) names⟩
      simp only [renderEach, outcome_bind_iff, outcome_pure_iff]
      exact ⟨rendered, own, files, more, rfl⟩

/-- However the templates are overridden, the files have the names of the built-in ones. -/
theorem keys_of_renderEach {names : List String} {files : OrderedMap String}
    (rendered : templates.renderEach context names = .ok files) : files.keys = names := by
  induction names generalizing files with
  | nil =>
      cases rendered
      rfl
  | cons name rest ih =>
      simp only [renderEach, outcome_bind_iff, outcome_pure_iff] at rendered
      rcases rendered with ⟨text, -, others, more, rfl⟩
      exact congrArg (name :: ·) (ih more)

theorem nodup_keys_builtin : builtin.keys.Nodup := by
  simp [builtin, OrderedMap.keys]

end OutputTemplates

/-- A run is rendered as the five files of the built-in templates. -/
theorem Generated.outputs_builtin (generated : Generated) :
    ∃ files, generated.outputs .builtin = .ok files ∧
      files.keys = OutputTemplates.builtin.keys := by
  apply OutputTemplates.renderEach_ok
  intro name mem
  rcases List.mem_map.mp mem with ⟨⟨own, text⟩, stored, rfl⟩
  have present := OrderedMap.get?_eq_some_of_mem OutputTemplates.nodup_keys_builtin stored
  have defined := OutputTemplates.definedBy_builtin generated (own, text) stored
  exact ⟨text, present, defined⟩

/-- The output files of a document. -/
def Document.outputs (document : Document) (catalog : Catalog) (templates : OutputTemplates) :
    Except Fault (OrderedMap String) := do
  let generated ← document.generate catalog
  generated.outputs templates

theorem Document.keys_of_outputs {document : Document} {catalog : Catalog}
    {templates : OutputTemplates} {files : OrderedMap String}
    (made : document.outputs catalog templates = .ok files) :
    files.keys = OutputTemplates.builtin.keys := by
  rcases outcome_bind_iff.mp made with ⟨generated, -, rendered⟩
  exact OutputTemplates.keys_of_renderEach rendered

/-- The command reports the events of the run and goes on with the output files of the document. -/
theorem Command.generateFiles_eq {m : Type → Type} [Monad m] [LawfulMonad m] [FileSystem m]
    (catalog : Catalog) (templates : OutputTemplates) (document : Document) :
    (generateFiles catalog templates document : Step m (OrderedMap String)) =
      report (document.generateWithEvents catalog).2 >>= fun _ =>
        settle .plain (document.outputs catalog templates) := by
  unfold generateFiles Document.outputs Document.generate
  rcases document.generateWithEvents catalog with ⟨outcome, events⟩
  cases outcome with
  | ok generated =>
      simp only [settle, pure_bind]
      rfl
  | error fault =>
      have failed : ((.error fault : Except Fault Generated) >>= fun generated =>
          generated.outputs templates) = .error fault := rfl
      apply congrArg (report events >>= ·)
      funext _
      apply ExceptT.ext
      simp [failed, settle]

namespace Document

theorem faults_of_generate {catalog : Catalog} {document : Document} {fault : Fault}
    (sound : catalog.Sound) (closed : catalog.Closed)
    (fits : ∀ entry ∈ document.allInterfaces, entry.2.FitsTemplate catalog)
    (failed : document.generate catalog = .error fault) : fault.IsOfDocument := by
  rcases generate_error_iff.mp failed with ⟨session, ran⟩
  exact Generation.failsOnly_document sound closed fits _ _ _ ran

/-- A run on a document that is read against the built-in catalog fails for the choices of the
document only: neither for a variable or a direction that is missing, nor for the catalog or a
file. Its files are generated with the built-in output templates exactly if the run succeeds. -/
theorem faults_of_read {text : String} {document : Document}
    (found : read Catalog.builtin text = .ok document) :
    (∀ fault, document.generate Catalog.builtin = .error fault → fault.IsOfDocument) ∧
      ((∃ files, document.outputs Catalog.builtin .builtin = .ok files) ↔
        ∃ generated, document.generate Catalog.builtin = .ok generated) := by
  constructor
  · intro fault failed
    exact faults_of_generate Catalog.sound_builtin Catalog.closed_builtin
      (fitsTemplate_of_read found) failed
  · constructor
    · rintro ⟨files, made⟩
      rcases outcome_bind_iff.mp made with ⟨generated, run, -⟩
      exact ⟨generated, run⟩
    · rintro ⟨generated, run⟩
      rcases generated.outputs_builtin with ⟨files, rendered, -⟩
      exact ⟨files, outcome_bind_iff.mpr ⟨generated, run, rendered⟩⟩

/-- A disk whose description looks like a reference. -/
def referringValue : Json.Value :=
  let disk : Json.Value := .object [
    ("template", .string "msc"), ("description", .string (Expression.referTo "disk"))]
  let configurations : Json.Value := .object [("c", .object [("interfaces", .object [("d", disk)])])]
  .object [("devices", .object [("b", .object [
    ("vendor", .number (.integer 1)), ("configurations", configurations)])])]

theorem faults_referringValue : ∃ document,
    read Catalog.builtin referringValue.compact = .ok document ∧
      (∀ fault, document.generate Catalog.builtin = .error fault → fault.IsOfDocument) ∧
        ∃ files, document.outputs Catalog.builtin .builtin = .ok files := by
  have success : (read Catalog.builtin referringValue.compact >>= fun document =>
      document.generate Catalog.builtin).isOk = true := by decide +kernel
  rcases outcome_isOk_iff.mp success with ⟨generated, both⟩
  rcases outcome_bind_iff.mp both with ⟨document, found, run⟩
  have faults := faults_of_read found
  exact ⟨document, found, faults.1, faults.2.mpr ⟨generated, run⟩⟩

end Document

end UsbDescriptors
