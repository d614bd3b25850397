import UsbDescriptors.Catalog.Reader
import UsbDescriptors.Proofs.Document.Kinds
import UsbDescriptors.Proofs.Json.Records
import Mathlib.Data.Option.Basic

/-!
# Catalogs that are read

A catalog that is read from a text is sound: the properties of a template have distinct names
because they are read as a map, and everything else is what the check of the catalog looks for. The
built-in catalog is sound as well, so what follows from soundness holds for every known catalog.
-/

namespace UsbDescriptors

open Json (Decoder Node)

/-- A catalog that a run can be given: the built-in one or one that is read from a text. -/
inductive Catalog.Known (catalog : Catalog) : Prop
  | builtin (same : catalog = .builtin) : Known catalog
  | read {text : String} (found : Catalog.read text = .ok catalog) : Known catalog

/-- A template that takes its reports, if it has any, from an array property. -/
def Template.ListsReports (template : Template) : Prop :=
  ∀ name ∈ template.reports, ∃ property,
    template.properties.get? name = some property ∧ property.kind = .array

namespace Template

theorem distinct_of_decode {node : Node} {template : Template}
    (run : decode node = .ok template) : template.properties.keys.Nodup := by
  let distinct (draft : TemplateDraft) : Prop := draft.properties.keys.Nodup
  have keeps : ∀ name node first second, distinct first →
      TemplateDraft.field name node first = .ok second → distinct second := by
    intro name node first second kept read
    unfold TemplateDraft.field at read
    split at read
    all_goals
      simp only [outcome_bind_iff, outcome_pure_iff] at read
      rcases read with ⟨_, decoded, rfl⟩
      first
        | exact kept
        | exact (Decoder.map_ok decoded).1
  have start : distinct {} := List.nodup_nil
  rcases Decoder.exists_state_of_record distinct start keeps run with ⟨draft, kept, finished⟩
  simp only [TemplateDraft.finish, outcome_bind_iff, outcome_pure_iff] at finished
  rcases finished with ⟨_, -, _, -, _, -, _, -, rfl⟩
  exact kept

theorem defaults_of_problem {name : String} {template : Template}
    (consistent : Catalog.templateProblem? name template = none) :
    ∀ property ∈ template.properties, ∀ value ∈ property.2.defaultValue,
      property.2.kind.accepts value = true := by
  intro property mem value default
  have each := ((Option.orElse_eq_none _ _).mp consistent).2
  have fits := List.findSome?_eq_none_iff.mp each property mem
  rw [Option.mem_def] at default
  simp only [Catalog.defaultProblem?, default] at fits
  split at fits
  next accepted => exact accepted
  next => cases fits

theorem listsReports_of_problem {name : String} {template : Template}
    (consistent : Catalog.templateProblem? name template = none) : template.ListsReports := by
  intro reports listed
  have fits := ((Option.orElse_eq_none _ _).mp consistent).1
  rw [Option.mem_def] at listed
  simp only [Catalog.reportsProblem?, listed] at fits
  split at fits
  next present => exact ⟨_, present, rfl⟩
  next => cases fits

end Template

namespace Catalog

theorem distinct_of_decode {node : Node} {catalog : Catalog} (run : decode node = .ok catalog) :
    ∀ entry ∈ catalog.templates, entry.2.properties.keys.Nodup := by
  let distinct (draft : CatalogDraft) : Prop :=
    ∀ templates ∈ draft.templates, ∀ entry ∈ templates, entry.2.properties.keys.Nodup
  have keeps : ∀ name node first second, distinct first →
      CatalogDraft.field name node first = .ok second → distinct second := by
    intro name node first second kept read
    unfold CatalogDraft.field at read
    split at read
    next =>
      simp only [outcome_bind_iff, outcome_pure_iff] at read
      rcases read with ⟨templates, decoded, rfl⟩
      rintro _ ⟨⟩ entry mem
      rcases (Decoder.map_ok decoded).2 entry mem with ⟨part, partRead⟩
      exact Template.distinct_of_decode partRead
    next =>
      simp only [outcome_bind_iff, outcome_pure_iff] at read
      rcases read with ⟨_, -, rfl⟩
      exact kept
  have start : distinct {} := fun _ absent => absurd absent (Option.not_mem_none _)
  rcases Decoder.exists_state_of_record distinct start keeps run with ⟨draft, kept, finished⟩
  simp only [CatalogDraft.finish, outcome_bind_iff, outcome_pure_iff] at finished
  rcases finished with ⟨templates, given, rfl⟩
  apply kept
  unfold Decoder.required at given
  split at given
  next present => rw [present, Except.ok.inj given, Option.mem_def]
  next => cases given

theorem decode_of_read {text : String} {catalog : Catalog} (found : read text = .ok catalog) :
    decode (Json.readText text).1 = .ok catalog ∧ catalog.problem? = none := by
  unfold read at found
  split at found
  next => cases found
  next decoded run =>
    split at found
    next => cases found
    next consistent =>
      cases found
      exact ⟨Json.decode_of_read run, consistent⟩

theorem templateProblem_of_read {text : String} {catalog : Catalog}
    (found : read text = .ok catalog) :
    ∀ entry ∈ catalog.templates, templateProblem? entry.1 entry.2 = none :=
  List.findSome?_eq_none_iff.mp (decode_of_read found).2

theorem sound_of_read {text : String} {catalog : Catalog} (found : read text = .ok catalog) :
    catalog.Sound := by
  intro entry mem
  exact {
    distinct := distinct_of_decode (decode_of_read found).1 entry mem
    defaults := Template.defaults_of_problem (templateProblem_of_read found entry mem) }

namespace Known

variable {catalog : Catalog}

theorem sound (known : catalog.Known) : catalog.Sound := by
  cases known with
  | builtin same => exact same ▸ sound_builtin
  | read found => exact sound_of_read found

theorem listsReports (known : catalog.Known) :
    ∀ entry ∈ catalog.templates, entry.2.ListsReports := by
  cases known with
  | builtin same =>
      have consistent : Catalog.builtin.problem? = none := by decide +kernel
      subst same
      intro entry mem
      exact Template.listsReports_of_problem
        (List.findSome?_eq_none_iff.mp consistent entry mem)
  | read found =>
      intro entry mem
      exact Template.listsReports_of_problem (templateProblem_of_read found entry mem)

end Known

end Catalog

end UsbDescriptors
