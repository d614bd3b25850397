import UsbDescriptors.Proofs.Document.Interfaces
import UsbDescriptors.Proofs.Expressions.Contexts
import UsbDescriptors.Proofs.Related
import UsbDescriptors.Proofs.Runs.Plans

/-!
# Kinds of accepted values

The properties that an accepted document gives are those of its templates, and their values are of
the kinds that the templates say. The defaults of a sound template are of these kinds as well. So
all values of a resolved interface are, wherever they come from.
-/

namespace UsbDescriptors

open Json (Value)
open Validation (Clean)

/-- A template whose properties have distinct names and defaults of their kinds. -/
@[mk_iff]
structure Template.Sound (template : Template) : Prop where
  distinct : template.properties.keys.Nodup
  defaults : ∀ property ∈ template.properties, ∀ value ∈ property.2.defaultValue,
    property.2.kind.accepts value = true

instance (template : Template) : Decidable template.Sound :=
  decidable_of_iff' _ template.sound_iff

def Catalog.Sound (catalog : Catalog) : Prop :=
  ∀ entry ∈ catalog.templates, entry.2.Sound

instance (catalog : Catalog) : Decidable catalog.Sound :=
  inferInstanceAs (Decidable (∀ entry ∈ catalog.templates, entry.2.Sound))

theorem Catalog.sound_builtin : builtin.Sound := by
  decide +kernel

/-- An interface gives properties of its template only, with values of their kinds. -/
def Interface.FitsTemplate (interface : Interface) (catalog : Catalog) : Prop :=
  ∀ template, catalog.templates.get? interface.template = some template →
    ∀ member ∈ interface.properties, ∃ property,
      template.properties.get? member.1 = some property ∧
        property.kind.accepts member.2 = true

namespace Validation

variable {catalog : Catalog} {path : Path} {name : String} {value : Value}

theorem accepts_of_clean_property {template : Template} {key : String}
    (clean : Clean (property template name path key value))
    (own : key ≠ "template" ∧ key ≠ "description") :
    ∃ property, template.properties.get? key = some property ∧
      property.kind.accepts value = true := by
  have isOwn : ¬ (key = "template" ∨ key = "description") := by tauto
  simp only [property, if_neg isOwn] at clean
  split at clean
  next => simp at clean
  next found present => exact ⟨found, present, by simpa using clean⟩

end Validation

theorem Interface.Accepted.fitsTemplate {catalog : Catalog} {entry : String × Interface}
    (accepted : Accepted catalog entry) : entry.2.FitsTemplate catalog := by
  rcases accepted with ⟨path, value, distinct, clean, looked⟩
  have keeps := Validation.interface_keeps distinct clean
  rw [← looked] at keeps
  intro template known member mem
  rw [keeps.properties] at mem
  rcases List.mem_filter.mp mem with ⟨stored, own⟩
  cases value with
  | object content =>
      have named : OrderedMap.get? content "template" = some (.string entry.2.template) :=
        keeps.template
      simp only [Validation.interface, named, known, Validation.all_append,
        Validation.all_members] at clean
      exact Validation.accepts_of_clean_property (clean.2.2 member stored) (of_decide_eq_true own)
  | _ => simp [Validation.interface] at clean

theorem Document.fitsTemplate_of_read {catalog : Catalog} {text : String} {document : Document}
    (found : read catalog text = .ok document) :
    ∀ entry ∈ document.allInterfaces, entry.2.FitsTemplate catalog :=
  fun entry mem => (accepted_of_read found entry mem).fitsTemplate

/-- Among the values of all properties there is one for each of them. -/
theorem Property.Kinds.exists_get? {declared : OrderedMap Property} {values : OrderedMap Value}
    (kinds : Property.Kinds declared values) {name : String} {property : Property}
    (found : declared.get? name = some property) :
    ∃ value, values.get? name = some value ∧ property.kind.accepts value = true := by
  induction kinds with
  | nil => cases found
  | @cons head value _ _ related _ ih =>
      rcases head with ⟨present, own⟩
      rcases value with ⟨same, value⟩
      rcases related with ⟨rfl, accepted⟩
      by_cases equal : present = name
      · simp only [OrderedMap.get?_cons, if_pos equal, Option.some.injEq] at found ⊢
        exact ⟨value, rfl, found ▸ accepted⟩
      · simp only [OrderedMap.get?_cons, if_neg equal] at found ⊢
        exact ih found

namespace ResolvedInterface

theorem propertyValues_ok {tag : String} {given : OrderedMap Value}
    {declared : OrderedMap Property} {values : OrderedMap Value}
    (run : propertyValues tag given declared = .ok values) :
    List.Forall₂ (fun property value => property.1 = value.1 ∧
      (given.get? property.1 = some value.2 ∨ property.2.defaultValue = some value.2))
      declared values := by
  induction declared generalizing values with
  | nil =>
      cases run
      exact .nil
  | cons property rest ih =>
      rcases property with ⟨name, property⟩
      simp only [propertyValues, outcome_bind_iff, outcome_pure_iff] at run
      rcases run with ⟨value, found, others, more, rfl⟩
      refine .cons ⟨rfl, ?_⟩ (ih more)
      unfold propertyValue at found
      cases present : given.get? name with
      | some own =>
          rw [present] at found
          cases found
          exact Or.inl rfl
      | none =>
          rw [present] at found
          cases default : property.defaultValue with
          | some value =>
              rw [default] at found
              cases found
              exact Or.inr rfl
          | none =>
              rw [default] at found
              cases found

/-- Every value of a resolved interface is of the kind of its property. -/
theorem hasKinds_of_resolve {catalog : Catalog} {tag : String} {interface : Interface}
    {resolved : ResolvedInterface} (sound : catalog.Sound)
    (fits : interface.FitsTemplate catalog) (run : resolve catalog tag interface = .ok resolved) :
    resolved.HasKinds := by
  rcases resolve_ok run with ⟨-, -, -, known, values⟩
  have templateSound := sound _ (OrderedMap.mem_of_get?_eq_some known)
  apply Related.imp_of_mem (propertyValues_ok values)
  rintro ⟨name, property⟩ mem ⟨_, value⟩ ⟨rfl, given | default⟩
  · rcases fits _ known _ (OrderedMap.mem_of_get?_eq_some given) with ⟨declared, found, accepted⟩
    rw [OrderedMap.get?_eq_some_of_mem templateSound.distinct mem] at found
    cases found
    exact ⟨rfl, accepted⟩
  · exact ⟨rfl, templateSound.defaults _ mem value default⟩

end ResolvedInterface

end UsbDescriptors
