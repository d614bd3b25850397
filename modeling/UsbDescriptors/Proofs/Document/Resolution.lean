import UsbDescriptors.Proofs.Catalog.Reading

/-!
# Resolved properties

The members of an interface are told apart before its template is known: the template and the
description are fields of the interface, and all other members are properties. A catalog may declare
properties of any names, also of these two, and the check of a document passes over the members
with these names. What resolution finds for such a property is therefore never the member of the
object but the default, and without a default there is nothing to be found.

Every other declared property has the value of the member under its name, or else its default. The
first declared property with neither is the one that a failure names.
-/

namespace UsbDescriptors

open Json (Value)
open Validation (Clean)

theorem OrderedMap.get?_filter {α : Type} {entries : OrderedMap α} {keep : String → Bool}
    {name : String} : OrderedMap.get? (entries.filter fun entry => keep entry.1) name =
      if keep name then entries.get? name else none := by
  induction entries with
  | nil => simp
  | cons entry rest ih =>
      rcases entry with ⟨present, stored⟩
      by_cases same : present = name
      · subst same
        by_cases kept : keep present = true
        · simp [kept]
        · simp [kept, ih]
      · by_cases kept : keep present = true
        · simp [kept, same, ih]
        · simp [kept, same, ih]

namespace Interface

/-- The value that an object gives to a property. Its template and its description are none. -/
def given? (object : Value) (name : String) : Option Value :=
  if name = "template" ∨ name = "description" then none else object.content.get? name

theorem Keeps.get?_properties {interface : Interface} {object : Value}
    (keeps : interface.Keeps object) (name : String) :
    interface.properties.get? name = given? object name := by
  have split := @OrderedMap.get?_filter _ object.content
    (fun name => decide (name ≠ "template" ∧ name ≠ "description")) name
  rw [keeps.properties, split, given?]
  by_cases own : name = "template" ∨ name = "description"
  · rw [if_pos own, if_neg (by simp; tauto)]
  · rw [if_neg own, if_pos (by simp; tauto)]

end Interface

namespace Template

/-- The value that an interface has for a declared property: the one that its object gives, or else
the default. -/
def valueOf? (object : Value) (entry : String × Property) : Option Value :=
  (Interface.given? object entry.1).or entry.2.defaultValue

/-- The first declared property that has neither a given value nor a default. -/
def firstMissing? (template : Template) (object : Value) : Option String :=
  (template.properties.find? fun entry => (valueOf? object entry).isNone).map Prod.fst

/-- What resolution makes of the interface with a tag that an object describes. -/
structure Resolves (template : Template) (object : Value) (tag : String)
    (outcome : Except Fault ResolvedInterface) : Prop where
  succeeds : (∃ resolved, outcome = .ok resolved) ↔
    ∀ entry ∈ template.properties, (valueOf? object entry).isSome = true
  names : ∀ resolved, outcome = .ok resolved →
    resolved.properties.keys = template.properties.keys ∧ template.properties.keys.Nodup
  values : ∀ resolved, outcome = .ok resolved → ∀ entry ∈ template.properties,
    resolved.properties.get? entry.1 = valueOf? object entry
  fails : ∀ fault, outcome = .error fault ↔
    ∃ name, template.firstMissing? object = some name ∧ fault = .missingProperty tag name

end Template

namespace ResolvedInterface

section Values

variable {tag : String} {given : OrderedMap Value} {declared : OrderedMap Property}

/-- The value of a declared property: the given one, or else the default. -/
def valueIn? (given : OrderedMap Value) (entry : String × Property) : Option Value :=
  (given.get? entry.1).or entry.2.defaultValue

theorem propertyValue_eq (entry : String × Property) :
    propertyValue tag given entry.1 entry.2 =
      match valueIn? given entry with
      | some value => .ok value
      | none => .error (.missingProperty tag entry.1) := by
  unfold propertyValue valueIn?
  cases given.get? entry.1 <;> rfl

/-- Every declared property has its value, in the order of declaration. -/
theorem propertyValues_ok_iff {values : OrderedMap Value} :
    propertyValues tag given declared = .ok values ↔
      List.Forall₂ (fun entry value => entry.1 = value.1 ∧ valueIn? given entry = some value.2)
        declared values := by
  induction declared generalizing values with
  | nil => simp [propertyValues, eq_comm]
  | cons entry rest ih =>
      simp only [propertyValues, propertyValue_eq, outcome_bind_iff, outcome_pure_iff, ih]
      constructor
      · rintro ⟨value, found, others, more, rfl⟩
        refine .cons ⟨rfl, ?_⟩ more
        split at found
        next present => rw [present, Except.ok.inj found]
        next => cases found
      · intro related
        cases related with
        | @cons _ value _ others own more =>
            refine ⟨value.2, ?_, others, more, ?_⟩
            · rw [own.2]
            · rw [own.1]

/-- A fault is due to the first declared property that has no value. -/
theorem propertyValues_error_iff {fault : Fault} :
    propertyValues tag given declared = .error fault ↔
      ∃ entry, declared.find? (fun entry => (valueIn? given entry).isNone) = some entry ∧
        fault = .missingProperty tag entry.1 := by
  induction declared with
  | nil => simp [propertyValues]
  | cons first rest ih =>
      cases own : valueIn? given first with
      | none =>
          have failed : propertyValues tag given (first :: rest) =
              .error (.missingProperty tag first.1) := by
            simp only [propertyValues, propertyValue_eq, own]
            rfl
          simp [failed, own, eq_comm]
      | some value =>
          have continued : propertyValues tag given (first :: rest) = .error fault ↔
              propertyValues tag given rest = .error fault := by
            simp only [propertyValues, propertyValue_eq, own]
            cases propertyValues tag given rest with
            | error other => exact Iff.rfl
            | ok others => constructor <;> intro impossible <;> cases impossible
          simpa [own] using continued.trans ih

end Values

section Joining

variable {catalog : Catalog} {interface : Interface} {object : Value} {template : Template}
  {tag : String}

theorem valueIn?_properties (keeps : interface.Keeps object) :
    valueIn? interface.properties = Template.valueOf? object := by
  funext entry
  rw [valueIn?, keeps.get?_properties, Template.valueOf?]

/-- An interface whose template is known is resolved if its properties are, and fails as they do. -/
theorem resolve_eq (known : catalog.templates.get? interface.template = some template) :
    resolve catalog tag interface =
      (propertyValues tag interface.properties template.properties).map fun properties =>
        { tag, template, properties
          templateName := interface.template
          description := interface.description } := by
  have found : catalog.template tag interface.template = .ok template := by
    simp [Catalog.template, known]
  simp only [resolve, found, bind, Except.bind]
  cases propertyValues tag interface.properties template.properties <;> rfl

theorem resolves (keeps : interface.Keeps object)
    (known : catalog.templates.get? interface.template = some template)
    (distinct : template.properties.keys.Nodup) (tag : String) :
    template.Resolves object tag (resolve catalog tag interface) := by
  have valued := valueIn?_properties keeps
  have listed : ∀ resolved, resolve catalog tag interface = .ok resolved →
      List.Forall₂ (fun entry value => entry.1 = value.1 ∧
        Template.valueOf? object entry = some value.2) template.properties resolved.properties := by
    intro resolved run
    rcases resolve_ok run with ⟨-, -, -, present, values⟩
    rw [known] at present
    rcases Option.some.inj present with rfl
    rw [← valued]
    exact propertyValues_ok_iff.mp values
  have names : ∀ resolved, resolve catalog tag interface = .ok resolved →
      resolved.properties.keys = template.properties.keys := by
    intro resolved run
    exact (Related.map_eq (fun _ _ own => own.1) (listed resolved run)).symm
  have failed : ∀ fault, resolve catalog tag interface = .error fault ↔
      ∃ name, template.firstMissing? object = some name ∧ fault = .missingProperty tag name := by
    intro fault
    have same : resolve catalog tag interface = .error fault ↔
        propertyValues tag interface.properties template.properties = .error fault := by
      rw [resolve_eq known]
      cases propertyValues tag interface.properties template.properties <;> simp [Except.map]
    rw [same, propertyValues_error_iff, valued, Template.firstMissing?]
    simp [Option.map_eq_some_iff]
  constructor
  · constructor
    · rintro ⟨resolved, run⟩ entry mem
      rcases Related.exists_right (listed resolved run) mem with ⟨value, -, -, own⟩
      rw [own]
      rfl
    · intro all
      cases run : resolve catalog tag interface with
      | ok resolved => exact ⟨resolved, rfl⟩
      | error fault =>
          rcases (failed fault).mp run with ⟨name, missing, -⟩
          rcases Option.map_eq_some_iff.mp missing with ⟨entry, first, -⟩
          have present := all entry (List.mem_of_find?_eq_some first)
          have absent := List.find?_some first
          rw [Option.isNone_iff_eq_none] at absent
          rw [absent] at present
          cases present
  · exact fun resolved run => ⟨names resolved run, distinct⟩
  · intro resolved run entry mem
    rcases Related.exists_right (listed resolved run) mem with ⟨value, valueMem, named, own⟩
    rw [own]
    apply OrderedMap.get?_eq_some_of_mem
    · exact (names resolved run).symm ▸ distinct
    · exact named ▸ valueMem
  · exact failed

end Joining

end ResolvedInterface

/-- For every known catalog and every object in which the check of an interface finds nothing wrong,
the interface that is decoded from the object is resolved exactly if every property of its
template has a value: the one that the object gives under the name of the property, where the
template and the description count as no properties, or else the default. It then has the declared
names in their order with these values. Otherwise the fault names the first property without a
value. -/
theorem Template.resolves_of_clean {catalog : Catalog} (known : catalog.Known) {object : Value}
    (distinct : object.DistinctNames) {path : Path} {tag : String}
    (clean : Clean (Validation.interface catalog path tag object)) {name : String}
    (named : object.content.get? "template" = some (.string name)) {template : Template}
    (present : catalog.templates.get? name = some template) :
    ∃ interface, Interface.decode (.ofValue object) = .ok interface ∧
      template.Resolves object tag (ResolvedInterface.resolve catalog tag interface) := by
  have keeps := Validation.interface_keeps distinct clean
  refine ⟨_, Validation.interface_converts distinct clean, ?_⟩
  have sound := known.sound _ (OrderedMap.mem_of_get?_eq_some present)
  refine ResolvedInterface.resolves keeps ?_ sound.distinct tag
  have same := keeps.template
  rw [named, Option.some.injEq, Value.string.injEq] at same
  rwa [← same]

/-- A catalog of lamps, whose properties are a description and a color. -/
def lampsValue : Value :=
  let description : Value := .object [("type", .string "string"), ("default", .string "none")]
  let color : Value := .object [("type", .string "string")]
  .object [("templates", .object [("lamp", .object [
    ("class", .string "LAMP"), ("descriptor", .string "LAMP"), ("length", .string "9"),
    ("properties", .object [("description", description), ("color", color)]),
    ("fields", .array [])])])]

/-- A lamp that gives both properties. -/
def lampValue : Value :=
  .object [("template", .string "lamp"), ("description", .string "desk"), ("color", .string "red")]

theorem exists_lamp : ∃ catalog template interface resolved,
    Catalog.read lampsValue.compact = .ok catalog ∧
      Clean (Validation.interface catalog ["lamp0"] "lamp0" lampValue) ∧
      catalog.templates.get? "lamp" = some template ∧
      template.properties.keys = ["description", "color"] ∧
      Interface.decode (.ofValue lampValue) = .ok interface ∧
      ResolvedInterface.resolve catalog "lamp0" interface = .ok resolved ∧
      Lookup.text? resolved.properties "description" = some "none" := by
  have success : (Catalog.read lampsValue.compact).toOption.any (fun catalog =>
      (Interface.decode (.ofValue lampValue)).toOption.any fun interface =>
        (ResolvedInterface.resolve catalog "lamp0" interface).toOption.any fun resolved =>
          Validation.settle [] (Validation.interface catalog ["lamp0"] "lamp0" lampValue) = [] &&
            (catalog.templates.get? "lamp").any (fun template =>
              template.properties.keys = ["description", "color"]) &&
            Lookup.text? resolved.properties "description" = some "none") = true := by
    decide +kernel
  simp only [any_toOption_iff, Bool.and_eq_true, decide_eq_true_eq] at success
  rcases success with ⟨catalog, found, interface, decoded, resolved, run, ⟨settled, template⟩,
    default⟩
  rcases (Option.any_eq_true _ _).mp template with ⟨template, known, declared⟩
  exact ⟨catalog, template, interface, resolved, found, Validation.clean_of_settle settled, known,
    of_decide_eq_true declared, decoded, run, default⟩

/-- A description that the catalog declares and the object gives is not what is resolved. -/
theorem description_of_lampValue : ∃ catalog template interface resolved,
    Catalog.read lampsValue.compact = .ok catalog ∧
      Clean (Validation.interface catalog ["lamp0"] "lamp0" lampValue) ∧
      catalog.templates.get? "lamp" = some template ∧
      template.properties.keys = ["description", "color"] ∧
      Interface.decode (.ofValue lampValue) = .ok interface ∧
      ResolvedInterface.resolve catalog "lamp0" interface = .ok resolved ∧
      lampValue.content.get? "description" = some (.string "desk") ∧
      resolved.properties.get? "description" ≠ some (.string "desk") := by
  rcases exists_lamp with
    ⟨catalog, template, interface, resolved, found, clean, known, declared, decoded, run, default⟩
  refine ⟨catalog, template, interface, resolved, found, clean, known, declared, decoded, run,
    rfl, ?_⟩
  intro given
  rw [Lookup.text?, given] at default
  exact absurd default (by decide)

/-- The color of the lamp is resolved from the object, and its description from the catalog. -/
theorem Template.resolves_lampValue : ∃ catalog template interface,
    Catalog.read lampsValue.compact = .ok catalog ∧ lampValue.DistinctNames ∧
      Clean (Validation.interface catalog ["lamp0"] "lamp0" lampValue) ∧
      lampValue.content.get? "template" = some (.string "lamp") ∧
      catalog.templates.get? "lamp" = some template ∧
      Interface.decode (.ofValue lampValue) = .ok interface ∧
      template.Resolves lampValue "lamp0" (ResolvedInterface.resolve catalog "lamp0" interface) := by
  rcases exists_lamp with ⟨catalog, template, -, -, found, clean, known, -⟩
  have distinct : lampValue.DistinctNames := by
    simp [lampValue, Value.DistinctNames, Value.membersDistinct]
  have named : lampValue.content.get? "template" = some (.string "lamp") := rfl
  rcases resolves_of_clean (.read found) distinct clean named known with
    ⟨interface, decoded, resolves⟩
  exact ⟨catalog, template, interface, found, distinct, clean, named, known, decoded, resolves⟩

end UsbDescriptors
