import UsbDescriptors.Json.Printer
import UsbDescriptors.Proofs.Catalog.Reading

/-!
# Undefined variables

Whether an expression can be filled in for an interface depends on the template of the interface
alone. The values of a resolved interface are of the kinds that its template says, so its context
defines the variables of the template and no others, and the first reference to something else is
the one at which substitution fails. The values that a document gives change the text that is put
in, and never what is undefined.
-/

namespace UsbDescriptors

open Json (Value)

/-- The first variable that an expression refers to and that the interfaces of a template do not
have. -/
def Template.undefined? (template : Template) (expression : String) : Option String :=
  (Expression.keys expression).find? fun key => key ∉ template.variables

theorem substitute_error_iff {context : Context} {expression key : String} :
    substitute context expression = .error (.undefinedVariable key expression) ↔
      (Expression.keys expression).find? (fun key => !context.contains key) = some key := by
  refine Iff.trans ?_ Context.fill_error_iff
  unfold substitute
  cases context.fill (Expression.pieces expression.toList) <;> simp

namespace ResolvedInterface

variable {interface : ResolvedInterface} {device configuration expression : String}

theorem find?_context (kinds : interface.HasKinds) :
    (Expression.keys expression).find?
        (fun key => !(interface.context device configuration).contains key) =
      interface.template.undefined? expression := by
  have defined : ∀ key, (!(interface.context device configuration).contains key) =
      decide (key ∉ interface.template.variables) := by
    intro key
    rw [Bool.eq_iff_iff, decide_eq_true_iff, Bool.not_eq_true', ← Bool.not_eq_true,
      OrderedMap.contains_iff_mem_keys, mem_keys_context kinds]
  simp only [defined, Template.undefined?]

/-- An expression that refers to the variables of the template only is always filled in. -/
theorem substitute_of_defined (kinds : interface.HasKinds)
    (defined : interface.template.undefined? expression = none) :
    ∃ text, substitute (interface.context device configuration) expression = .ok text := by
  refine exists_substitute kinds fun key mem => ?_
  simpa using List.find?_eq_none.mp defined key mem

/-- Any other expression fails at the first variable that the template does not define. -/
theorem substitute_of_undefined {key : String} (kinds : interface.HasKinds)
    (undefined : interface.template.undefined? expression = some key) :
    substitute (interface.context device configuration) expression =
      .error (.undefinedVariable key expression) :=
  substitute_error_iff.mpr ((find?_context kinds).trans undefined)

/-- Wherever the two interfaces stand, every expression is filled in for both of them, or it fails
for both at the same variable, the first one that the template does not define. -/
def FillsAlike (interface other : ResolvedInterface) : Prop :=
  ∀ device configuration otherDevice otherConfiguration expression,
    (∃ text otherText,
      substitute (interface.context device configuration) expression = .ok text ∧
        substitute (other.context otherDevice otherConfiguration) expression = .ok otherText) ∨
      ∃ key, interface.template.undefined? expression = some key ∧
        substitute (interface.context device configuration) expression =
          .error (.undefinedVariable key expression) ∧
        substitute (other.context otherDevice otherConfiguration) expression =
          .error (.undefinedVariable key expression)

theorem fillsAlike_of_template {other : ResolvedInterface} (kinds : interface.HasKinds)
    (otherKinds : other.HasKinds) (same : interface.template = other.template) :
    interface.FillsAlike other := by
  intro device configuration otherDevice otherConfiguration expression
  cases undefined : interface.template.undefined? expression with
  | none =>
      rcases substitute_of_defined kinds undefined with ⟨text, filled⟩
      rw [same] at undefined
      rcases substitute_of_defined otherKinds undefined with ⟨otherText, otherFilled⟩
      exact Or.inl ⟨text, otherText, filled, otherFilled⟩
  | some key =>
      have fails := @substitute_of_undefined _ device configuration _ _ kinds undefined
      rw [same] at undefined
      exact Or.inr ⟨key, rfl, fails, substitute_of_undefined otherKinds undefined⟩

end ResolvedInterface

theorem Document.Accepted.hasKinds {catalog : Catalog} {document : Document}
    (accepted : document.Accepted catalog) (known : catalog.Known) {entry : String × Interface}
    (mem : entry ∈ document.allInterfaces) {resolved : ResolvedInterface}
    (run : ResolvedInterface.resolve catalog entry.1 entry.2 = .ok resolved) :
    resolved.HasKinds :=
  ResolvedInterface.hasKinds_of_resolve known.sound (accepted.interfaces entry mem).fitsTemplate run

/-- Two interfaces with one template, of any two accepted documents, have values of the kinds of
their properties, and what is undefined for one of them is undefined for the other. -/
theorem Catalog.Known.fillsAlike {catalog : Catalog} (known : catalog.Known)
    {first second : Document} (accepted : first.Accepted catalog)
    (otherAccepted : second.Accepted catalog) {entry other : String × Interface}
    (mem : entry ∈ first.allInterfaces) (otherMem : other ∈ second.allInterfaces)
    (sameTemplate : entry.2.template = other.2.template) {resolved again : ResolvedInterface}
    (run : ResolvedInterface.resolve catalog entry.1 entry.2 = .ok resolved)
    (otherRun : ResolvedInterface.resolve catalog other.1 other.2 = .ok again) :
    resolved.HasKinds ∧ again.HasKinds ∧ resolved.FillsAlike again := by
  have kinds := accepted.hasKinds known mem run
  have otherKinds := otherAccepted.hasKinds known otherMem otherRun
  have same : resolved.template = again.template := by
    rcases ResolvedInterface.resolve_ok run with ⟨-, -, -, present, -⟩
    rcases ResolvedInterface.resolve_ok otherRun with ⟨-, -, -, otherPresent, -⟩
    rw [sameTemplate, otherPresent] at present
    exact (Option.some.inj present).symm
  exact ⟨kinds, otherKinds, ResolvedInterface.fillsAlike_of_template kinds otherKinds same⟩

/-- A catalog of lights, which have a name. -/
def lightsValue : Value :=
  let name : Value := .object [("type", .string "string"), ("default", .string "led")]
  .object [("templates", .object [("led", .object [
    ("class", .string "LED"), ("descriptor", .string "LED"), ("length", .string "9"),
    ("properties", .object [("name", name)]), ("fields", .array [])])])]

/-- A device with a light. -/
def lightValue (given : List (String × Value)) : Value :=
  let interfaces : Value := .object [("led0", .object (("template", .string "led") :: given))]
  let configurations : Value := .object [("config1", .object [("interfaces", interfaces)])]
  .object [("devices", .object [("dev0", .object [
    ("vendor", .number (.integer 1)), ("configurations", configurations)])])]

/-- A light with a name of its own fails where one with the name of the catalog does. -/
theorem Catalog.Known.fillsAlike_lights : ∃ catalog first second entry other resolved again,
    Catalog.read lightsValue.compact = .ok catalog ∧
      Document.ofValue catalog (lightValue [("name", .string "power")]) = .ok first ∧
      Document.ofValue catalog (lightValue []) = .ok second ∧
      entry ∈ first.allInterfaces ∧ other ∈ second.allInterfaces ∧
      entry.2.template = other.2.template ∧
      ResolvedInterface.resolve catalog entry.1 entry.2 = .ok resolved ∧
      ResolvedInterface.resolve catalog other.1 other.2 = .ok again ∧
      resolved.HasKinds ∧ again.HasKinds ∧ resolved.FillsAlike again := by
  have success : (Catalog.read lightsValue.compact).toOption.any (fun catalog =>
      (Document.ofValue catalog (lightValue [("name", .string "power")])).toOption.any fun first =>
        (Document.ofValue catalog (lightValue [])).toOption.any fun second =>
          first.allInterfaces.any fun entry => second.allInterfaces.any fun other =>
            entry.2.template = other.2.template &&
              (ResolvedInterface.resolve catalog entry.1 entry.2).isOk &&
              (ResolvedInterface.resolve catalog other.1 other.2).isOk) = true := by
    decide +kernel
  simp only [any_toOption_iff, List.any_eq_true, Bool.and_eq_true,
    decide_eq_true_eq, outcome_isOk_iff] at success
  rcases success with ⟨catalog, found, first, read, second, otherRead, entry, mem, other, otherMem,
    ⟨same, resolved, run⟩, again, otherRun⟩
  have distinct : (lightValue [("name", .string "power")]).DistinctNames := by
    simp [lightValue, Value.DistinctNames, Value.membersDistinct]
  have otherDistinct : (lightValue []).DistinctNames := by
    simp [lightValue, Value.DistinctNames, Value.membersDistinct]
  exact ⟨catalog, first, second, entry, other, resolved, again, found, read, otherRead, mem,
    otherMem, same, run, otherRun,
    fillsAlike (.read found) (.value distinct read) (.value otherDistinct otherRead) mem otherMem
      same run otherRun⟩

end UsbDescriptors
