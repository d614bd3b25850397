import UsbDescriptors.Catalog.Builtin
import UsbDescriptors.Interface.Evaluated
import UsbDescriptors.Proofs.Expressions.References
import Mathlib.Data.List.Forall2
import Mathlib.Tactic.MkIffOfInductiveProp

/-!
# Variables of templates

Which variables the expressions of an interface can use follows from its template: every property
defines its name, and the further variables that come with a value of its kind. This file compares
them with what the expressions of the template refer to. A template is closed if nothing else is
referred to, and the arguments of a closed template can always be made.
-/

namespace UsbDescriptors

open Json (Value)

/-- The variables that a property of a kind defines. -/
def PropertyKind.variables (name : String) : PropertyKind → List String
  | .string => [name, name ++ ".id", name ++ ".length"]
  | .array => [name, name ++ ".id", name ++ ".length", name ++ ".mask"]
  | .scalar => [name]

/-- The variables of the interfaces of a template. -/
def Template.variables (template : Template) : List String :=
  ["tag", "tag.id", "description", "itfnum", "device", "config"] ++
    template.properties.flatMap fun property => property.2.kind.variables property.1

/-- Values for all properties of a template, each of the kind that its property has. -/
def Property.Kinds (declared : OrderedMap Property) (values : OrderedMap Value) : Prop :=
  List.Forall₂ (fun property value =>
    property.1 = value.1 ∧ property.2.kind.accepts value.2 = true) declared values

def ResolvedInterface.HasKinds (interface : ResolvedInterface) : Prop :=
  Property.Kinds interface.template.properties interface.properties

namespace Context

variable {context : Context} {key : String}

theorem keys_derived {name : String} {kind : PropertyKind} {value : Value} {mask : Option String}
    (accepted : kind.accepts value = true) :
    name :: (derived name mask value).map Prod.fst = kind.variables name := by
  cases kind with
  | string => cases value <;> simp_all [PropertyKind.accepts, PropertyKind.variables, derived]
  | array => cases value <;> simp_all [PropertyKind.accepts, PropertyKind.variables, derived]
  | scalar => cases value <;> simp_all [PropertyKind.accepts, PropertyKind.variables, derived]

theorem mem_keys_insertProperty {name : String} {kind : PropertyKind} {value : Value}
    {mask : Option String} (accepted : kind.accepts value = true) :
    key ∈ (context.insertProperty name value mask).keys ↔
      key ∈ kind.variables name ∨ key ∈ context.keys := by
  rw [insertProperty, OrderedMap.mem_keys_foldl_insert, ← keys_derived accepted]
  rfl

theorem mem_keys_insertProperties {declared : OrderedMap Property} {values : OrderedMap Value}
    (mask : String → Option String) (kinds : Property.Kinds declared values) :
    key ∈ (values.foldl (fun context property =>
        context.insertProperty property.1 property.2 (mask property.1)) context).keys ↔
      key ∈ (declared.flatMap fun property => property.2.kind.variables property.1) ∨
        key ∈ context.keys := by
  induction kinds generalizing context with
  | nil => simp
  | @cons property value _ _ head _ ih =>
      rw [List.foldl_cons, ih, mem_keys_insertProperty head.2, ← head.1, List.flatMap_cons,
        List.mem_append, or_left_comm, or_assoc]

end Context

/-- The context of an interface defines the variables of its template and nothing else, whatever
the values of the properties are. -/
theorem ResolvedInterface.mem_keys_context {interface : ResolvedInterface}
    {device configuration key : String} (kinds : interface.HasKinds) :
    key ∈ (interface.context device configuration).keys ↔ key ∈ interface.template.variables := by
  let mask := fun name => (interface.template.properties.get? name).bind Property.mask
  have defined := @Context.mem_keys_insertProperties (OrderedMap.ofList
    [("tag", interface.tag), ("tag.id", identifier interface.tag),
      ("description", interface.description.getD ""), ("itfnum", interfaceSymbol interface.tag),
      ("device", device), ("config", configuration)]) key _ _ mask kinds
  rw [OrderedMap.mem_keys_ofList, or_comm] at defined
  rw [Template.variables, List.mem_append]
  exact defined

namespace FieldSource

/-- A source is closed if its expression refers to some names only, and if an endpoint has a
direction. -/
def Closed (names : List String) (field : String) : FieldSource → Prop
  | .literal _ => True
  | .endpoint => (Direction.ofFieldName? field).isSome = true
  | .string expression => Expression.DefinedBy names expression
  | .text expression => Expression.DefinedBy names expression

instance (names : List String) (field : String) :
    (source : FieldSource) → Decidable (source.Closed names field)
  | .literal _ => inferInstanceAs (Decidable True)
  | .endpoint => inferInstanceAs (Decidable (_ = true))
  | .string expression => inferInstanceAs (Decidable (Expression.DefinedBy names expression))
  | .text expression => inferInstanceAs (Decidable (Expression.DefinedBy names expression))

end FieldSource

/-- A template whose fields, descriptor and length refer to its own variables only. -/
@[mk_iff]
structure Template.Closed (template : Template) : Prop where
  fields : ∀ field ∈ template.fields, field.source.Closed template.variables field.name
  descriptor : Expression.DefinedBy template.variables template.descriptor
  length : Expression.DefinedBy template.variables template.length

instance (template : Template) : Decidable template.Closed :=
  decidable_of_iff' _ template.closed_iff

def Catalog.Closed (catalog : Catalog) : Prop :=
  ∀ entry ∈ catalog.templates, entry.2.Closed

instance (catalog : Catalog) : Decidable catalog.Closed :=
  inferInstanceAs (Decidable (∀ entry ∈ catalog.templates, entry.2.Closed))

theorem Catalog.closed_builtin : builtin.Closed := by
  decide +kernel

namespace ResolvedInterface

variable {interface : ResolvedInterface}

theorem exists_substitute {device configuration expression : String} (kinds : interface.HasKinds)
    (defined : Expression.DefinedBy interface.template.variables expression) :
    ∃ text, substitute (interface.context device configuration) expression = .ok text := by
  apply substitute_ok_iff.mpr
  intro key mem
  exact (mem_keys_context kinds).mpr (defined key mem)

theorem exists_argument {device configuration : String} {field : Field} (kinds : interface.HasKinds)
    (closed : field.source.Closed interface.template.variables field.name) :
    ∃ argument, interface.argument (interface.context device configuration) field =
      .ok argument := by
  unfold argument
  cases source : field.source with
  | literal value => exact ⟨_, rfl⟩
  | endpoint =>
      rw [source] at closed
      rcases Option.isSome_iff_exists.mp closed with ⟨direction, found⟩
      simp [found]
  | string expression =>
      rw [source] at closed
      rcases @exists_substitute _ device configuration _ kinds closed with ⟨text, filled⟩
      simp [filled, Except.map]
  | text expression =>
      rw [source] at closed
      rcases @exists_substitute _ device configuration _ kinds closed with ⟨text, filled⟩
      simp [filled, Except.map]

end ResolvedInterface

end UsbDescriptors
