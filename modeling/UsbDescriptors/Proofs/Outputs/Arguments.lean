import UsbDescriptors.Proofs.Expressions.Values
import UsbDescriptors.Proofs.Json.Numbers
import UsbDescriptors.Proofs.Runs.Evaluations
import UsbDescriptors.ReportTable

/-!
# Texts of arguments

The built-in templates make the texts among their arguments in few ways: the number of the
interface, the size of its report descriptor, its protocol, the flags of an array, and properties
that are numbers or truth values. Only the first two name a symbol that is declared in the same run;
the other texts start like none of the symbols of a run, whatever values a document gives.
-/

namespace UsbDescriptors

open Json (Value)
open Expression (IsKey referTo)

/-- A text that starts like no symbol of an interface number, an endpoint or a string, and like no
size. -/
def StartsLikeNoSymbol (text : String) : Prop :=
  ∀ c ∈ ['I', 'E', 'S', 's'], text.toList.head? ≠ some c

instance (text : String) : Decidable (StartsLikeNoSymbol text) :=
  List.decidableBAll _ _

theorem startsLikeNoSymbol_append {front rest : String} (nonempty : front.toList ≠ [])
    (other : StartsLikeNoSymbol front) : StartsLikeNoSymbol (front ++ rest) := by
  intro c mem
  rw [String.toList_append, List.head?_append_of_ne_nil _ nonempty]
  exact other c mem

theorem startsLikeNoSymbol_plainText {value : Value}
    (scalar : PropertyKind.scalar.accepts value = true) : StartsLikeNoSymbol value.plainText := by
  cases value with
  | boolean value => cases value <;> decide
  | number number =>
      have letters : ['I', 'E', 'S', 's'].all (fun c => !isNumberChar c) = true := by decide
      intro c mem starts
      have inside : c ∈ (Value.number number).plainText.toList := List.mem_of_mem_head? starts
      simp only [Value.plainText, Value.compact, String.toList_ofList, Value.write] at inside
      have numeric := number.isNumberChar_write c inside
      have letter := List.all_eq_true.mp letters c mem
      simp [numeric] at letter
  | _ => cases scalar

theorem startsLikeNoSymbol_flagMask {items : List Value} :
    StartsLikeNoSymbol (flagMask "DFU_ATTR_" items) := by
  unfold flagMask
  cases items with
  | nil => exact (by decide : StartsLikeNoSymbol "0")
  | cons first rest =>
      have start : ∃ more, joined " | " ((itemIdentifiers (first :: rest)).map
          fun id => "DFU_ATTR_" ++ id) = "DFU_ATTR_" ++ more := by
        simp only [itemIdentifiers, List.map_cons, joined]
        exact ⟨_, String.intercalate_cons_append⟩
      rcases start with ⟨more, written⟩
      rw [written]
      exact startsLikeNoSymbol_append (by decide) (by decide)

/-- The ways in which the texts of a template are made. -/
def Template.MakesText (template : Template) (expression : String) : Prop :=
  expression = referTo "itfnum" ∨
  (template.reports.isSome = true ∧
    expression = "sizeof(desc_hid_report_" ++ referTo "tag.id" ++ ")") ∨
  expression = "HID_ITF_PROTOCOL_" ++ referTo "protocol.id" ∨
  (∃ property ∈ template.properties, property.2.kind = .scalar ∧ expression = referTo property.1) ∨
  ∃ property ∈ template.properties, property.2.kind = .array ∧
    property.2.mask = some "DFU_ATTR_" ∧ expression = referTo (property.1 ++ ".mask")

instance (template : Template) (expression : String) :
    Decidable (template.MakesText expression) :=
  inferInstanceAs (Decidable (_ ∨ _))

namespace FieldSource

/-- A source is known if it gives no value as it is, and texts in the known ways only. -/
def Known (template : Template) : FieldSource → Prop
  | .literal _ => False
  | .endpoint | .string _ => True
  | .text expression => template.MakesText expression

instance (template : Template) : (source : FieldSource) → Decidable (source.Known template)
  | .literal _ => inferInstanceAs (Decidable False)
  | .endpoint => inferInstanceAs (Decidable True)
  | .string _ => inferInstanceAs (Decidable True)
  | .text expression => inferInstanceAs (Decidable (template.MakesText expression))

end FieldSource

/-- A template whose variables are distinct names that can be referred to, and whose fields have
known sources. -/
@[mk_iff]
structure Template.Known (template : Template) : Prop where
  fields : ∀ field ∈ template.fields, field.source.Known template
  areKeys : ∀ name ∈ template.variables, IsKey name
  distinct : template.variables.Nodup
  properties : template.properties.keys.Nodup

instance (template : Template) : Decidable template.Known :=
  decidable_of_iff' _ template.known_iff

theorem Catalog.known_builtin : ∀ entry ∈ builtin.templates, entry.2.Known := by
  decide +kernel

namespace ResolvedInterface

variable {interface : ResolvedInterface} {device configuration name value : String}

theorem substitute_variable (kinds : interface.HasKinds) (known : interface.template.Known)
    (mem : (name, value) ∈
      interface.ownVariables device configuration ++ interface.propertyVariables) :
    substitute (interface.context device configuration) (referTo name) = .ok value := by
  have isVariable : name ∈ interface.template.variables := by
    rw [← keys_variables kinds device configuration]
    exact List.mem_map_of_mem mem
  exact substitute_referTo (known.areKeys name isVariable) (get?_context kinds known.distinct mem)

/-- Every declared property has a value of its kind. -/
theorem exists_value (kinds : interface.HasKinds) {property : String × Property}
    (mem : property ∈ interface.template.properties) :
    ∃ value, (property.1, value) ∈ interface.properties ∧
      property.2.kind.accepts value = true := by
  rcases Related.exists_right kinds mem with ⟨⟨_, value⟩, valueMem, rfl, accepted⟩
  exact ⟨value, valueMem, accepted⟩

/-- What a value of a property defines are variables of the interface. -/
theorem mem_propertyVariables {property : String × Property} {given : Value}
    {entry : String × String} (distinct : interface.template.properties.keys.Nodup)
    (mem : property ∈ interface.template.properties)
    (givenMem : (property.1, given) ∈ interface.properties)
    (derived : entry ∈ (property.1, given.plainText) ::
      Context.derived property.1 property.2.mask given) :
    entry ∈ interface.propertyVariables := by
  have declared : interface.template.properties.get? property.1 = some property.2 :=
    OrderedMap.get?_eq_some_of_mem distinct mem
  refine List.mem_flatMap.mpr ⟨_, givenMem, ?_⟩
  rw [declared]
  exact derived

/-- A text argument of a known template names the interface number, or the size of the report
descriptor of the interface if the template has reports, or starts like no symbol. -/
theorem text_of_makesText {expression text : String} (kinds : interface.HasKinds)
    (known : interface.template.Known) (made : interface.template.MakesText expression)
    (filled : substitute (interface.context device configuration) expression = .ok text) :
    text = interfaceSymbol interface.tag ∨
      (interface.template.reports.isSome = true ∧
        text = "sizeof(" ++ ReportTable.symbolOf interface.tag ++ ")") ∨
      StartsLikeNoSymbol text := by
  rcases made with rfl | ⟨reports, rfl⟩ | rfl | ⟨property, mem, scalar, rfl⟩ |
    ⟨property, mem, array, mask, rfl⟩
  · have mem : ("itfnum", interfaceSymbol interface.tag) ∈
        interface.ownVariables device configuration ++ interface.propertyVariables := by
      simp [ownVariables]
    rw [substitute_variable kinds known mem] at filled
    exact Or.inl (Except.ok.inj filled).symm
  · have mem : ("tag.id", identifier interface.tag) ∈
        interface.ownVariables device configuration ++ interface.propertyVariables := by
      simp [ownVariables]
    have whole := @substitute_between _ "sizeof(desc_hid_report_" _ ")" _ (by decide) (by decide)
      (known.areKeys "tag.id" (by simp [Template.variables])) (get?_context kinds known.distinct mem)
    have front : "sizeof(" ++ "desc_hid_report_" = "sizeof(desc_hid_report_" := by decide
    have named : "sizeof(" ++ ReportTable.symbolOf interface.tag =
        "sizeof(desc_hid_report_" ++ identifier interface.tag :=
      String.append_assoc.symm.trans (congrArg (· ++ identifier interface.tag) front)
    refine Or.inr (Or.inl ⟨reports, ?_⟩)
    rw [named]
    exact Except.ok.inj (filled.symm.trans whole)
  · rcases prefix_of_substitute (by decide) filled with ⟨rest, rfl⟩
    exact Or.inr (Or.inr (startsLikeNoSymbol_append (by decide) (by decide)))
  · rcases exists_value kinds mem with ⟨value, valueMem, accepted⟩
    have entry := mem_propertyVariables known.properties mem valueMem List.mem_cons_self
    rw [substitute_variable kinds known (List.mem_append_right _ entry)] at filled
    rw [scalar] at accepted
    rw [← Except.ok.inj filled]
    exact Or.inr (Or.inr (startsLikeNoSymbol_plainText accepted))
  · rcases exists_value kinds mem with ⟨value, valueMem, accepted⟩
    rw [array] at accepted
    cases value with
    | array items =>
        have entry : (property.1 ++ ".mask", flagMask "DFU_ATTR_" items) ∈
            interface.propertyVariables := by
          apply mem_propertyVariables known.properties mem valueMem
          simp [Context.derived, mask]
        rw [substitute_variable kinds known (List.mem_append_right _ entry)] at filled
        rw [← Except.ok.inj filled]
        exact Or.inr (Or.inr startsLikeNoSymbol_flagMask)
    | _ => cases accepted

end ResolvedInterface

end UsbDescriptors
