import UsbDescriptors.Proofs.Document.Kinds
import UsbDescriptors.Proofs.Document.Tags
import UsbDescriptors.Proofs.Runs.Evaluations
import UsbDescriptors.Proofs.Strings.Symbols

/-!
# Strings of a document

Which strings a document asks for, in the order in which a run adds them: those of a device, and for
each of its configurations the description and the strings of the interfaces. The strings of an
interface follow from the fields of its template, a list giving one string for every item. If the
string fields of every template are named by different words, all strings of a document have
distinct symbols.
-/

namespace UsbDescriptors

/-- The strings that an argument asks for, each with the property that it gives. -/
def Argument.stringsOf : Argument → List (String × Option String)
  | .strings first rest => first :: rest
  | .text _ | .endpoint _ _ => []

/-- The name and the expression of a field that gives strings. -/
def Field.string? (field : Field) : Option (String × String) :=
  match field.source with
  | .string expression => some (field.name, expression)
  | .literal _ | .endpoint | .text _ => none

/-- The names and the expressions of the string fields of a template. -/
def Template.strings (template : Template) : List (String × String) :=
  template.fields.filterMap Field.string?

/-- A template whose string fields are named by different words. -/
@[mk_iff]
structure Template.StringsApart (template : Template) : Prop where
  words : ∀ string ∈ template.strings, IsWord string.1
  distinct : (template.strings.map fun string => identifier string.1).Nodup

instance (template : Template) : Decidable template.StringsApart :=
  decidable_of_iff' _ template.stringsApart_iff

def Catalog.StringsApart (catalog : Catalog) : Prop :=
  ∀ entry ∈ catalog.templates, entry.2.StringsApart

instance (catalog : Catalog) : Decidable catalog.StringsApart :=
  inferInstanceAs (Decidable (∀ entry ∈ catalog.templates, entry.2.StringsApart))

theorem Catalog.stringsApart_builtin : builtin.StringsApart := by
  decide +kernel

namespace ResolvedInterface

/-- The strings that a string field gives in a context. -/
def fieldStrings (context : Context) (string : String × String) :
    List (String × Option String) :=
  match substitute context string.2 with
  | .ok text => (stringArgument string.1 text).stringsOf
  | .error _ => []

/-- The strings of an interface of a configuration of a device. -/
def stringGroup (interface : ResolvedInterface) (device configuration : String) :
    StringGroup where
  owner := interface.tag
  strings := interface.template.strings.flatMap
    (fieldStrings (interface.context device configuration))

variable {interface : ResolvedInterface} {context : Context} {string : String × String}

theorem names_numberedStrings {name : String} {items : List String} :
    (numberedStrings name items).map Prod.fst = (List.range items.length).map (itemName name) := by
  rw [numberedStrings, List.map_map, List.range_eq_range', ← List.zipIdx_map_snd 0 items,
    List.map_map]
  rfl

theorem names_stringArgument {name text : String} :
    ∃ count, (stringArgument name text).stringsOf.map Prod.fst =
      (List.range count).map (itemName name) := by
  unfold stringArgument
  split
  · exact ⟨1, rfl⟩
  · next items _ =>
    split
    · exact ⟨1, rfl⟩
    · next first rest numbered =>
      refine ⟨items.length, ?_⟩
      rw [← names_numberedStrings, numbered]
      rfl

/-- The properties of the strings of a field are numbered behind its name. -/
theorem names_fieldStrings : ∃ count, (fieldStrings context string).map Prod.fst =
    (List.range count).map (itemName string.1) := by
  unfold fieldStrings
  split
  · exact names_stringArgument
  · exact ⟨0, rfl⟩

theorem name_of_mem_fieldStrings {given : String × Option String}
    (mem : given ∈ fieldStrings context string) : ∃ index, given.1 = itemName string.1 index := by
  rcases @names_fieldStrings context string with ⟨count, names⟩
  have named : given.1 ∈ (fieldStrings context string).map Prod.fst := List.mem_map_of_mem mem
  rw [names] at named
  rcases List.mem_map.mp named with ⟨index, -, same⟩
  exact ⟨index, same.symm⟩

theorem nodup_fieldStrings :
    ((fieldStrings context string).map fun given => identifier given.1).Nodup := by
  rcases @names_fieldStrings context string with ⟨count, names⟩
  have identifiers : (fieldStrings context string).map (fun given => identifier given.1) =
      (List.range count).map (numberName string.1) := by
    have composed := congrArg (List.map identifier) names
    rw [List.map_map, List.map_map] at composed
    exact composed.trans (List.map_congr_left fun index _ => identifier_itemName)
  rw [identifiers]
  exact List.nodup_range.map fun _ _ => numberName_inj

/-- The strings of an interface whose string fields are named by different words are apart. -/
theorem apart_stringGroup (apart : interface.template.StringsApart)
    (device configuration : String) : (interface.stringGroup device configuration).Apart := by
  constructor
  · intro given mem
    rcases List.mem_flatMap.mp mem with ⟨string, stringMem, givenMem⟩
    rcases name_of_mem_fieldStrings givenMem with ⟨index, name⟩
    exact ⟨string.1, index, apart.words string stringMem, name⟩
  · simp only [stringGroup, List.map_flatMap, List.nodup_flatMap]
    refine ⟨fun string _ => nodup_fieldStrings, ?_⟩
    refine (List.pairwise_map.mp apart.distinct).imp_of_mem ?_
    intro string other mem otherMem different id inString inOther
    rcases List.mem_map.mp inString with ⟨given, givenMem, rfl⟩
    rcases List.mem_map.mp inOther with ⟨otherGiven, otherGivenMem, same⟩
    rcases name_of_mem_fieldStrings givenMem with ⟨index, name⟩
    rcases name_of_mem_fieldStrings otherGivenMem with ⟨position, otherName⟩
    rw [name, otherName, identifier_itemName, identifier_itemName] at same
    have word := apart.words string mem
    have otherWord := apart.words other otherMem
    exact different (otherWord.numberName_inj word same).symm

/-- The strings of the argument that a field makes are those of the field. -/
theorem stringsOf_argument {field : Field} {argument : Argument}
    (found : interface.argument context field = .ok argument) :
    argument.stringsOf = field.string?.toList.flatMap (fieldStrings context) := by
  unfold Field.string?
  rcases argument_ok found with ⟨value, source, rfl⟩ | ⟨direction, source, -, rfl⟩ |
    ⟨expression, text, source, filled, rfl⟩ | ⟨expression, text, source, -, rfl⟩
  · simp [source, Argument.stringsOf]
  · simp [source, Argument.stringsOf]
  · simp [source, fieldStrings, filled]
  · simp [source, Argument.stringsOf]

theorem mem_stringGroup {field : Field} {argument : Argument} {device configuration : String}
    (fieldMem : field ∈ interface.template.fields)
    (found : interface.argument (interface.context device configuration) field = .ok argument)
    {given : String × Option String} (mem : given ∈ argument.stringsOf) :
    given ∈ (interface.stringGroup device configuration).strings := by
  rw [stringsOf_argument found] at mem
  rcases List.mem_flatMap.mp mem with ⟨own, ownMem, givenMem⟩
  refine List.mem_flatMap.mpr ⟨own, List.mem_filterMap.mpr ⟨field, fieldMem, ?_⟩, givenMem⟩
  exact Option.mem_toList.mp ownMem

/-- A text always gives a string. -/
theorem stringArgument_eq (name text : String) :
    ∃ first rest, stringArgument name text = .strings first rest := by
  unfold stringArgument
  split
  · exact ⟨_, _, rfl⟩
  · split
    · exact ⟨_, _, rfl⟩
    · exact ⟨_, _, rfl⟩

end ResolvedInterface

section Parts

variable (catalog : Catalog)

/-- The strings of an interface of a document, none if it does not resolve. -/
def Interface.stringGroup (device configuration : String) (entry : String × Interface) :
    StringGroup where
  owner := entry.1
  strings :=
    match ResolvedInterface.resolve catalog entry.1 entry.2 with
    | .ok resolved => (resolved.stringGroup device configuration).strings
    | .error _ => []

/-- The strings of a configuration: its description, and those of its interfaces. -/
def Configuration.stringGroups (device : String) (entry : String × Configuration) :
    List StringGroup :=
  ⟨entry.1, [("description", entry.2.description)]⟩ ::
    entry.2.interfaces.map (Interface.stringGroup catalog device entry.1)

/-- The strings of a device: its own, and those of its configurations. -/
def Device.stringGroups (entry : String × Device) : List StringGroup :=
  ⟨entry.1, [("manufacturer", some entry.2.manufacturer), ("product", some entry.2.product),
      ("serial", some entry.2.serial)]⟩ ::
    entry.2.configurations.flatMap (Configuration.stringGroups catalog entry.1)

end Parts

namespace Document

def stringGroups (document : Document) (catalog : Catalog) : List StringGroup :=
  document.devices.flatMap (Device.stringGroups catalog)

/-- The strings of a document in the order in which a run adds them. -/
def stringRequests (document : Document) (catalog : Catalog) : List StringRequest :=
  (document.stringGroups catalog).flatMap StringGroup.requests

variable {document : Document} {catalog : Catalog}

section Members

variable {device : String × Device} {configuration : String × Configuration}

theorem device_group_mem (deviceMem : device ∈ document.devices) {group : StringGroup}
    (mem : group ∈ Device.stringGroups catalog device) : group ∈ document.stringGroups catalog :=
  List.mem_flatMap.mpr ⟨device, deviceMem, mem⟩

theorem configuration_group_mem (deviceMem : device ∈ document.devices)
    (configurationMem : configuration ∈ device.2.configurations) {group : StringGroup}
    (mem : group ∈ Configuration.stringGroups catalog device.1 configuration) :
    group ∈ document.stringGroups catalog :=
  device_group_mem deviceMem
    (List.mem_cons_of_mem _ (List.mem_flatMap.mpr ⟨configuration, configurationMem, mem⟩))

theorem interface_group_mem (deviceMem : device ∈ document.devices)
    (configurationMem : configuration ∈ device.2.configurations) {entry : String × Interface}
    (mem : entry ∈ configuration.2.interfaces) :
    Interface.stringGroup catalog device.1 configuration.1 entry ∈
      document.stringGroups catalog :=
  configuration_group_mem deviceMem configurationMem
    (List.mem_cons_of_mem _ (List.mem_map_of_mem mem))

theorem request_mem {group : StringGroup} (groupMem : group ∈ document.stringGroups catalog)
    {request : StringRequest} (mem : request ∈ group.requests) :
    request ∈ document.stringRequests catalog :=
  List.mem_flatMap.mpr ⟨group, groupMem, mem⟩

end Members

theorem owners_sublist :
    ((document.stringGroups catalog).map StringGroup.owner).Sublist document.tags := by
  have owners : (document.stringGroups catalog).map StringGroup.owner =
      document.devices.flatMap fun device =>
        device.1 :: device.2.configurations.flatMap fun configuration =>
          configuration.1 :: configuration.2.interfaces.map Prod.fst := by
    simp [stringGroups, Device.stringGroups, Configuration.stringGroups, Interface.stringGroup,
      List.map_flatMap, Function.comp_def]
  rw [owners]
  exact List.sublist_append_left _ _

theorem apart_interface (apart : catalog.StringsApart) (device configuration : String)
    (entry : String × Interface) :
    (Interface.stringGroup catalog device configuration entry).Apart := by
  cases resolved : ResolvedInterface.resolve catalog entry.1 entry.2 with
  | error fault =>
      have nothing : (Interface.stringGroup catalog device configuration entry).strings = [] := by
        simp only [Interface.stringGroup, resolved]
      exact ⟨by simp [nothing], by simp [nothing]⟩
  | ok interface =>
      rcases ResolvedInterface.resolve_ok resolved with ⟨-, -, -, known, -⟩
      have own := interface.apart_stringGroup (apart _ (OrderedMap.mem_of_get?_eq_some known))
        device configuration
      have same : (Interface.stringGroup catalog device configuration entry).strings =
          (interface.stringGroup device configuration).strings := by
        simp only [Interface.stringGroup, resolved]
      exact ⟨by rw [same]; exact own.named, by rw [same]; exact own.distinct⟩

theorem apart_stringGroups (apart : catalog.StringsApart) :
    ∀ group ∈ document.stringGroups catalog, group.Apart := by
  have words : ∀ name ∈ ["manufacturer", "product", "serial", "description"], IsWord name := by
    decide
  intro group mem
  rcases List.mem_flatMap.mp mem with ⟨device, -, inDevice⟩
  rcases List.mem_cons.mp inDevice with rfl | inConfigurations
  · have distinct : (["manufacturer", "product", "serial"].map identifier).Nodup := by decide
    refine ⟨?_, distinct⟩
    intro string stringMem
    refine ⟨string.1, 0, words _ ?_, rfl⟩
    simp only [List.mem_cons, List.not_mem_nil, or_false] at stringMem
    rcases stringMem with rfl | rfl | rfl <;> simp
  · rcases List.mem_flatMap.mp inConfigurations with ⟨configuration, -, inConfiguration⟩
    rcases List.mem_cons.mp inConfiguration with rfl | inInterfaces
    · refine ⟨?_, List.nodup_singleton _⟩
      intro string stringMem
      rcases List.mem_singleton.mp stringMem with rfl
      exact ⟨"description", 0, words _ (by simp), rfl⟩
    · rcases List.mem_map.mp inInterfaces with ⟨entry, -, rfl⟩
      exact apart_interface apart _ _ entry

/-- The strings of a document with distinct tags have distinct symbols. -/
theorem nodup_stringRequests (distinct : (document.tags.map identifier).Nodup)
    (apart : catalog.StringsApart) :
    ((document.stringRequests catalog).map StringRequest.symbol).Nodup := by
  apply StringGroup.nodup_symbols _ (apart_stringGroups apart)
  have owners := ((@owners_sublist document catalog).map identifier).nodup distinct
  rwa [List.map_map] at owners

end Document

end UsbDescriptors
