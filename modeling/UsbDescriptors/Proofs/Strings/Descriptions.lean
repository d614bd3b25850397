import UsbDescriptors.Proofs.Expressions.Values
import UsbDescriptors.Proofs.Strings.Runs

/-!
# Descriptions of interfaces

The description of an interface is entered as a string of the interface. On its way it is read as a
list if it spells one: then the items are entered instead of it, the first under the symbol of the
description and the others under numbered symbols. A description that spells no list is entered as
it is; the check of the document has seen to it that it fits in a string descriptor. The statement
about runs gives the entries in both cases, and their number.
-/

namespace UsbDescriptors

open Json (Value)
open Expression (referTo)

namespace Interface

/-- The texts that the description of an interface is entered as: the items if it spells a list, one
empty text if this list has none, and otherwise the description alone. -/
def descriptionTexts (interface : Interface) : List String :=
  match listItems? (interface.description.getD "") with
  | none => [interface.description.getD ""]
  | some [] => [""]
  | some (first :: rest) => first :: rest

/-- The description of an interface spells no list. -/
def DescribedPlainly (interface : Interface) : Prop :=
  listItems? (interface.description.getD "") = none

theorem DescribedPlainly.texts {interface : Interface} (plain : interface.DescribedPlainly) :
    interface.descriptionTexts = [interface.description.getD ""] := by
  unfold DescribedPlainly at plain
  simp only [descriptionTexts, plain]

/-- The strings that the description of an interface gives. -/
def descriptionStrings (interface : Interface) : List (String × Option String) :=
  (ResolvedInterface.stringArgument "description" (interface.description.getD "")).stringsOf

theorem texts_descriptionStrings (interface : Interface) :
    interface.descriptionStrings.map (fun string => string.2.getD "") =
      interface.descriptionTexts := by
  unfold descriptionStrings ResolvedInterface.stringArgument descriptionTexts
  cases listItems? (interface.description.getD "") with
  | none => rfl
  | some items =>
      cases items with
      | nil => rfl
      | cons first rest =>
          simp [ResolvedInterface.numberedStrings, Argument.stringsOf, Function.comp_def]

/-- The first string gives the description itself. -/
theorem exists_descriptionStrings (interface : Interface) :
    ∃ value rest, interface.descriptionStrings = ("description", value) :: rest := by
  unfold descriptionStrings ResolvedInterface.stringArgument
  cases listItems? (interface.description.getD "") with
  | none => exact ⟨_, _, rfl⟩
  | some items =>
      cases items with
      | nil => exact ⟨_, _, rfl⟩
      | cons first rest => exact ⟨_, _, rfl⟩

end Interface

/-- Every template has one string field, which refers to the description. -/
def Catalog.DescribesInterfaces (catalog : Catalog) : Prop :=
  ∀ entry ∈ catalog.templates, entry.2.strings = [("description", referTo "description")]

instance (catalog : Catalog) : Decidable catalog.DescribesInterfaces :=
  inferInstanceAs (Decidable (∀ entry ∈ catalog.templates, _ = _))

theorem Catalog.describesInterfaces_builtin : builtin.DescribesInterfaces := by
  decide +kernel

theorem Catalog.name_of_string_builtin {entry : String × Template}
    (known : entry ∈ builtin.templates) {field : Field} (mem : field ∈ entry.2.fields)
    {expression : String} (source : field.source = .string expression) :
    field.name = "description" := by
  have listed : (field.name, expression) ∈ entry.2.strings := by
    refine List.mem_filterMap.mpr ⟨field, mem, ?_⟩
    simp [Field.string?, source]
  rw [describesInterfaces_builtin entry known, List.mem_singleton] at listed
  exact (Prod.mk.inj listed).1

section Strings

variable {entry : String × Interface} {resolved : ResolvedInterface}

theorem Interface.Accepted.substitute_description (accepted : Accepted Catalog.builtin entry)
    (run : ResolvedInterface.resolve Catalog.builtin entry.1 entry.2 = .ok resolved)
    (device configuration : String) :
    substitute (resolved.context device configuration) (referTo "description") =
      .ok (entry.2.description.getD "") := by
  rcases ResolvedInterface.resolve_ok run with ⟨-, -, description, known, -⟩
  have kinds := ResolvedInterface.hasKinds_of_resolve Catalog.sound_builtin accepted.fitsTemplate run
  have distinct := Catalog.distinct_variables_builtin _ (OrderedMap.mem_of_get?_eq_some known)
  rw [← description]
  apply substitute_referTo (by decide)
  apply ResolvedInterface.get?_context kinds distinct
  simp [ResolvedInterface.ownVariables]

/-- The strings of an interface of a built-in template are those of its description. -/
theorem Interface.Accepted.stringGroup (accepted : Accepted Catalog.builtin entry)
    (run : ResolvedInterface.resolve Catalog.builtin entry.1 entry.2 = .ok resolved)
    (device configuration : String) :
    Interface.stringGroup Catalog.builtin device configuration entry =
      ⟨entry.1, entry.2.descriptionStrings⟩ := by
  rcases ResolvedInterface.resolve_ok run with ⟨-, -, -, known, -⟩
  have fields := Catalog.describesInterfaces_builtin _ (OrderedMap.mem_of_get?_eq_some known)
  have filled := accepted.substitute_description run device configuration
  simp [Interface.stringGroup, run, ResolvedInterface.stringGroup, fields,
    ResolvedInterface.fieldStrings, filled, Interface.descriptionStrings]

end Strings

namespace Evaluation

theorem exists_addString {owner : String} {string : String × Option String} {before : Registers}
    (fits : (StringDescriptor.payload? (string.2.getD "")).isSome = true) :
    ∃ id after, addString owner string before = .ok id after := by
  rcases StringTable.exists_add fits with ⟨final, added⟩
  exact ⟨_, _, addString_ok_iff.mpr ⟨final, added, rfl⟩⟩

theorem exists_addStrings {owner : String} {strings : List (String × Option String)}
    {before : Registers}
    (fits : ∀ string ∈ strings, (StringDescriptor.payload? (string.2.getD "")).isSome = true) :
    ∃ after, addStrings owner strings before = .ok () after := by
  induction strings generalizing before with
  | nil => exact ⟨before, rfl⟩
  | cons string rest ih =>
      rcases @exists_addString owner string before (fits _ List.mem_cons_self) with
        ⟨id, middle, first⟩
      rcases @ih middle fun other mem => fits other (List.mem_cons_of_mem _ mem) with
        ⟨after, others⟩
      exact ⟨after, step_bind_iff.mpr ⟨id, middle, first, others⟩⟩

/-- Strings that fit can be entered in all registers. -/
theorem exists_enter {tag : String} {argument : Argument} {before : Registers}
    (fits : ∀ string ∈ argument.stringsOf,
      (StringDescriptor.payload? (string.2.getD "")).isSome = true) :
    ∃ entered after, enter tag argument before = .ok entered after := by
  cases argument with
  | text value => exact ⟨_, _, rfl⟩
  | endpoint direction symbol => exact ⟨_, _, rfl⟩
  | strings first rest =>
      rcases List.forall_mem_cons.mp fits with ⟨firstFits, restFits⟩
      rcases @exists_addString tag first before firstFits with ⟨id, middle, added⟩
      rcases @exists_addStrings tag rest middle restFits with ⟨after, others⟩
      simp only [enter, step_bind_iff, step_pure_iff]
      exact ⟨_, _, id, middle, added, (), after, others, rfl, rfl⟩

/-- The description of an interface can be entered if its texts fit. -/
theorem exists_enterDescription {entry : String × Interface} {resolved : ResolvedInterface}
    {device configuration : String} {before : Registers}
    (accepted : Interface.Accepted Catalog.builtin entry)
    (run : ResolvedInterface.resolve Catalog.builtin entry.1 entry.2 = .ok resolved)
    (fits : ∀ text ∈ entry.2.descriptionTexts,
      (StringDescriptor.payload? text).isSome = true) :
    ∃ entered after, enterFields resolved (resolved.context device configuration)
      [Catalog.Builtin.description] before = .ok entered after := by
  have made : resolved.argument (resolved.context device configuration)
      Catalog.Builtin.description =
        .ok (ResolvedInterface.stringArgument "description" (entry.2.description.getD "")) :=
    congrArg (Except.map _) (accepted.substitute_description run device configuration)
  have stringsFit : ∀ string ∈ entry.2.descriptionStrings,
      (StringDescriptor.payload? (string.2.getD "")).isSome = true := by
    intro string mem
    apply fits
    rw [← Interface.texts_descriptionStrings]
    exact List.mem_map_of_mem mem
  rcases @exists_enter resolved.tag _ before stringsFit with ⟨entered, after, ran⟩
  refine ⟨[entered], after, ?_⟩
  simp only [enterFields, step_bind_iff, step_pure_iff, lift_ok_iff]
  exact ⟨_, _, ⟨made, rfl⟩, entered, after, ran, [], after, ⟨rfl, rfl⟩, rfl, rfl⟩

end Evaluation

namespace Document

variable {document : Document} {catalog : Catalog} {generated : Generated}

theorem stringGroup_mem {entry : String × Interface} (mem : entry ∈ document.allInterfaces) :
    ∃ device configuration, Interface.stringGroup catalog device configuration entry ∈
      document.stringGroups catalog := by
  rcases mem_allInterfaces_iff.mp mem with
    ⟨device, deviceMem, configuration, configurationMem, entryMem⟩
  exact ⟨device.1, configuration.1, interface_group_mem deviceMem configurationMem entryMem⟩

/-- How many strings some groups hold. -/
def stringCount (groups : List StringGroup) : Nat :=
  (groups.map fun group => group.strings.length).sum

theorem stringCount_append {first second : List StringGroup} :
    stringCount (first ++ second) = stringCount first + stringCount second := by
  simp [stringCount]

theorem length_requests {groups : List StringGroup} :
    (groups.flatMap StringGroup.requests).length = stringCount groups := by
  simp [stringCount, List.length_flatMap, StringGroup.requests]

/-- How many texts the descriptions of some interfaces are entered as. -/
def textCount (interfaces : List (String × Interface)) : Nat :=
  (interfaces.map fun entry => entry.2.descriptionTexts.length).sum

theorem textCount_append {first second : List (String × Interface)} :
    textCount (first ++ second) = textCount first + textCount second := by
  simp [textCount]

/-- An interface has as many strings as its description has texts. -/
def CountsTexts (catalog : Catalog) (entry : String × Interface) : Prop :=
  ∀ device configuration, (Interface.stringGroup catalog device configuration entry).strings.length =
    entry.2.descriptionTexts.length

theorem stringCount_interfaces {device configuration : String}
    {interfaces : List (String × Interface)}
    (each : ∀ entry ∈ interfaces, CountsTexts catalog entry) :
    stringCount (interfaces.map (Interface.stringGroup catalog device configuration)) =
      textCount interfaces := by
  rw [stringCount, textCount, List.map_map]
  congr 1
  exact List.map_congr_left fun entry mem => each entry mem device configuration

theorem stringCount_configurations {device : String} {configurations : List (String × Configuration)}
    (each : ∀ configuration ∈ configurations, ∀ entry ∈ configuration.2.interfaces,
      CountsTexts catalog entry) :
    stringCount (configurations.flatMap (Configuration.stringGroups catalog device)) =
      configurations.length +
        textCount (configurations.flatMap fun configuration => configuration.2.interfaces) := by
  induction configurations with
  | nil => rfl
  | cons configuration rest ih =>
      rcases List.forall_mem_cons.mp each with ⟨own, others⟩
      have interfaces := @stringCount_interfaces catalog device configuration.1 _ own
      have description : stringCount [⟨configuration.1,
        [("description", configuration.2.description)]⟩] = 1 := rfl
      rw [List.flatMap_cons, stringCount_append, ih others, Configuration.stringGroups,
        ← List.singleton_append, stringCount_append, interfaces, description, List.flatMap_cons,
        textCount_append, List.length_cons]
      omega

theorem stringCount_devices {devices : List (String × Device)}
    (each : ∀ device ∈ devices, ∀ configuration ∈ device.2.configurations,
      ∀ entry ∈ configuration.2.interfaces, CountsTexts catalog entry) :
    stringCount (devices.flatMap (Device.stringGroups catalog)) =
      3 * devices.length +
        (devices.flatMap fun device => device.2.configurations).length +
        textCount ((devices.flatMap fun device => device.2.configurations).flatMap
          fun configuration => configuration.2.interfaces) := by
  induction devices with
  | nil => rfl
  | cons device rest ih =>
      rcases List.forall_mem_cons.mp each with ⟨own, others⟩
      have configurations := @stringCount_configurations catalog device.1 _ own
      have names : stringCount [⟨device.1, [("manufacturer", some device.2.manufacturer),
        ("product", some device.2.product), ("serial", some device.2.serial)]⟩] = 3 := rfl
      rw [List.flatMap_cons, stringCount_append, ih others, Device.stringGroups,
        ← List.singleton_append, stringCount_append, configurations, names, List.flatMap_cons,
        List.flatMap_append, textCount_append, List.length_append, List.length_cons]
      omega

/-- The strings of a document are three for every device, one for every configuration, and the
texts of the descriptions of the interfaces. -/
theorem length_stringRequests
    (each : ∀ entry ∈ document.allInterfaces, CountsTexts catalog entry) :
    (document.stringRequests catalog).length =
      3 * document.devices.length + document.allConfigurations.length +
        textCount document.allInterfaces := by
  rw [stringRequests, length_requests, stringGroups]
  apply stringCount_devices
  intro device deviceMem configuration configurationMem entry entryMem
  apply each
  exact mem_allInterfaces_iff.mpr
    ⟨device, deviceMem, configuration, configurationMem, entryMem⟩

/-- A document that is read against the built-in catalog has, for every interface, the strings of
its description and no others. -/
theorem countsTexts_of_read {text : String} (found : read Catalog.builtin text = .ok document)
    (run : document.generate Catalog.builtin = .ok generated) :
    ∀ entry ∈ document.allInterfaces, CountsTexts Catalog.builtin entry := by
  intro entry mem device configuration
  rcases resolves_of_generate run mem with ⟨resolved, resolves⟩
  rw [(accepted_of_read found entry mem).stringGroup resolves,
    ← entry.2.texts_descriptionStrings, List.length_map]

/-- The document asks for the first text of the description of an interface under the symbol of the
description. -/
theorem exists_description_request {text : String}
    (found : read Catalog.builtin text = .ok document)
    (run : document.generate Catalog.builtin = .ok generated) {entry : String × Interface}
    (mem : entry ∈ document.allInterfaces) :
    ∃ value, ⟨entry.1, "description", value⟩ ∈ document.stringRequests Catalog.builtin ∧
      entry.2.descriptionTexts.head? = some (value.getD "") := by
  rcases resolves_of_generate run mem with ⟨resolved, resolves⟩
  rcases @stringGroup_mem document Catalog.builtin entry mem with ⟨device, configuration, groupMem⟩
  rw [(accepted_of_read found entry mem).stringGroup resolves] at groupMem
  rcases entry.2.exists_descriptionStrings with ⟨value, rest, strings⟩
  rw [strings] at groupMem
  refine ⟨value, List.mem_flatMap.mpr ⟨_, groupMem, List.mem_cons_self⟩, ?_⟩
  rw [← entry.2.texts_descriptionStrings, strings]
  rfl

theorem text?_description {text : String} (found : read Catalog.builtin text = .ok document)
    (run : document.generate Catalog.builtin = .ok generated) {entry : String × Interface}
    (mem : entry ∈ document.allInterfaces) :
    generated.strings.text? (StringTable.symbol entry.1 "description") =
      entry.2.descriptionTexts.head? := by
  have holds := holds_of_generate Catalog.stringsApart_builtin found run
  have distinct := nodup_stringRequests (nodup_identifier_tags_of_read found)
    Catalog.stringsApart_builtin
  rcases exists_description_request found run mem with ⟨value, requested, first⟩
  have entered := StringTable.text?_of_entered holds.entries distinct requested
  rw [first]
  exact entered

end Document

/-- The table of a run holds the description of every interface under its symbol, and three strings
for every device, one for every configuration and one for every interface. -/
structure Generated.DescribesInterfaces (generated : Generated) (document : Document) : Prop where
  texts : ∀ entry ∈ document.allInterfaces,
    generated.strings.text? (StringTable.symbol entry.1 "description") =
      some (entry.2.description.getD "")
  size : generated.strings.size = 3 * document.devices.length +
    document.allConfigurations.length + document.allInterfaces.length

namespace Document

/-- What the description of an interface becomes in a run on a document that is read against the
built-in catalog. A description that spells no list can always be entered, and if no description
spells one, the table of a successful run holds all descriptions as they are. In general the text
under the symbol of a description is the first of its texts, and the table has a string for every
text of a description. -/
theorem descriptions_of_read {text : String} {document : Document}
    (found : read Catalog.builtin text = .ok document) :
    (∀ entry ∈ document.allInterfaces, ∀ resolved,
      ResolvedInterface.resolve Catalog.builtin entry.1 entry.2 = .ok resolved →
      ∀ device configuration before fault after,
        Evaluation.enterFields resolved (resolved.context device configuration)
          [Catalog.Builtin.description] before = .error fault after →
        ¬ entry.2.DescribedPlainly ∧
          ∃ text ∈ entry.2.descriptionTexts, StringDescriptor.payload? text = none) ∧
    ∀ generated, document.generate Catalog.builtin = .ok generated →
      (∀ entry ∈ document.allInterfaces,
        generated.strings.text? (StringTable.symbol entry.1 "description") =
          entry.2.descriptionTexts.head?) ∧
      generated.strings.size = 3 * document.devices.length + document.allConfigurations.length +
        (document.allInterfaces.map fun entry => entry.2.descriptionTexts.length).sum ∧
      ((∀ entry ∈ document.allInterfaces, entry.2.DescribedPlainly) →
        generated.DescribesInterfaces document) := by
  constructor
  · intro entry mem resolved resolves device configuration before fault after failed
    have accepted := accepted_of_read found entry mem
    have unfit : ∃ text ∈ entry.2.descriptionTexts, StringDescriptor.payload? text = none := by
      by_contra allFit
      push Not at allFit
      have fits : ∀ text ∈ entry.2.descriptionTexts,
          (StringDescriptor.payload? text).isSome = true :=
        fun text textMem => Option.isSome_iff_ne_none.mpr (allFit text textMem)
      rcases @Evaluation.exists_enterDescription _ _ device configuration before accepted resolves
        fits with ⟨entered, other, ran⟩
      rw [ran] at failed
      cases failed
    refine ⟨?_, unfit⟩
    intro plain
    rcases unfit with ⟨text, textMem, tooLong⟩
    rw [plain.texts, List.mem_singleton] at textMem
    have fits := accepted.description_fits
    rw [← textMem, tooLong] at fits
    cases fits
  · intro generated run
    have texts : ∀ entry ∈ document.allInterfaces,
        generated.strings.text? (StringTable.symbol entry.1 "description") =
          entry.2.descriptionTexts.head? := fun entry mem => text?_description found run mem
    have size : generated.strings.size = 3 * document.devices.length +
        document.allConfigurations.length + textCount document.allInterfaces := by
      have holds := holds_of_generate Catalog.stringsApart_builtin found run
      rw [StringTable.size, ← holds.entries.length_eq,
        length_stringRequests (countsTexts_of_read found run)]
    refine ⟨texts, size, ?_⟩
    intro plain
    constructor
    · intro entry mem
      rw [texts entry mem, (plain entry mem).texts]
      rfl
    · have single : textCount document.allInterfaces = document.allInterfaces.length := by
        have ones : (document.allInterfaces.map fun entry => entry.2.descriptionTexts.length) =
            document.allInterfaces.map fun _ => 1 :=
          List.map_congr_left fun entry mem => congrArg List.length (plain entry mem).texts
        rw [textCount, ones]
        simp
      rw [size, single]

theorem descriptions_consoleValue : ∃ document generated,
    read Catalog.builtin consoleValue.compact = .ok document ∧
      document.generate Catalog.builtin = .ok generated ∧
      (∀ entry ∈ document.allInterfaces, entry.2.DescribedPlainly) ∧
      generated.DescribesInterfaces document := by
  let plainly := fun document : Document => document.allInterfaces.all fun entry =>
    (listItems? (entry.2.description.getD "")).isNone
  have success : (read Catalog.builtin consoleValue.compact >>= fun document =>
      (document.generate Catalog.builtin).map fun generated =>
        (generated, plainly document)).toOption.map Prod.snd = some true := by decide +kernel
  cases found : read Catalog.builtin consoleValue.compact with
  | error fault =>
      rw [found] at success
      cases success
  | ok document =>
      rw [found] at success
      cases run : document.generate Catalog.builtin with
      | error fault => simp [run, bind, Except.bind, Except.map, Except.toOption] at success
      | ok generated =>
          have all : plainly document = true := by
            simpa [run, bind, Except.bind, Except.map, Except.toOption] using success
          have plain : ∀ entry ∈ document.allInterfaces, entry.2.DescribedPlainly := by
            intro entry mem
            exact Option.isNone_iff_eq_none.mp (List.all_eq_true.mp all entry mem)
          exact ⟨document, generated, rfl, run, plain,
            ((descriptions_of_read found).2 generated run).2.2 plain⟩

/-- A serial line whose description spells a list of two texts. -/
def listedSerial : Document where
  devices := [("dev0", {
    vendor := .number 1
    configurations := [("config1", {
      interfaces := [("a", { template := "cdc", description := some "[\"one\",\"two\"]" })] })] })]

/-- The text under the symbol is the first item, and the second one has an entry of its own. -/
example : (listedSerial.generate Catalog.builtin).toOption.map (fun generated =>
    (generated.strings.text? "STRING_INDEX_A_DESCRIPTION",
      generated.strings.text? "STRING_INDEX_A_DESCRIPTION_1", generated.strings.size)) =
    some (some "one", some "two", 6) := by
  decide +kernel

end Document

end UsbDescriptors
