import UsbDescriptors.Proofs.Interfaces.Counts
import UsbDescriptors.Proofs.Outputs.Sections
import UsbDescriptors.Proofs.Outputs.Declarations

/-!
# Fields of one byte

A descriptor gives one byte each to the number of configurations, to the number of a configuration,
to the number of interfaces, and to the index of a string. A run counts these without a limit, so
they fit if and only if the document is small enough. The main statement says what they are in terms
of the document, and what the limits on endpoints still guarantee: only interfaces without endpoints
can be too many.
-/

namespace UsbDescriptors

namespace Generated

/-- The strings whose indices stand in descriptors: in the members of a device descriptor, in the
third argument of a configuration descriptor, and among the arguments of an interface. -/
inductive RefersTo (generated : Generated) : String → Prop
  | device {device : DeviceBlock} (mem : device ∈ generated.devices) {member symbol : String}
      (index : member ∈ ["iManufacturer", "iProduct", "iSerialNumber"])
      (listed : (member, symbol) ∈ device.members) : RefersTo generated symbol
  | configuration {block : ConfigurationBlock} (mem : block ∈ generated.configurations)
      {symbol : String} (listed : symbol ∈ block.descriptorArguments[2]?) :
      RefersTo generated symbol
  | interface {block : ConfigurationBlock} (mem : block ∈ generated.configurations)
      {interface : EvaluatedInterface} (interfaceMem : interface ∈ block.interfaces)
      {name : String} (listed : "STRING_INDEX_" ++ name ∈ interface.arguments) :
      RefersTo generated ("STRING_INDEX_" ++ name)

/-- What the run counts into fields of one byte fits in a byte. -/
structure FitsBytes (generated : Generated) : Prop where
  configurations : ∀ device ∈ generated.devices, device.configurations.length ≤ 255
  numbers : ∀ block ∈ generated.configurations, block.number ≤ 255
  interfaces : ∀ block ∈ generated.configurations, block.interfaceCount ≤ 255
  strings : ∀ symbol, generated.RefersTo symbol →
    ∃ index ≤ 255, generated.strings.index? symbol = some index

end Generated

namespace Document

/-- The parts of a document are few enough to be counted in bytes. A string that a descriptor refers
to counts with all strings before it. -/
structure FitsBytes (document : Document) (catalog : Catalog) : Prop where
  configurations : ∀ device ∈ document.devices, device.2.configurations.length ≤ 255
  interfaces : ∀ configuration ∈ document.allConfigurations,
    configuration.2.numberCount catalog ≤ 255
  strings : ∀ before request after,
    document.stringRequests catalog = before ++ request :: after →
      request.property ∈ referredProperties → before.length + 1 ≤ 255

end Document

/-- The string of the description is among the arguments of an interface of a built-in template. -/
theorem EvaluatedInterface.description_mem_arguments {plan : InterfacePlan}
    {device configuration name : String} {interface : EvaluatedInterface}
    (known : (name, plan.resolved.template) ∈ Catalog.builtin.templates)
    (yields : plan.Yields device configuration interface) :
    StringTable.symbol plan.resolved.tag "description" ∈ interface.arguments := by
  rcases yields with ⟨before, after, run⟩
  rcases ResolvedInterface.evaluate_ok run with ⟨all, middle, _, _, entered, -, -, -, rfl⟩
  have described : ("description", Expression.referTo "description") ∈
      plan.resolved.template.strings := by
    rw [Catalog.describesInterfaces_builtin _ known]
    exact List.mem_singleton_self _
  rcases List.mem_filterMap.mp described with ⟨field, fieldMem, given⟩
  rcases Related.exists_right (Evaluation.related_of_enterFields entered) fieldMem with
    ⟨result, resultMem, argument, made, inCall, -⟩
  refine List.mem_map.mpr ⟨result, resultMem, ?_⟩
  unfold Field.string? at given
  rcases ResolvedInterface.argument_ok made with ⟨value, source, rfl⟩ |
    ⟨direction, source, -, rfl⟩ | ⟨expression, text, source, -, rfl⟩ |
    ⟨expression, text, source, -, rfl⟩
  · simp [source] at given
  · simp [source] at given
  · simp only [source, Option.some.injEq, Prod.mk.injEq] at given
    rw [inCall, ResolvedInterface.inCall_stringArgument, given.1]
  · simp [source] at given

/-- Of the strings of an interface only the first one has a property of descriptors. -/
theorem Interface.Accepted.symbol_of_referred {entry : String × Interface}
    {resolved : ResolvedInterface} (accepted : Interface.Accepted Catalog.builtin entry)
    (run : ResolvedInterface.resolve Catalog.builtin entry.1 entry.2 = .ok resolved)
    {device configuration : String} {request : StringRequest}
    (mem : request ∈
      (Interface.stringGroup Catalog.builtin device configuration entry).requests)
    (referred : request.property ∈ referredProperties) :
    request.symbol = StringTable.symbol entry.1 "description" := by
  rw [accepted.stringGroup run] at mem
  rcases List.mem_map.mp mem with ⟨given, givenMem, rfl⟩
  rcases @ResolvedInterface.names_stringArgument "description" (entry.2.description.getD "") with
    ⟨count, names⟩
  have named : given.1 ∈ entry.2.descriptionStrings.map Prod.fst := List.mem_map_of_mem givenMem
  rw [Interface.descriptionStrings, names] at named
  rcases List.mem_map.mp named with ⟨index, -, item⟩
  have same := eq_of_itemName_mem (item.symm ▸ referred)
  exact congrArg (StringTable.symbol entry.1) (item.symm.trans same)

namespace Document

variable {document : Document} {generated : Generated} {text : String}

/-- A string that is referred to is asked for by the document. -/
theorem exists_request_of_refersTo (found : read Catalog.builtin text = .ok document)
    (run : document.generate Catalog.builtin = .ok generated) {symbol : String}
    (refers : generated.RefersTo symbol) :
    ∃ request ∈ document.stringRequests Catalog.builtin,
      request.property ∈ referredProperties ∧ request.symbol = symbol := by
  cases refers with
  | @device block mem member symbol index listed =>
      rcases makes_of_generate run with ⟨plans, planned, makes⟩
      rcases Related.exists_left (Related.trans planned makes) mem with
        ⟨entry, entryMem, plan, own, made⟩
      have used := DeviceBlock.string_of_member index listed
      have requested : ∀ request ∈ StringGroup.requests ⟨entry.1,
          [("manufacturer", some entry.2.manufacturer), ("product", some entry.2.product),
            ("serial", some entry.2.serial)]⟩, request ∈ document.stringRequests Catalog.builtin :=
        fun request requestMem =>
          request_mem (device_group_mem entryMem List.mem_cons_self) requestMem
      rw [made.strings, own.tag] at used
      simp only [List.mem_cons, List.not_mem_nil, or_false] at used
      rcases used with rfl | rfl | rfl
      · exact ⟨⟨entry.1, "manufacturer", some entry.2.manufacturer⟩,
          requested _ (by simp [StringGroup.requests]), by simp [referredProperties], rfl⟩
      · exact ⟨⟨entry.1, "product", some entry.2.product⟩,
          requested _ (by simp [StringGroup.requests]), by simp [referredProperties], rfl⟩
      · exact ⟨⟨entry.1, "serial", some entry.2.serial⟩,
          requested _ (by simp [StringGroup.requests]), by simp [referredProperties], rfl⟩
  | @configuration block mem symbol listed =>
      rcases List.mem_flatMap.mp mem with ⟨device, deviceMem, blockMem⟩
      rcases exists_configuration_of_generate run deviceMem blockMem with
        ⟨entry, entryMem, configuration, configurationMem, number, origin⟩
      rcases (Option.some.inj listed : block.description = symbol) with rfl
      refine ⟨⟨configuration.1, "description", configuration.2.description⟩, ?_,
        by simp [referredProperties], origin.description.symm⟩
      exact request_mem (configuration_group_mem entryMem configurationMem List.mem_cons_self)
        List.mem_cons_self
  | @interface block mem interface interfaceMem name listed =>
      rcases List.mem_flatMap.mp mem with ⟨device, deviceMem, blockMem⟩
      rcases exists_configuration_of_generate run deviceMem blockMem with
        ⟨entry, entryMem, configuration, configurationMem, number, origin⟩
      rcases Related.exists_left origin.interfaces interfaceMem with
        ⟨own, ownMem, plan, planned, before, after, evaluated⟩
      have inDocument : own ∈ document.allInterfaces :=
        mem_allInterfaces_iff.mpr ⟨entry, entryMem, configuration, configurationMem, ownMem⟩
      rcases exists_description_request found run inDocument with ⟨value, requested, -⟩
      have starts : ("STRING_INDEX_" ++ name).toList.head? = some 'S' := head?_append (by decide) _
      refine ⟨_, requested, by simp [referredProperties], ?_⟩
      rcases EvaluatedInterface.argument_cases (accepted_of_read found own inDocument) planned
        evaluated listed with same | ⟨endpoint, -, same, field, named⟩ | ⟨same, -⟩ | ⟨-, same⟩ | other
      · rw [same, head?_interfaceSymbol] at starts
        simp at starts
      · rw [same, named, head?_endpointSymbol] at starts
        simp at starts
      · exact same.symm
      · simp [same] at starts
      · exact absurd starts (other 'S' (by simp))

/-- A string that the document asks for under one of the properties of descriptors is referred to. -/
theorem refersTo_of_request (found : read Catalog.builtin text = .ok document)
    (run : document.generate Catalog.builtin = .ok generated) {request : StringRequest}
    (mem : request ∈ document.stringRequests Catalog.builtin)
    (referred : request.property ∈ referredProperties) : generated.RefersTo request.symbol := by
  rcases List.mem_flatMap.mp mem with ⟨group, groupMem, requestMem⟩
  rcases List.mem_flatMap.mp groupMem with ⟨entry, entryMem, inDevice⟩
  rcases makes_of_generate run with ⟨plans, planned, makes⟩
  rcases List.mem_cons.mp inDevice with rfl | inConfigurations
  · rcases Related.exists_right (Related.trans planned makes) entryMem with
      ⟨block, blockMem, plan, own, made⟩
    have members : ("iManufacturer", StringTable.symbol entry.1 "manufacturer") ∈ block.members ∧
        ("iProduct", StringTable.symbol entry.1 "product") ∈ block.members ∧
        ("iSerialNumber", StringTable.symbol entry.1 "serial") ∈ block.members := by
      simp [DeviceBlock.members, made.strings, own.tag]
    simp only [StringGroup.requests, List.map_cons, List.map_nil, List.mem_cons, List.not_mem_nil,
      or_false] at requestMem
    rcases requestMem with rfl | rfl | rfl
    · exact .device blockMem (by simp) members.1
    · exact .device blockMem (by simp) members.2.1
    · exact .device blockMem (by simp) members.2.2
  · rcases List.mem_flatMap.mp inConfigurations with
      ⟨configuration, configurationMem, inConfiguration⟩
    rcases exists_block_of_generate run entryMem configurationMem with
      ⟨device, deviceMem, block, blockMem, number, origin⟩
    have configured : block ∈ generated.configurations :=
      List.mem_flatMap.mpr ⟨device, deviceMem, blockMem⟩
    rcases List.mem_cons.mp inConfiguration with rfl | inInterfaces
    · rcases List.mem_singleton.mp requestMem with rfl
      refine .configuration configured ?_
      exact congrArg some origin.description
    · rcases List.mem_map.mp inInterfaces with ⟨own, ownMem, rfl⟩
      rcases Related.exists_right origin.interfaces ownMem with
        ⟨interface, interfaceMem, plan, planned, yields⟩
      have inDocument : own ∈ document.allInterfaces :=
        mem_allInterfaces_iff.mpr ⟨entry, entryMem, configuration, configurationMem, ownMem⟩
      have description := (accepted_of_read found own inDocument).symbol_of_referred
        planned.resolved requestMem referred
      have listed := EvaluatedInterface.description_mem_arguments
        (OrderedMap.mem_of_get?_eq_some planned.template) yields
      have front : StringTable.symbol own.1 "description" =
          "STRING_INDEX_" ++ (identifier own.1 ++ "_" ++ identifier "description") := by
        simp only [StringTable.symbol, String.append_assoc]
      rw [(ResolvedInterface.resolve_ok planned.resolved).1, front] at listed
      rw [description, front]
      exact .interface configured interfaceMem listed

end Document

/-- What a run counts, in terms of its document: the configurations of every device, which are
numbered from one, the interface numbers of every configuration, and the strings before each string.
Only interfaces without endpoints can take a configuration beyond 30 interface numbers. -/
structure Generated.Counts (generated : Generated) (document : Document) : Prop where
  configurations : generated.devices.map (fun device => device.configurations.length) =
    document.devices.map fun device => device.2.configurations.length
  numbers : ∀ device ∈ generated.devices, device.configurations.map ConfigurationBlock.number =
    List.range' 1 device.configurations.length
  interfaces : generated.configurations.map ConfigurationBlock.interfaceCount =
    document.allConfigurations.map fun entry => entry.2.numberCount Catalog.builtin
  limit : ∀ configuration ∈ document.allConfigurations,
    configuration.2.numberCount Catalog.builtin ≤
      30 + configuration.2.endpointless Catalog.builtin
  strings : ∀ before request after,
    document.stringRequests Catalog.builtin = before ++ request :: after →
      generated.strings.index? request.symbol = some (before.length + 1)

namespace Document

variable {document : Document} {generated : Generated} {text : String}

theorem counts_of_read (found : read Catalog.builtin text = .ok document)
    (run : document.generate Catalog.builtin = .ok generated) : generated.Counts document := by
  have blocks := blocks_of_generate run
  constructor
  · refine (Related.map_eq ?_ (generate_ok run)).symm
    intro entry device made
    rw [← made.configurations.length_eq, List.length_zipIdx]
  · intro device mem
    rcases Related.exists_left (generate_ok run) mem with ⟨entry, -, made⟩
    have numbers : (entry.2.configurations.zipIdx 1).map Prod.snd =
        device.configurations.map ConfigurationBlock.number :=
      Related.map_eq (fun _ _ origin => origin.number_eq.symm) made.configurations
    rw [← numbers, List.zipIdx_map_snd, ← made.configurations.length_eq, List.length_zipIdx]
  · refine (Related.map_eq ?_ blocks).symm
    rintro entry block ⟨device, number, origin⟩
    exact origin.interfaceCount.symm
  · intro configuration mem
    rcases Related.exists_right blocks mem with ⟨block, -, device, number, origin⟩
    rw [← origin.interfaceCount]
    exact origin.interfaceCount_le
  · intro before request after split
    have holds := holds_of_generate Catalog.stringsApart_builtin found run
    have distinct := nodup_stringRequests (nodup_identifier_tags_of_read found)
      Catalog.stringsApart_builtin
    rw [split] at holds distinct
    exact holds.index? distinct

/-- A successful run on a document that is read against the built-in catalog counts what the
document has, so all fields of one byte hold their values if and only if the parts of the document
are few enough. -/
theorem byteFields_of_read (found : read Catalog.builtin text = .ok document)
    (run : document.generate Catalog.builtin = .ok generated) :
    generated.Counts document ∧ (generated.FitsBytes ↔ document.FitsBytes Catalog.builtin) := by
  have counts := counts_of_read found run
  refine ⟨counts, ?_⟩
  constructor
  · intro fits
    constructor
    · intro device mem
      rcases Related.exists_of_map_eq counts.configurations.symm mem with ⟨block, blockMem, same⟩
      exact same ▸ fits.configurations block blockMem
    · intro configuration mem
      rcases Related.exists_of_map_eq counts.interfaces.symm mem with ⟨block, blockMem, same⟩
      exact same ▸ fits.interfaces block blockMem
    · intro before request after split referred
      have mem : request ∈ document.stringRequests Catalog.builtin := by
        rw [split]
        exact List.mem_append_right _ List.mem_cons_self
      rcases fits.strings _ (refersTo_of_request found run mem referred) with ⟨index, bound, own⟩
      rw [counts.strings before request after split, Option.some.injEq] at own
      rw [own]
      exact bound
  · intro fits
    have configurations : ∀ device ∈ generated.devices, device.configurations.length ≤ 255 := by
      intro device mem
      rcases Related.exists_of_map_eq counts.configurations mem with ⟨entry, entryMem, same⟩
      exact same ▸ fits.configurations entry entryMem
    constructor
    · exact configurations
    · intro block mem
      rcases List.mem_flatMap.mp mem with ⟨device, deviceMem, blockMem⟩
      have number : block.number ∈ List.range' 1 device.configurations.length := by
        rw [← counts.numbers device deviceMem]
        exact List.mem_map_of_mem blockMem
      have bound := configurations device deviceMem
      rw [List.mem_range'_1] at number
      omega
    · intro block mem
      rcases Related.exists_of_map_eq counts.interfaces mem with ⟨entry, entryMem, same⟩
      exact same ▸ fits.interfaces entry entryMem
    · intro symbol refers
      rcases exists_request_of_refersTo found run refers with ⟨request, mem, referred, rfl⟩
      rcases List.append_of_mem mem with ⟨before, after, split⟩
      exact ⟨_, fits.strings before request after split referred,
        counts.strings before request after split⟩

theorem byteFields_inputsValue : ∃ document generated,
    read Catalog.builtin inputsValue.compact = .ok document ∧
      document.generate Catalog.builtin = .ok generated ∧
      generated.Counts document ∧ (generated.FitsBytes ↔ document.FitsBytes Catalog.builtin) := by
  rcases runs_inputsValue with ⟨document, generated, found, run⟩
  exact ⟨document, generated, found, run, byteFields_of_read found run⟩

end Document

end UsbDescriptors
