import UsbDescriptors.Proofs.Outputs.Reports
import UsbDescriptors.Proofs.Outputs.Symbols
import UsbDescriptors.Proofs.Reports.Served

/-!
# No symbol without a declaration

What the sources of a run name is declared in the same run: the strings of device descriptors, what
the descriptor of a configuration counts and measures, the symbols among the arguments of all
interfaces, and the ids of all reports.
-/

namespace UsbDescriptors

/-- The strings of a device stand in its descriptor under the symbols of its own properties. -/
theorem DevicePlan.Makes.strings {plan : DevicePlan} {block : DeviceBlock}
    (makes : plan.Makes block) :
    block.strings = {
      manufacturer := StringTable.symbol plan.tag "manufacturer"
      product := StringTable.symbol plan.tag "product"
      serial := StringTable.symbol plan.tag "serial" } := by
  rcases makes with ⟨before, after, run⟩
  simp only [Generation.device, step_bind_iff, step_pure_iff, Generation.evaluation_ok_iff,
    Evaluation.addString_ok_iff] at run
  rcases run with ⟨_, _, -, manufacturer, _, ⟨_, ⟨_, first, -⟩, -⟩, product, _,
    ⟨_, ⟨_, second, -⟩, -⟩, serial, _, ⟨_, ⟨_, third, -⟩, -⟩, _, _, -, rfl, -⟩
  rcases (StringTable.add_ok first).1 with rfl
  rcases (StringTable.add_ok second).1 with rfl
  rcases (StringTable.add_ok third).1 with rfl
  rfl

namespace ConfigurationBlock

variable {catalog : Catalog} {device : String} {entry : String × Configuration} {number : Nat}
  {block : ConfigurationBlock}

theorem MadeFrom.description (origin : block.MadeFrom catalog device (entry, number)) :
    block.description = StringTable.symbol entry.1 "description" := by
  rcases origin with ⟨plan, planned, before, after, run⟩
  rcases Generation.configuration_ok run with
    ⟨_, strings, all, instances, middle, added, -, -, rfl, -⟩
  rw [← planned.tag]
  exact (StringTable.add_ok added).1

end ConfigurationBlock

namespace Generated

/-- The table is one of the run, and its array is begun in the source of the reports. -/
structure Emits (generated : Generated) (table : ReportTable) : Prop where
  listed : table ∈ generated.reports
  array : "static const uint8_t " ++ table.symbol ++ "[] = \x7b" ∈ textLines generated.hidReports

/-- The symbols among the arguments of an interface are declared in the run: the numbers and
endpoints in the enumerations of the configurations, the strings in that of the indices. An array
of reports whose size is taken is that of a table of the run. -/
structure ArgumentsDeclared (generated : Generated) (interface : EvaluatedInterface) : Prop where
  numbers : ∀ name, "ITF_NUM_" ++ name ∈ interface.arguments →
    Enumerates generated.configurationEnums ("ITF_NUM_" ++ name)
  endpoints : ∀ name, "EPNUM_" ++ name ∈ interface.arguments →
    Enumerates generated.configurationEnums ("EPNUM_" ++ name)
  strings : ∀ name, "STRING_INDEX_" ++ name ∈ interface.arguments →
    Enumerates generated.stringEnum ("STRING_INDEX_" ++ name)
  sizes : ∀ name, "sizeof(desc_hid_report_" ++ name ++ ")" ∈ interface.arguments →
    ∃ table, generated.Emits table ∧ table.symbol = "desc_hid_report_" ++ name

/-- The symbols among the arguments of a configuration descriptor: the number of interfaces, the
string of the description, and the total length. -/
structure DescriptorDeclared (generated : Generated) (block : ConfigurationBlock) : Prop where
  total : ∀ symbol ∈ block.descriptorArguments[1]?, Enumerates generated.configurationEnums symbol
  description : ∀ symbol ∈ block.descriptorArguments[2]?, Enumerates generated.stringEnum symbol
  length : ∀ symbol ∈ block.descriptorArguments[3]?, Defines generated.configurationEnums symbol

/-- What the sources of a run name is declared by the headers of the run. -/
structure SymbolsDeclared (generated : Generated) : Prop where
  devices : ∀ device ∈ generated.devices,
    ∀ name ∈ ["iManufacturer", "iProduct", "iSerialNumber"],
      ∀ symbol, (name, symbol) ∈ device.members → Enumerates generated.stringEnum symbol
  configurations : ∀ block ∈ generated.configurations, generated.DescriptorDeclared block
  interfaces : ∀ block ∈ generated.configurations, ∀ interface ∈ block.interfaces,
    generated.ArgumentsDeclared interface
  /-- Words of comments aside, every report id that the source of the reports uses is enumerated. -/
  reportIds : ∀ line ∈ textLines generated.hidReports, ¬ IsComment line →
    ∀ word ∈ lineWords line, IsReportId word → Enumerates generated.reportEnums word

variable {generated : Generated}

theorem emits_of_mem {table : ReportTable} (mem : table ∈ generated.reports) :
    generated.Emits table := by
  have nonempty : generated.reports.isEmpty = false :=
    List.isEmpty_eq_false_iff.mpr (List.ne_nil_of_mem mem)
  refine ⟨mem, ?_⟩
  simp only [hidReports, nonempty, Bool.false_eq_true, if_false]
  refine mem_textLines_unlines (?_ : "static const uint8_t " ++ table.symbol ++ "[] = \x7b" ∈ _) ?_
  · simp only [List.mem_append, List.mem_flatMap]
    refine Or.inl (Or.inl (Or.inl (Or.inl (Or.inr ⟨table, mem, Or.inl ?_⟩))))
    simp [ReportTable.sourceLines]
  · rw [textLines_of_single]
    · exact List.mem_singleton_self _
    · simp only [singleLine_append]
      exact ⟨⟨by decide, table.identifierTail_symbol.singleLine⟩, by decide⟩

theorem argumentsDeclared_of_settles {interface : EvaluatedInterface}
    (settles : ∀ argument ∈ interface.arguments, generated.Settles argument) :
    generated.ArgumentsDeclared interface := by
  constructor
  · intro name mem
    exact (settles _ mem).enumerates_configuration (Or.inl (head?_append (by decide) _))
  · intro name mem
    exact (settles _ mem).enumerates_configuration (Or.inr (head?_append (by decide) _))
  · intro name mem
    exact (settles _ mem).enumerates_string (head?_append (by decide) _)
  · intro name mem
    have starts : ("sizeof(desc_hid_report_" ++ name ++ ")").toList.head? = some 's' :=
      head?_append (head?_append (by decide) _) _
    rcases (settles _ mem).exists_table starts with ⟨table, tableMem, same⟩
    have front : "sizeof(desc_hid_report_" = "sizeof(" ++ "desc_hid_report_" := by decide
    rw [String.append_left_inj, front, String.append_assoc, String.append_right_inj] at same
    exact ⟨table, emits_of_mem tableMem, same.symm⟩

end Generated

/-- The members of a descriptor that give strings give those of the device. -/
theorem DeviceBlock.string_of_member {block : DeviceBlock} {name symbol : String}
    (nameMem : name ∈ ["iManufacturer", "iProduct", "iSerialNumber"])
    (mem : (name, symbol) ∈ block.members) :
    symbol ∈ [block.strings.manufacturer, block.strings.product, block.strings.serial] := by
  simp only [List.mem_cons, List.not_mem_nil, or_false] at nameMem ⊢
  rcases nameMem with rfl | rfl | rfl
  · left
    simpa [members] using mem
  · right; left
    simpa [members] using mem
  · right; right
    simpa [members] using mem

namespace Document

variable {text : String} {document : Document} {generated : Generated}

/-- The strings of a device descriptor are in the enumeration of the string indices. -/
theorem devices_declared (found : read Catalog.builtin text = .ok document)
    (run : document.generate Catalog.builtin = .ok generated) {device : DeviceBlock}
    (deviceMem : device ∈ generated.devices) {name symbol : String}
    (nameMem : name ∈ ["iManufacturer", "iProduct", "iSerialNumber"])
    (mem : (name, symbol) ∈ device.members) : Enumerates generated.stringEnum symbol := by
  rcases makes_of_generate run with ⟨plans, planned, makes⟩
  rcases Related.exists_left (Related.trans planned makes) deviceMem with
    ⟨entry, entryMem, plan, own, made⟩
  have holds := holds_of_generate Catalog.stringsApart_builtin found run
  have strings := made.strings
  rw [own.tag] at strings
  have listed : ∀ property ∈ ["manufacturer", "product", "serial"],
      Enumerates generated.stringEnum (StringTable.symbol entry.1 property) := by
    have group : ∀ request ∈ StringGroup.requests ⟨entry.1,
        [("manufacturer", some entry.2.manufacturer), ("product", some entry.2.product),
          ("serial", some entry.2.serial)]⟩, Enumerates generated.stringEnum request.symbol := by
      intro request requestMem
      exact holds.enumerates (request_mem (device_group_mem entryMem List.mem_cons_self) requestMem)
    simpa [StringGroup.requests, StringRequest.symbol] using group
  have used := DeviceBlock.string_of_member nameMem mem
  rw [strings] at used
  simp only [List.mem_cons, List.not_mem_nil, or_false] at used
  rcases used with rfl | rfl | rfl
  · exact listed _ (by simp)
  · exact listed _ (by simp)
  · exact listed _ (by simp)

/-- What the descriptor of a configuration names is declared in the enumerations of the run. -/
theorem configurations_declared (found : read Catalog.builtin text = .ok document)
    (run : document.generate Catalog.builtin = .ok generated) {block : ConfigurationBlock}
    (mem : block ∈ generated.configurations) : generated.DescriptorDeclared block := by
  rcases List.mem_flatMap.mp mem with ⟨device, deviceMem, blockMem⟩
  rcases exists_configuration_of_generate run deviceMem blockMem with
    ⟨entry, entryMem, configuration, configurationMem, number, origin⟩
  have holds := holds_of_generate Catalog.stringsApart_builtin found run
  constructor
  · intro symbol own
    rcases (Option.some.inj own : block.interfaceTotalSymbol = symbol) with rfl
    have enumerator : block.interfaceTotalSymbol ∈ block.enumerators :=
      List.mem_append_right _ List.mem_cons_self
    apply Generated.hasLine_configurationEnums mem
    apply ConfigurationBlock.enumerates_number enumerator
    exact singleLine_append.mpr ⟨by decide, singleLine_identifier _⟩
  · intro symbol own
    rcases (Option.some.inj own : block.description = symbol) with rfl
    let request : StringRequest := ⟨configuration.1, "description", configuration.2.description⟩
    have requested : request ∈ document.stringRequests Catalog.builtin :=
      request_mem (configuration_group_mem entryMem configurationMem List.mem_cons_self)
        List.mem_cons_self
    have named : block.description = request.symbol := origin.description
    rw [named]
    exact holds.enumerates requested
  · intro symbol own
    rcases (Option.some.inj own : block.totalLengthSymbol = symbol) with rfl
    exact Generated.hasLine_configurationEnums mem block.defines_totalLength

/-- The report ids that the source of the reports uses are those of the tables, so that the
enumerations of the tables declare them. -/
theorem reportIds_declared (found : read Catalog.builtin text = .ok document)
    (run : document.generate Catalog.builtin = .ok generated) :
    ∀ line ∈ textLines generated.hidReports, ¬ IsComment line →
      ∀ word ∈ lineWords line, IsReportId word → Enumerates generated.reportEnums word := by
  rcases registered_of_generate run with ⟨groups, hosts, registered⟩
  have spelled : ∀ table ∈ generated.reports, table.Spelled := by
    intro table mem
    rcases Related.exists_left registered.reports mem with ⟨entry, entryMem, made⟩
    exact made.spelled (accepted_of_read found entry (mem_reportInterfaces_iff.mp entryMem).1)
  intro line mem code word wordMem looks
  rcases (Generated.isSourceLine_hidReports spelled line mem).2 with comment | uses
  · exact absurd comment code
  · rcases uses word wordMem looks with ⟨table, tableMem, own⟩
    rcases List.mem_map.mp own with ⟨report, reportMem, rfl⟩
    exact Generated.hasLine_reportEnums tableMem
      (ReportTable.enumerates_id reportMem ((spelled table tableMem).ids report reportMem))

/-- A successful run on a document that is read against the built-in catalog names no symbol that it
does not declare. -/
theorem symbolsDeclared_of_read (found : read Catalog.builtin text = .ok document)
    (run : document.generate Catalog.builtin = .ok generated) : generated.SymbolsDeclared := by
  constructor
  · intro device deviceMem name nameMem symbol mem
    exact devices_declared found run deviceMem nameMem mem
  · intro block mem
    exact configurations_declared found run mem
  · intro block mem interface interfaceMem
    rcases List.mem_flatMap.mp mem with ⟨device, deviceMem, blockMem⟩
    exact Generated.argumentsDeclared_of_settles
      (settles_of_read found run deviceMem blockMem interfaceMem)
  · exact reportIds_declared found run

theorem symbolsDeclared_inputsValue : ∃ document generated,
    read Catalog.builtin inputsValue.compact = .ok document ∧
      document.generate Catalog.builtin = .ok generated ∧ generated.SymbolsDeclared := by
  rcases runs_inputsValue with ⟨document, generated, found, run⟩
  exact ⟨document, generated, found, run, symbolsDeclared_of_read found run⟩

end Document

end UsbDescriptors
