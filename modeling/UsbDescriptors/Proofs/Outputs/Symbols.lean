import UsbDescriptors.Proofs.Outputs.Arguments
import UsbDescriptors.Proofs.Outputs.Lines
import UsbDescriptors.Proofs.Interfaces.Enumerators
import UsbDescriptors.Proofs.Strings.Indices
import UsbDescriptors.Sections

/-!
# Symbols of arguments

A symbol is spelled twice, where it is used and where it is declared. This module shows that both
spellings agree for the arguments of interfaces: the numbers of interfaces and the addresses of
endpoints stand in the enumerations of the configurations, the strings in that of the indices, and
an array whose size is taken is that of a table of the run.
-/

namespace UsbDescriptors

namespace Generated

/-- The text of the enumeration of the string indices. -/
def stringEnum (generated : Generated) : String :=
  unlines generated.strings.enumLines

variable {generated : Generated} {kind : String → Prop}

theorem hasLine_configurationEnums {block : ConfigurationBlock}
    (mem : block ∈ generated.configurations) (found : HasLine (unlines block.headerLines) kind) :
    HasLine generated.configurationEnums kind := by
  have nonempty : generated.configurations.isEmpty = false :=
    List.isEmpty_eq_false_iff.mpr (List.ne_nil_of_mem mem)
  rw [configurationEnums, nonempty]
  exact hasLine_joined (List.mem_map_of_mem mem) found

theorem hasLine_reportEnums {table : ReportTable} (mem : table ∈ generated.reports)
    (found : HasLine (unlines table.headerLines) kind) : HasLine generated.reportEnums kind := by
  have nonempty : generated.reports.isEmpty = false :=
    List.isEmpty_eq_false_iff.mpr (List.ne_nil_of_mem mem)
  rw [reportEnums, nonempty]
  exact hasLine_joined (List.mem_map_of_mem mem) found

end Generated

theorem StringTable.enumerates_id {table : StringTable} {id : String} (mem : id ∈ table.ids)
    (single : SingleLine id) : Enumerates (unlines table.enumLines) id := by
  rcases List.mem_map.mp mem with ⟨entry, entryMem, rfl⟩
  have line : "\t" ++ entry.id ++ "," ∈ table.enumLines := by
    apply List.mem_append_left
    exact List.mem_cons_of_mem _ (List.mem_map.mpr ⟨entry, entryMem, rfl⟩)
  apply hasLine_unlines line _ .plain
  rw [singleLine_append, singleLine_append]
  exact ⟨⟨by decide, single⟩, by decide⟩

theorem StringRequest.singleLine_symbol (request : StringRequest) : SingleLine request.symbol := by
  unfold symbol StringTable.symbol
  simp only [singleLine_append, singleLine_identifier, and_true]
  decide

/-- The strings of a run are listed in the enumeration of the indices. -/
theorem StringTable.Holds.enumerates {table : StringTable} {requests : List StringRequest}
    {request : StringRequest} (holds : table.Holds requests) (mem : request ∈ requests) :
    Enumerates (unlines table.enumLines) request.symbol := by
  apply enumerates_id _ request.singleLine_symbol
  rw [ids, ids_of_entered holds.entries]
  exact List.mem_map_of_mem mem

namespace ConfigurationBlock

variable {block : ConfigurationBlock}

theorem enumerates_number {name : String} (mem : name ∈ block.enumerators)
    (single : SingleLine name) : Enumerates (unlines block.headerLines) name := by
  have line : "\t" ++ name ++ "," ∈ block.headerLines := by
    have inside : "\t" ++ name ++ "," ∈ block.interfaceEnumLines := by
      rw [interfaceEnumLines_eq]
      simp only [List.mem_append, List.mem_map]
      exact Or.inl (Or.inr ⟨name, mem, rfl⟩)
    simp only [headerLines, List.mem_append]
    exact Or.inl (Or.inl (Or.inr inside))
  apply hasLine_unlines line _ .plain
  rw [singleLine_append, singleLine_append]
  exact ⟨⟨by decide, single⟩, by decide⟩

theorem enumerates_endpoint {endpoint : Endpoint} (mem : endpoint ∈ block.endpoints)
    (single : SingleLine endpoint.symbol) :
    Enumerates (unlines block.headerLines) endpoint.symbol := by
  have nonempty : block.endpoints.isEmpty = false :=
    List.isEmpty_eq_false_iff.mpr (List.ne_nil_of_mem mem)
  have line : "\t" ++ endpoint.symbol ++ " = " ++ (endpoint.address.text ++ ",") ∈
      block.headerLines := by
    simp only [headerLines, endpointEnumLines, nonempty, List.mem_append]
    right
    refine List.mem_append_left _ (List.mem_append_right _ (List.mem_map.mpr ⟨endpoint, mem, ?_⟩))
    exact String.append_assoc
  apply hasLine_front line _ .valued
  rw [singleLine_append, singleLine_append]
  exact ⟨⟨by decide, single⟩, by decide⟩

theorem totalLengthLine_eq (block : ConfigurationBlock) :
    block.totalLengthLine = "#define " ++ block.totalLengthSymbol ++ " " ++
      ("(" ++ joined " + " ("TUD_CONFIG_DESC_LEN" :: block.interfaces.map EvaluatedInterface.length)
        ++ ")") := by
  have opening : " (" = " " ++ "(" := by decide
  simp only [totalLengthLine, opening, String.append_assoc]

theorem defines_totalLength (block : ConfigurationBlock) :
    Defines (unlines block.headerLines) block.totalLengthSymbol := by
  have line : block.totalLengthLine ∈ block.headerLines := by simp [headerLines]
  rw [totalLengthLine_eq] at line
  refine hasLine_front line ?_ fun first => ⟨first, rfl⟩
  rw [totalLengthSymbol]
  simp only [singleLine_append, singleLine_identifier]
  decide

end ConfigurationBlock

/-- What an argument of an interface can be: the number of the interface, one of its endpoints, one
of its strings, the size of its report descriptor, or a text that starts like no symbol. -/
theorem EvaluatedInterface.argument_cases {entry : String × Interface} {plan : InterfacePlan}
    {device configuration : String} {interface : EvaluatedInterface} {before after : Registers}
    (accepted : Interface.Accepted Catalog.builtin entry)
    (planned : plan.Planned Catalog.builtin entry)
    (run : plan.resolved.evaluate device configuration before = .ok interface after)
    {argument : String} (mem : argument ∈ interface.arguments) :
    argument = interfaceSymbol entry.1 ∨
      (∃ endpoint ∈ interface.endpoints, argument = endpoint.symbol ∧
        ∃ field, endpoint.symbol = ResolvedInterface.endpointSymbol entry.1 field) ∨
      (argument = StringTable.symbol entry.1 "description" ∧ ∃ request ∈
        (Interface.stringGroup Catalog.builtin device configuration entry).requests,
          argument = request.symbol) ∨
      (entry.2.carriesReports Catalog.builtin = true ∧
        argument = "sizeof(" ++ ReportTable.symbolOf entry.1 ++ ")") ∨
      StartsLikeNoSymbol argument := by
  have tag := (ResolvedInterface.resolve_ok planned.resolved).1
  have found := OrderedMap.mem_of_get?_eq_some planned.template
  have known := Catalog.known_builtin _ found
  have kinds := ResolvedInterface.hasKinds_of_resolve Catalog.sound_builtin accepted.fitsTemplate
    planned.resolved
  rcases ResolvedInterface.evaluate_ok run with ⟨all, middle, _, _, entered, -, -, -, rfl⟩
  rcases List.mem_map.mp mem with ⟨result, resultMem, rfl⟩
  rcases Related.exists_left (Evaluation.related_of_enterFields entered) resultMem with
    ⟨field, fieldMem, argument, made, inCall, endpoint⟩
  have source := known.fields field fieldMem
  rw [inCall, ← tag]
  rcases ResolvedInterface.argument_ok made with ⟨value, literal, rfl⟩ |
    ⟨direction, -, -, rfl⟩ | ⟨expression, text, string, filled, rfl⟩ |
    ⟨expression, text, isText, filled, rfl⟩
  · rw [literal] at source
    cases source
  · rcases Option.map_eq_some_iff.mp endpoint with ⟨own, present, named⟩
    refine Or.inr (Or.inl ⟨own, List.mem_filterMap.mpr ⟨result, resultMem, present⟩, ?_⟩)
    exact ⟨named.symm, field.name, named⟩
  · rcases ResolvedInterface.stringArgument_eq field.name text with ⟨first, rest, strings⟩
    have firstMem : first ∈ (ResolvedInterface.stringArgument field.name text).stringsOf := by
      rw [strings]
      exact List.mem_cons_self
    have own := ResolvedInterface.mem_stringGroup fieldMem made firstMem
    rw [planned.stringGroup] at own
    refine Or.inr (Or.inr (Or.inl ⟨?_, _, List.mem_map_of_mem own, ?_⟩))
    · rw [ResolvedInterface.inCall_stringArgument, tag,
        Catalog.name_of_string_builtin found fieldMem string]
    · rw [strings, tag]
      rfl
  · rw [isText] at source
    rcases ResolvedInterface.text_of_makesText kinds known source filled with
      number | ⟨reports, size⟩ | other
    · exact Or.inl number
    · refine Or.inr (Or.inr (Or.inr (Or.inl ⟨?_, size⟩)))
      rw [planned.carriesReports, planned.reports_isSome]
      exact reports
    · exact Or.inr (Or.inr (Or.inr (Or.inr other)))

theorem head?_interfaceSymbol (tag : String) :
    (interfaceSymbol tag).toList.head? = some 'I' :=
  head?_append (by decide) _

theorem head?_endpointSymbol (tag field : String) :
    (ResolvedInterface.endpointSymbol tag field).toList.head? = some 'E' :=
  head?_append (head?_append (head?_append (by decide) _) _) _

theorem StringRequest.head?_symbol (request : StringRequest) :
    request.symbol.toList.head? = some 'S' :=
  head?_append (head?_append (head?_append (by decide) _) _) _

namespace ConfigurationBlock.MadeFrom

variable {catalog : Catalog} {device : String} {entry : String × Configuration} {number : Nat}
  {block : ConfigurationBlock}

theorem interfaceSymbol_mem (origin : block.MadeFrom catalog device (entry, number))
    {interface : EvaluatedInterface} (mem : interface ∈ block.interfaces) :
    interfaceSymbol interface.tag ∈ block.enumerators := by
  rcases origin.starts interface mem with ⟨rest, numbers⟩
  apply List.mem_append_left
  exact List.mem_flatMap.mpr ⟨interface, mem, numbers ▸ List.mem_cons_self⟩

end ConfigurationBlock.MadeFrom

theorem InterfacePlan.Planned.tag_of_yields {catalog : Catalog} {entry : String × Interface}
    {plan : InterfacePlan} (planned : plan.Planned catalog entry) {device configuration : String}
    {interface : EvaluatedInterface} (yields : plan.Yields device configuration interface) :
    interface.tag = entry.1 := by
  rcases yields with ⟨before, after, evaluated⟩
  rcases ResolvedInterface.evaluate_ok evaluated with ⟨_, _, _, _, -, -, -, -, rfl⟩
  exact (ResolvedInterface.resolve_ok planned.resolved).1

/-- What becomes of an argument of an interface in a run. -/
inductive Generated.Settles (generated : Generated) : String → Prop
  | interface {argument : String} (starts : argument.toList.head? = some 'I')
      (listed : Enumerates generated.configurationEnums argument) : Settles generated argument
  | endpoint {argument : String} (starts : argument.toList.head? = some 'E')
      (listed : Enumerates generated.configurationEnums argument) : Settles generated argument
  | string {argument : String} (starts : argument.toList.head? = some 'S')
      (listed : Enumerates generated.stringEnum argument) : Settles generated argument
  | size {table : ReportTable} (mem : table ∈ generated.reports) :
      Settles generated ("sizeof(" ++ table.symbol ++ ")")
  | other {argument : String} (starts : StartsLikeNoSymbol argument) : Settles generated argument

namespace Generated.Settles

variable {generated : Generated} {argument : String}

theorem enumerates_configuration (settles : generated.Settles argument)
    (own : argument.toList.head? = some 'I' ∨ argument.toList.head? = some 'E') :
    Enumerates generated.configurationEnums argument := by
  cases settles with
  | interface starts listed => exact listed
  | endpoint starts listed => exact listed
  | string starts listed => simp [starts] at own
  | size mem => simp at own
  | other starts =>
      rcases own with own | own
      · exact absurd own (starts _ (by simp))
      · exact absurd own (starts _ (by simp))

theorem enumerates_string (settles : generated.Settles argument)
    (own : argument.toList.head? = some 'S') : Enumerates generated.stringEnum argument := by
  cases settles with
  | interface starts listed => simp [starts] at own
  | endpoint starts listed => simp [starts] at own
  | string starts listed => exact listed
  | size mem => simp at own
  | other starts => exact absurd own (starts _ (by simp))

theorem exists_table (settles : generated.Settles argument)
    (own : argument.toList.head? = some 's') :
    ∃ table ∈ generated.reports, argument = "sizeof(" ++ table.symbol ++ ")" := by
  cases settles with
  | interface starts listed => simp [starts] at own
  | endpoint starts listed => simp [starts] at own
  | string starts listed => simp [starts] at own
  | size mem => exact ⟨_, mem, rfl⟩
  | other starts => exact absurd own (starts _ (by simp))

end Generated.Settles

namespace Document

variable {text : String} {document : Document} {generated : Generated}

/-- Every argument of every interface is settled by a successful run on an accepted document. -/
theorem settles_of_read (found : read Catalog.builtin text = .ok document)
    (run : document.generate Catalog.builtin = .ok generated) {device : DeviceBlock}
    (deviceMem : device ∈ generated.devices) {block : ConfigurationBlock}
    (blockMem : block ∈ device.configurations) {interface : EvaluatedInterface}
    (mem : interface ∈ block.interfaces) :
    ∀ argument ∈ interface.arguments, generated.Settles argument := by
  have configured : block ∈ generated.configurations :=
    List.mem_flatMap.mpr ⟨device, deviceMem, blockMem⟩
  rcases exists_configuration_of_generate run deviceMem blockMem with
    ⟨entry, entryMem, configuration, configurationMem, number, origin⟩
  rcases Related.exists_left origin.interfaces mem with ⟨own, ownMem, plan, planned, before, after, evaluated⟩
  have inDocument : own ∈ document.allInterfaces :=
    mem_allInterfaces_iff.mpr ⟨entry, entryMem, configuration, configurationMem, ownMem⟩
  intro argument argumentMem
  rcases EvaluatedInterface.argument_cases (accepted_of_read found own inDocument) planned
    evaluated argumentMem with rfl | ⟨endpoint, endpointMem, rfl, field, named⟩ |
    ⟨-, request, requestMem, rfl⟩ | ⟨carries, rfl⟩ | other
  · have enumerator : interfaceSymbol own.1 ∈ block.enumerators := by
      rw [← planned.tag_of_yields ⟨before, after, evaluated⟩]
      exact origin.interfaceSymbol_mem mem
    refine .interface (head?_interfaceSymbol _) (Generated.hasLine_configurationEnums configured ?_)
    apply ConfigurationBlock.enumerates_number enumerator
    rw [interfaceSymbol, singleLine_append]
    exact ⟨by decide, singleLine_identifier _⟩
  · have inBlock : endpoint ∈ block.endpoints := List.mem_flatMap.mpr ⟨interface, mem, endpointMem⟩
    have single : SingleLine endpoint.symbol := by
      rw [named, ResolvedInterface.endpointSymbol]
      simp only [singleLine_append, singleLine_identifier, and_true]
      decide
    refine .endpoint (named ▸ head?_endpointSymbol _ _) ?_
    exact Generated.hasLine_configurationEnums configured
      (ConfigurationBlock.enumerates_endpoint inBlock single)
  · have holds := holds_of_generate Catalog.stringsApart_builtin found run
    exact .string request.head?_symbol
      (holds.enumerates (request_mem (interface_group_mem entryMem configurationMem ownMem) requestMem))
  · rcases registered_of_generate run with ⟨groups, hosts, registered⟩
    have reported : own ∈ document.reportInterfaces Catalog.builtin :=
      mem_reportInterfaces_iff.mpr ⟨inDocument, carries⟩
    rcases Related.exists_right registered.reports reported with ⟨table, tableMem, tableOf⟩
    have settled := Generated.Settles.size tableMem
    rw [ReportTable.symbol, tableOf.tag] at settled
    exact settled
  · exact .other other

end Document

end UsbDescriptors
