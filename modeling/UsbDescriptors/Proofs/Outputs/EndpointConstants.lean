import UsbDescriptors.Proofs.Reports.Numbering
import Mathlib.Data.List.Count

/-!
# Constants of endpoints

The header has a constant for every endpoint of every configuration, and all of them live in one
scope. The name of a constant joins the identifier of a tag and that of a field by an underscore,
which both of them may hold as well. It can be taken apart only because no name of an endpoint field
ends in another one behind an underscore: the longest ending that names a field is the only one. So
names with the same text have the same field and the same tag up to its identifier, and the tags of
a document that is read differ in these.

What a header introduces is read off its lines. A comment introduces nothing, but a tag in a comment
is written as it is: that the lines of the text are the lines that the run puts together is known
only if no tag of a configuration holds a line feed.
-/

namespace UsbDescriptors

open Json (Value)

section Endings

/-- The names of the fields that ask for an endpoint. -/
def Template.endpointFields (template : Template) : List String :=
  template.fields.filterMap fun field =>
    match field.source with
    | .endpoint => some field.name
    | _ => none

/-- The constants of an interface: one for every endpoint field of its template. -/
def Interface.endpointSymbols (interface : Interface) (catalog : Catalog) (tag : String) :
    List String :=
  match catalog.templates.get? interface.template with
  | some template => template.endpointFields.map (ResolvedInterface.endpointSymbol tag)
  | none => []

/-- The endpoint fields of a template have different names, and no name of an endpoint field ends
in another one behind an underscore. -/
structure Catalog.EndpointsApart (catalog : Catalog) : Prop where
  distinct : ∀ entry ∈ catalog.templates, (entry.2.endpointFields.map identifier).Nodup
  endings : ∀ entry ∈ catalog.templates, ∀ field ∈ entry.2.endpointFields,
    ∀ other ∈ catalog.templates, ∀ longer ∈ other.2.endpointFields,
      ¬ '_' :: (identifier field).toList <:+ (identifier longer).toList

theorem Catalog.endpointsApart_builtin : builtin.EndpointsApart where
  distinct := by decide +kernel
  endings := by decide +kernel

theorem toList_endpointSymbol (tag field : String) :
    (ResolvedInterface.endpointSymbol tag field).toList =
      "EPNUM_".toList ++ ((identifier tag).toList ++ '_' :: (identifier field).toList) := by
  simp [ResolvedInterface.endpointSymbol]

/-- A constant can be taken apart if neither field is named by the end of the other. -/
theorem identifier_tag_of_endpointSymbol {tag other field longer : String}
    (apart : ¬ '_' :: (identifier field).toList <:+ (identifier longer).toList)
    (otherApart : ¬ '_' :: (identifier longer).toList <:+ (identifier field).toList)
    (same : ResolvedInterface.endpointSymbol tag field =
      ResolvedInterface.endpointSymbol other longer) :
    identifier tag = identifier other ∧ identifier field = identifier longer := by
  have texts := congrArg String.toList same
  rw [toList_endpointSymbol, toList_endpointSymbol, List.append_cancel_left_eq] at texts
  have first : '_' :: (identifier field).toList <:+
      (identifier tag).toList ++ '_' :: (identifier field).toList := List.suffix_append _ _
  have second : '_' :: (identifier longer).toList <:+
      (identifier tag).toList ++ '_' :: (identifier field).toList := by
    rw [texts]
    exact List.suffix_append _ _
  have fields : '_' :: (identifier field).toList = '_' :: (identifier longer).toList := by
    rcases List.suffix_or_suffix_of_suffix first second with inside | inside
    · rcases List.suffix_cons_iff.mp inside with equal | shorter
      · exact equal
      · exact absurd shorter apart
    · rcases List.suffix_cons_iff.mp inside with equal | shorter
      · exact equal.symm
      · exact absurd shorter otherApart
  rw [fields, List.append_cancel_right_eq] at texts
  exact ⟨String.toList_injective texts, String.toList_injective (List.cons.inj fields).2⟩

/-- A field that is named by the end of another one would make constants alike. -/
example : ResolvedInterface.endpointSymbol "a_data" "in" =
    ResolvedInterface.endpointSymbol "a" "data_in" := by
  decide

end Endings

section Documents

variable {catalog : Catalog} {interface : Interface} {tag symbol : String} {document : Document}

theorem Interface.exists_endpointField (mem : symbol ∈ interface.endpointSymbols catalog tag) :
    ∃ entry ∈ catalog.templates, ∃ field ∈ entry.2.endpointFields,
      symbol = ResolvedInterface.endpointSymbol tag field := by
  unfold endpointSymbols at mem
  split at mem
  next template found =>
    rcases List.mem_map.mp mem with ⟨field, fieldMem, rfl⟩
    exact ⟨_, OrderedMap.mem_of_get?_eq_some found, field, fieldMem, rfl⟩
  next => cases mem

theorem Interface.nodup_endpointSymbols (apart : catalog.EndpointsApart) (tag : String) :
    (interface.endpointSymbols catalog tag).Nodup := by
  unfold endpointSymbols
  split
  next template found =>
    have fields := apart.distinct _ (OrderedMap.mem_of_get?_eq_some found)
    refine List.Nodup.map_on ?_ (List.Nodup.of_map _ fields)
    intro first firstMem second secondMem same
    refine List.inj_on_of_nodup_map fields firstMem secondMem ?_
    exact String.append_right_inj _ |>.mp same
  next => exact List.nodup_nil

/-- The constants of all interfaces of a document. -/
def Document.endpointSymbols (document : Document) (catalog : Catalog) : List String :=
  document.allInterfaces.flatMap fun entry => entry.2.endpointSymbols catalog entry.1

/-- Distinct identifiers of the tags make the constants of all interfaces distinct. -/
theorem Document.nodup_endpointSymbols (apart : catalog.EndpointsApart)
    (distinct : (document.tags.map identifier).Nodup) :
    (document.endpointSymbols catalog).Nodup := by
  have tags : (document.allInterfaces.map fun entry => identifier entry.1).Nodup := by
    have parts := (interface_tags_sublist.map identifier).nodup distinct
    rwa [List.map_map] at parts
  rw [endpointSymbols, List.nodup_flatMap]
  refine ⟨fun entry _ => entry.2.nodup_endpointSymbols apart entry.1, ?_⟩
  refine List.Pairwise.imp ?_ (List.pairwise_map.mp tags)
  intro entry other different symbol mem otherMem
  rcases Interface.exists_endpointField mem with ⟨template, templateMem, field, fieldMem, rfl⟩
  rcases Interface.exists_endpointField otherMem with
    ⟨otherTemplate, otherTemplateMem, longer, longerMem, same⟩
  have fields := apart.endings _ templateMem _ fieldMem _ otherTemplateMem _ longerMem
  have otherFields := apart.endings _ otherTemplateMem _ longerMem _ templateMem _ fieldMem
  exact different (identifier_tag_of_endpointSymbol fields otherFields same).1

theorem Template.map_fst_endpointRequests {template : Template} (closed : template.Closed)
    (tag : String) : (template.endpointRequests tag).map Prod.fst =
      template.endpointFields.map (ResolvedInterface.endpointSymbol tag) := by
  unfold endpointRequests endpointFields
  rw [List.map_filterMap, List.map_filterMap]
  refine List.filterMap_congr fun field mem => ?_
  have directed := closed.fields field mem
  unfold Field.endpointRequest?
  cases source : field.source with
  | endpoint =>
      rw [source] at directed
      rcases Option.isSome_iff_exists.mp directed with ⟨direction, found⟩
      simp [found]
  | _ => rfl

theorem Configuration.map_fst_endpointRequests (closed : catalog.Closed)
    (configuration : Configuration) : (configuration.endpointRequests catalog).map Prod.fst =
      configuration.interfaces.flatMap fun entry => entry.2.endpointSymbols catalog entry.1 := by
  rw [endpointRequests, List.map_flatMap]
  congr 1
  funext entry
  unfold Interface.endpointSymbols
  cases found : catalog.templates.get? entry.2.template with
  | none => rfl
  | some template =>
      exact Template.map_fst_endpointRequests
        (closed _ (OrderedMap.mem_of_get?_eq_some found)) entry.1

end Documents

theorem EndpointAllocator.map_symbol_grant (allocator : EndpointAllocator)
    (requests : List (String × Direction)) :
    (allocator.grant requests).map Endpoint.symbol = requests.map Prod.fst := by
  induction requests generalizing allocator with
  | nil => rfl
  | cons request rest ih => simp [grant, ih]

/-- The endpoints of a block are the constants of the interfaces of its configuration. -/
theorem ConfigurationBlock.MadeFrom.endpointSymbols_eq {catalog : Catalog} {device : String}
    {entry : String × Configuration} {number : Nat} {block : ConfigurationBlock}
    (closed : catalog.Closed) (origin : block.MadeFrom catalog device (entry, number)) :
    block.endpoints.map Endpoint.symbol =
      entry.2.interfaces.flatMap fun own => own.2.endpointSymbols catalog own.1 := by
  rw [origin.granted.1, EndpointAllocator.map_symbol_grant, entry.2.map_fst_endpointRequests closed]

namespace Generated

/-- The lines that a run puts together for the header. -/
def headerLines (generated : Generated) : List String :=
  generated.configurations.flatMap ConfigurationBlock.headerLines ++
    generated.reports.flatMap ReportTable.headerLines ++ generated.strings.enumLines

/-- The constants that the enumerations of the endpoints introduce. -/
def endpointSymbols (generated : Generated) : List String :=
  generated.configurations.flatMap fun block => introducedNames block.endpointEnumLines

end Generated

namespace ConfigurationBlock

variable {block : ConfigurationBlock}

theorem introducedNames_endpointEnumLines
    (areNames : ∀ endpoint ∈ block.endpoints, IsName endpoint.symbol) :
    introducedNames block.endpointEnumLines = block.endpoints.map Endpoint.symbol := by
  have listed : introducedNames (block.endpoints.map fun endpoint =>
      "\t" ++ endpoint.symbol ++ " = " ++ endpoint.address.text ++ ",") =
        block.endpoints.map Endpoint.symbol := by
    refine introducedNames_map fun endpoint mem => ?_
    rw [String.append_assoc]
    exact (areNames endpoint mem).valued _
  have opening : introducedNames ["", "enum \x7b"] = [] := by decide
  have closing : introducedNames ["\x7d;"] = [] := by decide
  unfold endpointEnumLines
  split
  next empty =>
    rw [List.isEmpty_iff.mp empty]
    rfl
  next =>
    rw [introducedNames_append, introducedNames_append, opening, listed, closing,
      List.nil_append, List.append_nil]

theorem introducedNames_interfaceEnumLines (areNames : ∀ name ∈ block.enumerators, IsName name) :
    introducedNames block.interfaceEnumLines = block.enumerators := by
  have listed := @introducedNames_map _ _ (fun name => "\t" ++ name ++ ",") id
    fun name mem => (areNames name mem).enumerator
  have opening : introducedNames ["enum \x7b"] = [] := by decide
  have closing : introducedNames ["\x7d;"] = [] := by decide
  rw [interfaceEnumLines_eq, introducedNames_append, introducedNames_append, opening, listed,
    closing, List.nil_append, List.append_nil, List.map_id]

/-- A configuration introduces its numbers, its total length and its endpoints. -/
theorem introducedNames_headerLines (numbers : ∀ name ∈ block.enumerators, IsName name)
    (total : IsName block.totalLengthSymbol) :
    introducedNames block.headerLines = block.enumerators ++
      block.totalLengthSymbol :: introducedNames block.endpointEnumLines := by
  have comment : introducedNames ["// " ++ block.tag] = [] := by
    simp [introducedNames, introducedName?_comment]
  have define : introducedNames ["", block.totalLengthLine] = [block.totalLengthSymbol] := by
    have nothing : introducedName? "" = none := by decide
    rw [totalLengthLine_eq]
    simp [introducedNames, nothing, total.define]
  rw [headerLines, introducedNames_append, introducedNames_append, introducedNames_append, comment,
    define, introducedNames_interfaceEnumLines numbers, List.nil_append, List.append_assoc,
    List.singleton_append]

end ConfigurationBlock

theorem ReportTable.introducedNames_headerLines {table : ReportTable}
    (areNames : ∀ report ∈ table.reports, IsName report.id) :
    introducedNames table.headerLines = table.reports.map Report.id := by
  have comment : introducedNames ["// " ++ table.tag, "enum \x7b"] = [] := by
    have opening : introducedName? "enum \x7b" = none := by decide
    simp [introducedNames, introducedName?_comment, opening]
  have closing : introducedNames ["\x7d;"] = [] := by decide
  have listed : introducedNames ((enumerators table.reports).map fun enumerator =>
      "\t" ++ enumerator ++ ",") = table.reports.map Report.id := by
    cases written : table.reports with
    | nil => rfl
    | cons first rest =>
        rw [written] at areNames
        rcases List.forall_mem_cons.mp areNames with ⟨own, others⟩
        have line : "\t" ++ (first.id ++ " = 1") ++ "," = "\t" ++ first.id ++ " = " ++ "1," :=
          String.toList_injective (by simp)
        have front : introducedNames ["\t" ++ (first.id ++ " = 1") ++ ","] = [first.id] := by
          rw [line]
          simp [introducedNames, own.valued]
        rw [enumerators, List.map_cons, ← List.singleton_append, introducedNames_append, front,
          List.map_map]
        exact congrArg _ (introducedNames_map fun report mem => (others report mem).enumerator)
  rw [headerLines, introducedNames_append, introducedNames_append, comment, listed, closing,
    List.nil_append, List.append_nil]

theorem StringTable.introducedNames_enumLines {table : StringTable}
    (areNames : ∀ name ∈ table.enumerators, IsName name) :
    introducedNames table.enumLines = table.enumerators := by
  have listed := @introducedNames_map _ _ (fun name => "\t" ++ name ++ ",") id
    fun name mem => (areNames name mem).enumerator
  rw [enumLines_eq, listed, List.map_id]

namespace Generated

variable {generated : Generated}

/-- All symbols of the header are names. -/
theorem isName_of_generate {catalog : Catalog} {document : Document}
    (run : document.generate catalog = .ok generated) {name : String}
    (symbol : generated.Symbol name) : IsName name where
  characters := (Document.names_of_generate run symbol).characters
  nonempty := (Document.names_of_generate run symbol).nonempty

theorem isName_enumerators (symbols : ∀ name, generated.Symbol name → IsName name) :
    ∀ name ∈ generated.strings.enumerators, IsName name := by
  intro name mem
  rcases List.mem_append.mp mem with front | last
  · rcases List.mem_cons.mp front with rfl | own
    · exact symbols _ .language
    · exact symbols _ (.string own)
  · rcases List.mem_singleton.mp last with rfl
    exact symbols _ .stringCount

/-- The header introduces the constants of the endpoints and what else it numbers. -/
theorem introducedNames_headerLines (symbols : ∀ name, generated.Symbol name → IsName name) :
    introducedNames generated.headerLines =
      (generated.configurations.flatMap fun block => block.enumerators ++
        block.totalLengthSymbol :: introducedNames block.endpointEnumLines) ++
      (generated.reports.flatMap fun table => table.reports.map Report.id) ++
      generated.strings.enumerators := by
  have configurations : introducedNames
      (generated.configurations.flatMap ConfigurationBlock.headerLines) =
        generated.configurations.flatMap fun block => block.enumerators ++
          block.totalLengthSymbol :: introducedNames block.endpointEnumLines := by
    rw [introducedNames, List.filterMap_flatMap]
    refine List.flatMap_congr fun block mem => ?_
    exact ConfigurationBlock.introducedNames_headerLines
      (fun name listed => symbols name (.number mem listed)) (symbols _ (.totalLength mem))
  have reports : introducedNames (generated.reports.flatMap ReportTable.headerLines) =
      generated.reports.flatMap fun table => table.reports.map Report.id := by
    rw [introducedNames, List.filterMap_flatMap]
    refine List.flatMap_congr fun table mem => ?_
    exact ReportTable.introducedNames_headerLines fun report listed =>
      symbols _ (.report mem listed)
  rw [headerLines, introducedNames_append, introducedNames_append, configurations, reports,
    StringTable.introducedNames_enumLines (isName_enumerators symbols)]

end Generated

namespace Document

variable {catalog : Catalog} {document : Document} {generated : Generated}

/-- The enumerations of the endpoints list the constants of the interfaces, in their order. -/
theorem endpointSymbols_of_generate (closed : catalog.Closed)
    (run : document.generate catalog = .ok generated) :
    generated.endpointSymbols = document.endpointSymbols catalog := by
  have symbols := fun name => @Generated.isName_of_generate _ _ _ run name
  rw [endpointSymbols, allInterfaces, List.flatMap_assoc, Generated.endpointSymbols]
  have blocks : List.Forall₂ (fun (entry : String × Configuration) (block : ConfigurationBlock) =>
      (entry.2.interfaces.flatMap fun own => own.2.endpointSymbols catalog own.1) =
        introducedNames block.endpointEnumLines)
          document.allConfigurations generated.configurations := by
    refine Related.imp_of_members (blocks_of_generate run) ?_
    rintro entry - block mem ⟨device, number, origin⟩
    rw [ConfigurationBlock.introducedNames_endpointEnumLines fun endpoint listed =>
      symbols _ (.endpoint mem listed)]
    exact (origin.endpointSymbols_eq closed).symm
  exact (Related.flatMap_eq (fun _ _ same => same) blocks).symm

/-- A text that starts and ends like the constant of an endpoint. -/
structure SpelledLikeEndpoint (symbol : String) : Prop where
  start : symbol.toList.head? = some 'E'
  ending : ∃ direction : Direction, '_' :: direction.name.toList <:+ symbol.toList

theorem spelled_of_mem_endpointSymbols (closed : catalog.Closed) {symbol : String}
    (mem : symbol ∈ document.endpointSymbols catalog) : SpelledLikeEndpoint symbol := by
  rcases List.mem_flatMap.mp mem with ⟨own, -, listed⟩
  rcases Interface.exists_endpointField listed with ⟨entry, entryMem, field, fieldMem, rfl⟩
  rcases List.mem_filterMap.mp fieldMem with ⟨declared, declaredMem, asked⟩
  have directed := (closed entry entryMem).fields declared declaredMem
  split at asked
  next source =>
    rw [source] at directed
    cases asked
    rcases Option.isSome_iff_exists.mp directed with ⟨direction, named⟩
    exact ⟨head?_endpointSymbol _ _, direction, name_suffix_endpointSymbol _ named⟩
  next => cases asked

namespace SpelledLikeEndpoint

variable {symbol : String}

theorem ne_of_head? (spelled : SpelledLikeEndpoint symbol) {other : String} (c : Char)
    (start : other.toList.head? = some c) (different : c ≠ 'E') : symbol ≠ other := by
  rintro rfl
  rw [spelled.start] at start
  exact different (Option.some.inj start).symm

/-- The define of a total length ends in no direction. -/
theorem ne_totalLength (spelled : SpelledLikeEndpoint symbol) (block : ConfigurationBlock) :
    symbol ≠ block.totalLengthSymbol := by
  rintro rfl
  rcases spelled.ending with ⟨direction, ending⟩
  have total : "_LEN".toList <:+ block.totalLengthSymbol.toList := by
    refine ⟨(identifier block.tag).toList ++ "_TOTAL".toList, ?_⟩
    simp [ConfigurationBlock.totalLengthSymbol]
  have nested := List.suffix_or_suffix_of_suffix ending total
  revert nested
  cases direction <;> decide

theorem not_mem_enumerators (spelled : SpelledLikeEndpoint symbol) {device : String}
    {entry : String × Configuration} {number : Nat} {block : ConfigurationBlock}
    (origin : block.MadeFrom catalog device (entry, number)) : symbol ∉ block.enumerators := by
  intro mem
  rw [origin.enumerators_eq] at mem
  rcases List.mem_map.mp mem with ⟨name, -, same⟩
  exact spelled.ne_of_head? 'I' (head?_append (by decide) name) (by decide) same.symm

theorem not_mem_reports (spelled : SpelledLikeEndpoint symbol)
    {entry : String × Interface} {table : ReportTable} (made : table.TableOf catalog entry) :
    symbol ∉ table.reports.map Report.id := by
  intro mem
  rcases List.mem_map.mp mem with ⟨report, reportMem, rfl⟩
  rcases made with ⟨resolved, -, listed⟩
  rcases Related.exists_left (ReportTable.reports_of_ofNames listed) reportMem with ⟨name, -, own⟩
  have id := (ReportTable.report_ok own).1
  rw [String.append_assoc, String.append_assoc] at id
  exact spelled.ne_of_head? 'R' (head?_append (by decide) _) (by decide) id

theorem not_mem_strings (spelled : SpelledLikeEndpoint symbol)
    (run : document.generate catalog = .ok generated) :
    symbol ∉ generated.strings.enumerators := by
  intro mem
  rcases List.mem_append.mp mem with front | last
  · rcases List.mem_cons.mp front with language | own
    · exact spelled.ne_of_head? 'S' (by decide) (by decide) language
    · rcases StringTable.mem_ids_of_addAll (addAll_of_generate run) own with
        empty | ⟨request, -, same⟩
      · cases empty
      · exact spelled.ne_of_head? 'S' request.head?_symbol (by decide) same
  · exact spelled.ne_of_head? 'S' (by decide) (by decide) (List.mem_singleton.mp last)

/-- Nothing else in the header is spelled like a constant of an endpoint. -/
theorem count_introducedNames (spelled : SpelledLikeEndpoint symbol)
    (run : document.generate catalog = .ok generated) :
    (introducedNames generated.headerLines).count symbol =
      generated.endpointSymbols.count symbol := by
  have reports : (generated.reports.flatMap fun table => table.reports.map Report.id).count symbol =
      0 := by
    refine List.count_eq_zero.mpr fun mem => ?_
    rcases List.mem_flatMap.mp mem with ⟨table, tableMem, listed⟩
    rcases registered_of_generate run with ⟨groups, hosts, registered⟩
    rcases Related.exists_left registered.reports tableMem with ⟨entry, -, made⟩
    exact spelled.not_mem_reports made listed
  have strings := List.count_eq_zero.mpr (spelled.not_mem_strings run)
  have each : ∀ block ∈ generated.configurations,
      (block.enumerators ++ block.totalLengthSymbol ::
        introducedNames block.endpointEnumLines).count symbol =
          (introducedNames block.endpointEnumLines).count symbol := by
    intro block mem
    rcases Related.exists_left (blocks_of_generate run) mem with ⟨entry, -, device, number, origin⟩
    rw [List.count_append, List.count_eq_zero.mpr (spelled.not_mem_enumerators origin),
      List.count_cons_of_ne (spelled.ne_totalLength block).symm, Nat.zero_add]
  rw [Generated.introducedNames_headerLines fun name => Generated.isName_of_generate run,
    List.count_append, List.count_append, reports, strings, Nat.add_zero,
    List.count_flatMap, Generated.endpointSymbols, List.count_flatMap]
  exact congrArg _ (List.map_congr_left each)

end SpelledLikeEndpoint

end Document

section Texts

theorem introducedNames_textLines {lines : List String} (single : ∀ line ∈ lines, SingleLine line) :
    introducedNames (textLines (unlines lines)) = introducedNames lines := by
  have empty : introducedNames [""] = [] := by decide
  rw [textLines_unlines, flatMap_textLines single, introducedNames_append, empty, List.append_nil]

/-- A section that joins parts introduces what its parts introduce. -/
theorem introducedNames_section {α : Type} {items : List α} {part : α → List String}
    (single : ∀ item ∈ items, ∀ line ∈ part item, SingleLine line) :
    introducedNames (textLines (if items.isEmpty then "// none\n"
      else joined "\n" (items.map fun item => unlines (part item)))) =
        introducedNames (items.flatMap part) := by
  have nothing : introducedNames (textLines "// none\n") = [] := by decide
  split
  next empty =>
    rw [List.isEmpty_iff.mp empty, nothing]
    rfl
  next present =>
    have nonempty : items.map (fun item => unlines (part item)) ≠ [] := by
      simpa using present
    rw [textLines_joined nonempty, List.flatMap_map, introducedNames, introducedNames,
      List.filterMap_flatMap, List.filterMap_flatMap]
    exact List.flatMap_congr fun item mem => introducedNames_textLines (single item mem)

end Texts

theorem EndpointAddress.singleLine_text (address : EndpointAddress) : SingleLine address.text :=
  singleLine_append.mpr ⟨by decide, (identifierTail_paddedHex 2 address.value).singleLine⟩

/-- The lengths of the built-in templates refer to nothing and stand in one line. -/
theorem Catalog.lengths_builtin : ∀ entry ∈ builtin.templates,
    '$' ∉ entry.2.length.toList ∧ SingleLine entry.2.length := by
  decide +kernel

namespace ConfigurationBlock.MadeFrom

variable {device : String} {entry : String × Configuration} {number : Nat}
  {block : ConfigurationBlock}

theorem singleLine_lengths (origin : block.MadeFrom Catalog.builtin device (entry, number)) :
    ∀ interface ∈ block.interfaces, SingleLine interface.length := by
  intro interface mem
  rcases Related.exists_left origin.interfaces mem with ⟨own, -, plan, planned, before, after, run⟩
  rcases ResolvedInterface.evaluate_ok run with ⟨_, _, _, length, -, -, -, measured, rfl⟩
  have plain := Catalog.lengths_builtin _ (OrderedMap.mem_of_get?_eq_some planned.template)
  rw [substitute_plain plain.1] at measured
  cases measured
  exact plain.2

/-- The header of a configuration is made of single lines if the tag of the configuration is one. -/
theorem singleLine_headerLines (origin : block.MadeFrom Catalog.builtin device (entry, number))
    (tag : SingleLine entry.1) (numbers : ∀ name ∈ block.enumerators, IsName name)
    (endpoints : ∀ endpoint ∈ block.endpoints, IsName endpoint.symbol) :
    ∀ line ∈ block.headerLines, SingleLine line := by
  have enumeration : ∀ line ∈ block.interfaceEnumLines, SingleLine line := by
    rw [interfaceEnumLines_eq, List.forall_mem_append, List.forall_mem_append]
    refine ⟨⟨by decide, List.forall_mem_map.mpr fun name mem => ?_⟩, by decide⟩
    simp only [singleLine_append]
    exact ⟨⟨by decide, (numbers name mem).characters.singleLine⟩, by decide⟩
  have total : SingleLine block.totalLengthLine := by
    have lengths : SingleLine (joined " + "
        ("TUD_CONFIG_DESC_LEN" :: block.interfaces.map EvaluatedInterface.length)) := by
      refine joined_induction (by decide) ?_ fun first rest left right => ?_
      · refine List.forall_mem_cons.mpr ⟨by decide, List.forall_mem_map.mpr ?_⟩
        exact origin.singleLine_lengths
      · exact singleLine_append.mpr ⟨singleLine_append.mpr ⟨left, by decide⟩, right⟩
    rw [totalLengthLine_eq, totalLengthSymbol]
    simp only [singleLine_append, singleLine_identifier, lengths, and_true, true_and]
    decide
  have constants : ∀ line ∈ block.endpointEnumLines, SingleLine line := by
    unfold endpointEnumLines
    split
    · exact List.forall_mem_nil _
    · rw [List.forall_mem_append, List.forall_mem_append]
      refine ⟨⟨by decide, List.forall_mem_map.mpr fun endpoint mem => ?_⟩, by decide⟩
      simp only [singleLine_append, (endpoints endpoint mem).characters.singleLine,
        endpoint.address.singleLine_text, and_true]
      decide
  unfold headerLines
  rw [List.forall_mem_append, List.forall_mem_append, List.forall_mem_append]
  refine ⟨⟨⟨?_, enumeration⟩, ?_⟩, constants⟩
  · rw [List.forall_mem_singleton, singleLine_append, origin.tag]
    exact ⟨by decide, tag⟩
  · rw [List.forall_mem_cons, List.forall_mem_singleton]
    exact ⟨by decide, total⟩

end ConfigurationBlock.MadeFrom

/-- The sections of the header that introduce names. -/
def Generated.headerTexts (generated : Generated) : List String :=
  [generated.configurationEnums, generated.reportEnums, generated.stringEnum]

namespace Document

variable {text : String} {document : Document} {generated : Generated}

/-- The sections introduce what their lines introduce unless a tag of a configuration holds a line
feed. -/
theorem introducedNames_headerTexts (found : read Catalog.builtin text = .ok document)
    (run : document.generate Catalog.builtin = .ok generated)
    (tags : ∀ entry ∈ document.allConfigurations, SingleLine entry.1) :
    introducedNames (generated.headerTexts.flatMap textLines) =
      introducedNames generated.headerLines := by
  have symbols := fun name => @Generated.isName_of_generate _ _ _ run name
  have configurations : ∀ block ∈ generated.configurations, ∀ line ∈ block.headerLines,
      SingleLine line := by
    intro block mem
    rcases Related.exists_left (blocks_of_generate run) mem with
      ⟨entry, entryMem, device, number, origin⟩
    exact origin.singleLine_headerLines (tags entry entryMem)
      (fun name listed => symbols name (.number mem listed))
      fun endpoint listed => symbols _ (.endpoint mem listed)
  have reports : ∀ table ∈ generated.reports, ∀ line ∈ table.headerLines, SingleLine line := by
    intro table mem
    rcases registered_of_generate run with ⟨groups, hosts, registered⟩
    rcases Related.exists_left registered.reports mem with ⟨entry, entryMem, made⟩
    apply ReportTable.singleLine_headerLines
    exact made.spelled (accepted_of_read found entry (mem_reportInterfaces_iff.mp entryMem).1)
  have strings : ∀ line ∈ generated.strings.enumLines, SingleLine line := by
    rw [StringTable.enumLines_eq]
    refine List.forall_mem_map.mpr fun name mem => ?_
    have isName := Generated.isName_enumerators symbols name mem
    simp only [singleLine_append]
    exact ⟨⟨by decide, isName.characters.singleLine⟩, by decide⟩
  have sections : generated.headerTexts.flatMap textLines =
      textLines generated.configurationEnums ++ textLines generated.reportEnums ++
        textLines generated.stringEnum := by
    simp [Generated.headerTexts]
  rw [sections, Generated.headerLines, introducedNames_append, introducedNames_append,
    introducedNames_append, introducedNames_append, Generated.configurationEnums,
    Generated.reportEnums, Generated.stringEnum, introducedNames_section configurations,
    introducedNames_section reports, introducedNames_textLines strings]

/-- Every successful run on a document that is read against the built-in catalog lists one constant
for every endpoint field of every interface, and all of them are distinct, whatever interface,
configuration and device they belong to. Nothing else on the lines of the header introduces one of
them. These lines are those of the text that is written unless a tag of a configuration, which
stands in a comment, holds a line feed. -/
theorem endpointSymbols_of_read (found : read Catalog.builtin text = .ok document)
    (run : document.generate Catalog.builtin = .ok generated) :
    generated.endpointSymbols = document.endpointSymbols Catalog.builtin ∧
      generated.endpointSymbols.Nodup ∧
      (∀ symbol ∈ generated.endpointSymbols,
        (introducedNames generated.headerLines).count symbol = 1) ∧
      ((∀ entry ∈ document.allConfigurations, SingleLine entry.1) →
        introducedNames (generated.headerTexts.flatMap textLines) =
          introducedNames generated.headerLines) := by
  have symbols := endpointSymbols_of_generate Catalog.closed_builtin run
  have distinct : generated.endpointSymbols.Nodup := by
    rw [symbols]
    exact nodup_endpointSymbols Catalog.endpointsApart_builtin (nodup_identifier_tags_of_read found)
  refine ⟨symbols, distinct, ?_, introducedNames_headerTexts found run⟩
  intro symbol mem
  have spelled := spelled_of_mem_endpointSymbols Catalog.closed_builtin (symbols ▸ mem)
  rw [spelled.count_introducedNames run]
  exact List.count_eq_one_of_mem distinct mem

theorem endpointSymbols_inputsValue : ∃ document generated,
    read Catalog.builtin inputsValue.compact = .ok document ∧
      document.generate Catalog.builtin = .ok generated ∧
      generated.endpointSymbols = document.endpointSymbols Catalog.builtin ∧
      generated.endpointSymbols.Nodup ∧
      (∀ symbol ∈ generated.endpointSymbols,
        (introducedNames generated.headerLines).count symbol = 1) ∧
      ((∀ entry ∈ document.allConfigurations, SingleLine entry.1) →
        introducedNames (generated.headerTexts.flatMap textLines) =
          introducedNames generated.headerLines) := by
  rcases runs_inputsValue with ⟨document, generated, found, run⟩
  exact ⟨document, generated, found, run, endpointSymbols_of_read found run⟩

end Document

end UsbDescriptors
