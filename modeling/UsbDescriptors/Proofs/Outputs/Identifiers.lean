import UsbDescriptors.Proofs.Endpoints.Addresses
import UsbDescriptors.Proofs.Outputs.Declarations
import UsbDescriptors.Proofs.Outputs.Sections

/-!
# Identifiers that a run defines

The files of a run define objects and arrays, enumerators and total lengths under symbols that are
spelled after tags. An identifier that is spelled after a tag holds letters, digits and underscores
only, but it starts with a digit if the tag does. Behind a fixed prefix this does no harm, so all
symbols with a prefix are C identifiers, whatever the tags are. The define of a total length has no
prefix: it is a C identifier if and only if the tag of its configuration does not start with a digit.
-/

namespace UsbDescriptors

open Json (Value)

/-- Whether the first character of a tag is a digit. -/
def startsWithDigit (tag : String) : Bool :=
  tag.toList.head?.any Char.isDigit

section Spelling

variable {front rest : String}

theorem isCIdentifier_append (valid : isCIdentifier front = true) (tail : IdentifierTail rest) :
    isCIdentifier (front ++ rest) = true := by
  cases written : front.toList with
  | nil => simp [isCIdentifier, written] at valid
  | cons first more =>
      simp only [isCIdentifier, written, Bool.and_eq_true] at valid
      have others : rest.toList.all isIdentifierTail = true := List.all_eq_true.mpr tail
      simp [isCIdentifier, written, valid.1, valid.2, others]

theorem identifierTail_numberName (tag : String) (index : Nat) :
    IdentifierTail (numberName tag index) := by
  unfold numberName
  split
  · exact identifierTail_identifier tag
  · simp only [identifierTail_append, identifierTail_identifier, identifierTail_toString, and_true,
      true_and]
    decide

/-- The character that stands for the first one of a tag may start a C identifier unless it is a
digit. -/
theorem startsIdentifier_identifierChar_iff (c : Char) :
    ((identifierChar c).isAlpha || identifierChar c = '_') = true ↔ c.isDigit = false := by
  by_cases digit : c.isDigit = true
  · have letter : c.isAlpha = false := by
      rw [Bool.eq_false_iff, Ne, isAlpha_iff]
      simp [Char.isDigit] at digit
      grind
    have other : c ≠ '_' := by
      rintro rfl
      simp at digit
    simp [identifierChar_of_isDigit digit, digit, letter, other]
  · by_cases letter : c.isAlpha = true
    · have upper := isAlpha_toUpper letter
      simp [identifierChar, Char.isAlphanum, letter, upper, digit]
    · simp [identifierChar, Char.isAlphanum, letter, digit]

end Spelling

/-- The define of a total length is a C identifier unless the tag starts with a digit. -/
theorem isCIdentifier_totalLength_iff (tag : String) :
    isCIdentifier (identifier tag ++ "_TOTAL_LEN") = true ↔ startsWithDigit tag = false := by
  have ending : "_TOTAL_LEN".toList.all isIdentifierTail = true := by decide
  cases written : tag.toList with
  | nil =>
      have empty : identifier tag = "" := by
        apply String.toList_injective
        simp [written]
      have named : isCIdentifier "_TOTAL_LEN" = true := by decide
      rw [empty, String.empty_append]
      simp [named, startsWithDigit, written]
  | cons first rest =>
      have symbol : (identifier tag ++ "_TOTAL_LEN").toList =
          identifierChar first :: (rest.map identifierChar ++ "_TOTAL_LEN".toList) := by
        simp [written]
      have others : (rest.map identifierChar ++ "_TOTAL_LEN".toList).all isIdentifierTail = true := by
        rw [List.all_append, ending, Bool.and_true, List.all_map]
        exact List.all_eq_true.mpr fun c _ => isIdentifierTail_identifierChar c
      rw [isCIdentifier, symbol]
      simp only [others, Bool.and_true, startsWithDigit, written]
      exact startsIdentifier_identifierChar_iff first

/-- The first line of a definition: of an object or an array with its type, of an enumerator, or of
a define with its value. -/
inductive DefinitionLine (name : String) : String → Prop
  | object (type : String) :
      DefinitionLine name ("static const " ++ type ++ " " ++ name ++ " = \x7b")
  | array (type : String) :
      DefinitionLine name ("static const " ++ type ++ " " ++ name ++ "[] = \x7b")
  | enumerator {line : String} (lists : EnumeratorLine name line) : DefinitionLine name line
  | define (value : String) : DefinitionLine name ("#define " ++ name ++ " " ++ value)

namespace Generated

/-- The symbols that the files of a run define. -/
inductive Symbol (generated : Generated) : String → Prop
  | device {block : DeviceBlock} (mem : block ∈ generated.devices) : Symbol generated block.symbol
  | configurations {block : DeviceBlock} (mem : block ∈ generated.devices) :
      Symbol generated block.configurationsSymbol
  | configuration {block : ConfigurationBlock} (mem : block ∈ generated.configurations) :
      Symbol generated block.symbol
  | totalLength {block : ConfigurationBlock} (mem : block ∈ generated.configurations) :
      Symbol generated block.totalLengthSymbol
  | number {block : ConfigurationBlock} (mem : block ∈ generated.configurations) {name : String}
      (listed : name ∈ block.enumerators) : Symbol generated name
  | endpoint {block : ConfigurationBlock} (mem : block ∈ generated.configurations)
      {endpoint : Endpoint} (listed : endpoint ∈ block.endpoints) :
      Symbol generated endpoint.symbol
  | table {table : ReportTable} (mem : table ∈ generated.reports) : Symbol generated table.symbol
  | report {table : ReportTable} (mem : table ∈ generated.reports) {report : Report}
      (listed : report ∈ table.reports) : Symbol generated report.id
  | language : Symbol generated "STRING_INDEX_LANGUAGE"
  | string {id : String} (mem : id ∈ generated.strings.ids) : Symbol generated id
  | stringCount : Symbol generated "STRING_INDEX_COUNT"

variable {generated : Generated}

/-- Some section of the run begins a definition of the name. -/
def Contains (generated : Generated) (name : String) : Prop :=
  ∃ text ∈ generated.variables.map Prod.snd, HasLine text (DefinitionLine name)

/-- A name is defined in a section if a part of the lines of the section begins its definition. -/
theorem contains_of_isInfix {text name line : String} {part : List String}
    (listed : text ∈ generated.variables.map Prod.snd)
    (section_ : ∃ lines, text = unlines lines ∧ part <:+: lines) (mem : line ∈ part)
    (single : SingleLine line) (begins : DefinitionLine name line) : generated.Contains name := by
  rcases section_ with ⟨lines, rfl, inside⟩
  exact ⟨_, listed, hasLine_unlines (inside.subset mem) single begins⟩

theorem contains_device {block : DeviceBlock} (mem : block ∈ generated.devices)
    (single : SingleLine block.symbol) : generated.Contains block.symbol := by
  have opening : "static const tusb_desc_device_t " =
      "static const " ++ "tusb_desc_device_t" ++ " " := by decide
  refine contains_of_isInfix ?_ (isInfix_descriptorLines mem) ?_ ?_ (.object "tusb_desc_device_t")
  · simp [Generated.variables]
  · rw [← opening]
    simp [DeviceBlock.descriptorLines]
  · simp only [singleLine_append, single, and_true]
    decide

theorem contains_configurations {block : DeviceBlock} (mem : block ∈ generated.devices)
    (single : SingleLine block.configurationsSymbol) :
    generated.Contains block.configurationsSymbol := by
  have opening : "static const uint8_t* const " =
      "static const " ++ "uint8_t* const" ++ " " := by decide
  refine contains_of_isInfix ?_ (isInfix_configurationArrayLines mem) ?_ ?_ (.array "uint8_t* const")
  · simp [Generated.variables]
  · rw [← opening]
    simp [DeviceBlock.configurationArrayLines]
  · simp only [singleLine_append, single, and_true]
    decide

theorem contains_configuration {block : ConfigurationBlock} (mem : block ∈ generated.configurations)
    (single : SingleLine block.symbol) : generated.Contains block.symbol := by
  have opening : "static const uint8_t " = "static const " ++ "uint8_t" ++ " " := by decide
  refine contains_of_isInfix ?_ (isInfix_sourceLines mem) ?_ ?_ (.array "uint8_t")
  · simp [Generated.variables]
  · rw [← opening]
    simp [ConfigurationBlock.sourceLines]
  · simp only [singleLine_append, single, and_true]
    decide

theorem contains_table {table : ReportTable} (mem : table ∈ generated.reports) :
    generated.Contains table.symbol := by
  have opening : "static const uint8_t " = "static const " ++ "uint8_t" ++ " " := by decide
  refine ⟨generated.hidReports, by simp [Generated.variables], _, (emits_of_mem mem).array, ?_⟩
  rw [opening]
  exact .array "uint8_t"

theorem contains_of_enumerates {text name : String}
    (header : text ∈ [generated.configurationEnums, generated.reportEnums, generated.stringEnum])
    (listed : Enumerates text name) : generated.Contains name := by
  rcases listed with ⟨line, mem, own⟩
  refine ⟨text, ?_, line, mem, .enumerator own⟩
  simp only [List.mem_cons, List.not_mem_nil, or_false] at header
  rcases header with rfl | rfl | rfl
  · simp [Generated.variables]
  · simp [Generated.variables]
  · simp [Generated.variables, stringEnum]

theorem contains_totalLength {block : ConfigurationBlock} (mem : block ∈ generated.configurations) :
    generated.Contains block.totalLengthSymbol := by
  rcases hasLine_configurationEnums mem block.defines_totalLength with
    ⟨line, lineMem, value, rfl⟩
  exact ⟨generated.configurationEnums, by simp [Generated.variables], _, lineMem, .define value⟩

/-- The first and the last enumerator of the string indices have fixed names. -/
theorem contains_ends {name : String}
    (own : name = "STRING_INDEX_LANGUAGE" ∨ name = "STRING_INDEX_COUNT") :
    generated.Contains name := by
  have line : "\t" ++ name ++ "," ∈ generated.strings.enumLines := by
    rcases own with rfl | rfl
    · exact List.mem_append_left _ List.mem_cons_self
    · exact List.mem_append_right _ (by decide)
  have single : SingleLine ("\t" ++ name ++ ",") := by
    rcases own with rfl | rfl <;> decide
  have listed : Enumerates generated.stringEnum name := hasLine_unlines line single .plain
  exact contains_of_enumerates (by simp) listed

/-- Every symbol that is spelled like an identifier is defined in some section. -/
theorem Symbol.contains {name : String} (symbol : generated.Symbol name)
    (tail : IdentifierTail name) : generated.Contains name := by
  have single := tail.singleLine
  cases symbol with
  | device mem => exact contains_device mem single
  | configurations mem => exact contains_configurations mem single
  | configuration mem => exact contains_configuration mem single
  | totalLength mem => exact contains_totalLength mem
  | number mem listed =>
      apply contains_of_enumerates List.mem_cons_self
      exact hasLine_configurationEnums mem (ConfigurationBlock.enumerates_number listed single)
  | endpoint mem listed =>
      apply contains_of_enumerates List.mem_cons_self
      exact hasLine_configurationEnums mem (ConfigurationBlock.enumerates_endpoint listed single)
  | table mem => exact contains_table mem
  | report mem listed =>
      apply contains_of_enumerates (List.mem_cons_of_mem _ List.mem_cons_self)
      exact hasLine_reportEnums mem (ReportTable.enumerates_id listed tail)
  | language => exact contains_ends (Or.inl rfl)
  | string mem =>
      have listed : Enumerates generated.stringEnum name := StringTable.enumerates_id mem single
      exact contains_of_enumerates (by simp) listed
  | stringCount => exact contains_ends (Or.inr rfl)

end Generated

theorem Configuration.exists_endpointSymbol {configuration : Configuration} {catalog : Catalog}
    {symbol : String} {direction : Direction}
    (mem : (symbol, direction) ∈ configuration.endpointRequests catalog) :
    ∃ tag field, symbol = ResolvedInterface.endpointSymbol tag field := by
  rcases List.mem_flatMap.mp mem with ⟨entry, -, requested⟩
  split at requested
  next template found =>
    rcases List.mem_filterMap.mp requested with ⟨field, -, asked⟩
    unfold Field.endpointRequest? at asked
    split at asked
    next =>
      rcases Option.map_eq_some_iff.mp asked with ⟨_, -, same⟩
      exact ⟨entry.1, field.name, (Prod.mk.inj same).1.symm⟩
    next => cases asked
  next absent => cases requested

theorem ReportTable.TableOf.isCIdentifier_id {catalog : Catalog} {entry : String × Interface}
    {table : ReportTable} (made : table.TableOf catalog entry) {report : Report}
    (mem : report ∈ table.reports) : isCIdentifier report.id = true := by
  rcases made with ⟨resolved, -, listed⟩
  rcases Related.exists_left (reports_of_ofNames listed) mem with ⟨name, -, own⟩
  rw [(report_ok own).1, String.append_assoc, String.append_assoc]
  apply isCIdentifier_append (by decide)
  simp only [identifierTail_append, identifierTail_identifier, and_true, true_and]
  decide

namespace Document

variable {catalog : Catalog} {document : Document} {generated : Generated}

/-- Every symbol of a run but the total lengths has a prefix that makes it a C identifier. -/
theorem isCIdentifier_of_symbol (run : document.generate catalog = .ok generated) {name : String}
    (symbol : generated.Symbol name) :
    isCIdentifier name = true ∨
      ∃ entry ∈ document.allConfigurations, name = identifier entry.1 ++ "_TOTAL_LEN" := by
  cases symbol with
  | device mem => exact Or.inl (isCIdentifier_append (by decide) (identifierTail_identifier _))
  | configurations mem =>
      exact Or.inl (isCIdentifier_append (by decide) (identifierTail_identifier _))
  | configuration mem =>
      exact Or.inl (isCIdentifier_append (by decide) (identifierTail_identifier _))
  | totalLength mem =>
      rcases Related.exists_left (blocks_of_generate run) mem with
        ⟨entry, entryMem, device, number, origin⟩
      exact Or.inr ⟨entry, entryMem, congrArg (identifier · ++ "_TOTAL_LEN") origin.tag⟩
  | number mem listed =>
      rcases Related.exists_left (blocks_of_generate run) mem with
        ⟨entry, -, device, number, origin⟩
      rw [origin.enumerators_eq] at listed
      rcases List.mem_map.mp listed with ⟨rest, restMem, rfl⟩
      refine Or.inl (isCIdentifier_append (by decide) ?_)
      rcases List.mem_append.mp restMem with number | total
      · rcases List.mem_flatMap.mp number with ⟨interface, -, named⟩
        rcases Interface.mem_numberNames_iff.mp named with ⟨index, -, rfl⟩
        exact identifierTail_numberName _ _
      · rcases List.mem_singleton.mp total with rfl
        exact identifierTail_append.mpr ⟨by decide, identifierTail_identifier _⟩
  | endpoint mem listed =>
      rcases Related.exists_left (blocks_of_generate run) mem with
        ⟨entry, -, device, number, origin⟩
      rw [origin.granted.1] at listed
      rcases EndpointAllocator.request_of_mem_grant listed with ⟨_, requested, -, -⟩
      rcases Configuration.exists_endpointSymbol requested with ⟨tag, field, named⟩
      left
      rw [named, ResolvedInterface.endpointSymbol, String.append_assoc, String.append_assoc]
      apply isCIdentifier_append (by decide)
      simp only [identifierTail_append, identifierTail_identifier, and_true, true_and]
      decide
  | table mem => exact Or.inl (isCIdentifier_append (by decide) (identifierTail_identifier _))
  | report mem listed =>
      rcases registered_of_generate run with ⟨groups, hosts, registered⟩
      rcases Related.exists_left registered.reports mem with ⟨entry, -, made⟩
      exact Or.inl (made.isCIdentifier_id listed)
  | language => exact Or.inl (by decide)
  | string mem =>
      rcases StringTable.mem_ids_of_addAll (addAll_of_generate run) mem with empty | ⟨request, -, rfl⟩
      · cases empty
      · left
        rw [StringRequest.symbol, StringTable.symbol, String.append_assoc, String.append_assoc]
        apply isCIdentifier_append (by decide)
        simp only [identifierTail_append, identifierTail_identifier, and_true, true_and]
        decide
  | stringCount => exact Or.inl (by decide)

theorem exists_totalLength_of_generate (run : document.generate catalog = .ok generated)
    {entry : String × Configuration} (mem : entry ∈ document.allConfigurations) :
    generated.Symbol (identifier entry.1 ++ "_TOTAL_LEN") := by
  rcases Related.exists_right (blocks_of_generate run) mem with
    ⟨block, blockMem, device, number, origin⟩
  have symbol := Generated.Symbol.totalLength blockMem
  rw [ConfigurationBlock.totalLengthSymbol, origin.tag] at symbol
  exact symbol

/-- What holds of a symbol of a run: some section begins its definition, it is written in letters,
digits and underscores, and it is a C identifier unless it is the total length of a configuration
whose tag starts with a digit. -/
structure Names (document : Document) (generated : Generated) (name : String) : Prop where
  defined : generated.Contains name
  nonempty : name ≠ ""
  characters : IdentifierTail name
  valid : isCIdentifier name = true ↔ ∀ entry ∈ document.allConfigurations,
    name = identifier entry.1 ++ "_TOTAL_LEN" → startsWithDigit entry.1 = false

theorem names_of_generate (run : document.generate catalog = .ok generated) {name : String}
    (symbol : generated.Symbol name) : document.Names generated name := by
  have spelled := isCIdentifier_of_symbol run symbol
  have characters : IdentifierTail name := by
    rcases spelled with valid | ⟨entry, -, rfl⟩
    · exact ReportTable.identifierTail_of_isCIdentifier valid
    · exact identifierTail_append.mpr ⟨identifierTail_identifier _, by decide⟩
  constructor
  · exact symbol.contains characters
  · rcases spelled with valid | ⟨entry, -, rfl⟩
    · rintro rfl
      simp [isCIdentifier] at valid
    · intro empty
      have lengths := congrArg String.length empty
      simp at lengths
  · exact characters
  · constructor
    · rintro valid entry - rfl
      exact (isCIdentifier_totalLength_iff entry.1).mp valid
    · intro others
      rcases spelled with valid | ⟨entry, mem, rfl⟩
      · exact valid
      · exact (isCIdentifier_totalLength_iff entry.1).mpr (others entry mem rfl)

/-- The symbols of a successful run are all C identifiers if and only if no tag of a configuration
starts with a digit. Whatever the tags are, a symbol that is none is the define of a total length. -/
theorem identifiers_of_generate (run : document.generate catalog = .ok generated) :
    (∀ name, generated.Symbol name → document.Names generated name) ∧
      ((∀ name, generated.Symbol name → isCIdentifier name = true) ↔
        ∀ entry ∈ document.allConfigurations, startsWithDigit entry.1 = false) := by
  refine ⟨fun name symbol => names_of_generate run symbol, ?_⟩
  constructor
  · intro all entry mem
    exact (isCIdentifier_totalLength_iff entry.1).mp (all _ (exists_totalLength_of_generate run mem))
  · intro letters name symbol
    exact (names_of_generate run symbol).valid.mpr fun entry mem _ => letters entry mem

theorem identifiers_inputsValue : ∃ document generated,
    read Catalog.builtin inputsValue.compact = .ok document ∧
      document.generate Catalog.builtin = .ok generated ∧
      (∀ name, generated.Symbol name → document.Names generated name) ∧
      ((∀ name, generated.Symbol name → isCIdentifier name = true) ↔
        ∀ entry ∈ document.allConfigurations, startsWithDigit entry.1 = false) := by
  rcases runs_inputsValue with ⟨document, generated, found, run⟩
  exact ⟨document, generated, found, run, identifiers_of_generate run⟩

/-- A device with a configuration whose tag starts with a digit. -/
def ordinalValue : Value :=
  .object [("devices", .object [("dev0", .object [
    ("vendor", .number (.integer 1)), ("configurations", .object [("1st", .object [])])])])]

/-- The document is read and its run succeeds, but the total length has no proper name. -/
example : (read Catalog.builtin ordinalValue.compact >>= fun document =>
      document.generate Catalog.builtin).map
        (fun generated => generated.configurations.map ConfigurationBlock.totalLengthSymbol) =
    .ok ["1ST_TOTAL_LEN"] := by
  decide +kernel

end Document

end UsbDescriptors
