import UsbDescriptors.Proofs.Catalog.Reading
import UsbDescriptors.Proofs.Outputs.Identifiers

/-!
# Numbers of reports

The header enumerates the reports of an interface in the order in which the interface lists them,
and the source uses them in the same order. By the rule of C the reports are numbered from one on.
An enumeration needs an enumerator, and each of them needs a name of its own: the table of an
interface that lists no reports has none, and one that lists a report twice has a name twice. For
any other interface a line of the source uses the id whose number is the place of the report.
-/

namespace UsbDescriptors

open Json (Value)

/-- The numbers that C gives to the enumerators on some lines: one with a value has this value, and
any other has the number behind that of the enumerator in front of it. The first one has `next`. -/
inductive EnumeratorLines : (next : Nat) → (lines : List String) → List (String × Nat) → Prop
  | nil {next : Nat} : EnumeratorLines next [] []
  | plain {next : Nat} {name : String} {lines : List String} {numbers : List (String × Nat)}
      (valid : isCIdentifier name = true) (rest : EnumeratorLines (next + 1) lines numbers) :
      EnumeratorLines next (("\t" ++ name ++ ",") :: lines) ((name, next) :: numbers)
  | valued {next value : Nat} {name : String} {lines : List String} {numbers : List (String × Nat)}
      (valid : isCIdentifier name = true) (rest : EnumeratorLines (value + 1) lines numbers) :
      EnumeratorLines next (("\t" ++ name ++ " = " ++ toString value ++ ",") :: lines)
        ((name, value) :: numbers)

theorem enumeratorLines_plain {names : List String} {next : Nat}
    (valid : ∀ name ∈ names, isCIdentifier name = true) :
    EnumeratorLines next (names.map fun name => "\t" ++ name ++ ",") (names.zipIdx next) := by
  induction names generalizing next with
  | nil => exact .nil
  | cons name rest ih =>
      rcases List.forall_mem_cons.mp valid with ⟨own, others⟩
      exact .plain own (ih others)

/-- Resolving an interface gives the items of the array from which it takes its reports. -/
def Interface.ListsReports (catalog : Catalog) (entry : String × Interface) (items : List Value) :
    Prop :=
  ∃ resolved name, ResolvedInterface.resolve catalog entry.1 entry.2 = .ok resolved ∧
    resolved.template.reports = some name ∧ resolved.properties.get? name = some (.array items)

/-- The line of the source that uses a report. -/
def Report.sourceLine (report : Report) : String :=
  "\t" ++ report.descriptor ++ "(HID_REPORT_ID(" ++ report.id ++ ")),"

namespace ReportTable

/-- The ids of a table with their numbers. -/
def numberedIds (table : ReportTable) : List (String × Nat) :=
  (table.reports.map Report.id).zipIdx 1

/-- A table that has a report for every item of a list, in order, and whose texts enumerate and use
the reports in this order. -/
structure WrittenFor (generated : Generated) (items : List Value) (table : ReportTable) : Prop where
  names : table.reports.map Report.name = items.map Value.plainText
  /-- The enumeration in the header numbers the reports from one on. -/
  header : ∃ lines, EnumeratorLines 0 lines table.numberedIds ∧
    ["// " ++ table.tag, "enum \x7b"] ++ lines ++ ["\x7d;"] <:+: textLines generated.reportEnums
  source : ["// " ++ table.tag, "static const uint8_t " ++ table.symbol ++ "[] = \x7b"] ++
    table.reports.map Report.sourceLine ++ ["\x7d;"] <:+: textLines generated.hidReports

/-- A table with at least one report whose ids are distinct, so that an id has one number only, the
place of its report. -/
structure Valid (table : ReportTable) : Prop where
  nonempty : table.reports ≠ []
  distinct : (table.reports.map Report.id).Nodup
  number : ∀ index report, table.reports[index]? = some report →
    ∀ number, (report.id, number) ∈ table.numberedIds ↔ number = index + 1

variable {catalog : Catalog} {entry : String × Interface} {items : List Value}
  {table : ReportTable}

theorem enumeratorLines_enumerators {reports : List Report}
    (valid : ∀ report ∈ reports, isCIdentifier report.id = true) :
    EnumeratorLines 0 ((enumerators reports).map fun enumerator => "\t" ++ enumerator ++ ",")
      ((reports.map Report.id).zipIdx 1) := by
  cases reports with
  | nil => exact .nil
  | cons first rest =>
      rcases List.forall_mem_cons.mp valid with ⟨own, others⟩
      have one : toString 1 = "1" := by decide
      have line : "\t" ++ (first.id ++ " = 1") ++ "," =
          "\t" ++ first.id ++ " = " ++ toString 1 ++ "," := by
        rw [one]
        exact String.toList_injective (by simp)
      rw [enumerators, List.map_cons, line]
      exact .valued own (enumeratorLines_plain (by simpa using others))

theorem singleLine_headerLines (spelled : table.Spelled) :
    ∀ line ∈ table.headerLines, SingleLine line := by
  have single : ∀ enumerator ∈ enumerators table.reports, SingleLine enumerator := by
    have ids := spelled.ids
    cases listed : table.reports with
    | nil => exact List.forall_mem_nil _
    | cons first rest =>
        rw [listed] at ids
        rcases List.forall_mem_cons.mp ids with ⟨own, others⟩
        refine List.forall_mem_cons.mpr ⟨singleLine_append.mpr ⟨own.singleLine, by decide⟩, ?_⟩
        exact List.forall_mem_map.mpr fun report mem => (others report mem).singleLine
  unfold headerLines
  rw [List.forall_mem_append, List.forall_mem_append]
  refine ⟨⟨List.forall_mem_cons.mpr ⟨?_, by decide⟩, ?_⟩, by decide⟩
  · exact singleLine_append.mpr ⟨by decide, spelled.tag⟩
  · refine List.forall_mem_map.mpr fun enumerator mem => ?_
    simp only [singleLine_append]
    exact ⟨⟨by decide, single enumerator mem⟩, by decide⟩

theorem identifier_injOn_stock : ∀ first ∈ stockDescriptors.keys,
    ∀ second ∈ stockDescriptors.keys, identifier first = identifier second → first = second := by
  decide

/-- Reports have different ids exactly if they have different names, since the stock names stay
different when they are spelled as identifiers. -/
theorem nodup_ids_iff {tag : String} {names : List String} {reports : List Report}
    (made : List.Forall₂ (fun name report => ReportTable.report tag name = .ok report)
      names reports) : (reports.map Report.id).Nodup ↔ names.Nodup := by
  have ids : names.map (fun name => "REPORT_ID_" ++ identifier tag ++ "_" ++ identifier name) =
      reports.map Report.id :=
    Related.map_eq (fun _ _ own => (report_ok own).1.symm) made
  have stock : ∀ name ∈ names, name ∈ stockDescriptors.keys := by
    intro name mem
    rcases Related.exists_right made mem with ⟨report, -, own⟩
    exact OrderedMap.contains_iff_mem_keys.mp (Option.isSome_of_eq_some (report_ok own).2)
  rw [← ids]
  refine ⟨List.Nodup.of_map _, List.Nodup.map_on ?_⟩
  intro first firstMem second secondMem same
  exact identifier_injOn_stock first (stock first firstMem) second (stock second secondMem)
    ((String.append_right_inj _).mp same)

theorem names_of_reports {tag : String} {names : List String} {reports : List Report}
    (made : List.Forall₂ (fun name report => ReportTable.report tag name = .ok report)
      names reports) : reports.map Report.name = names := by
  rw [← List.map_id names]
  refine (Related.map_eq ?_ made).symm
  intro name report own
  unfold ReportTable.report at own
  split at own
  next => cases own
  next => exact congrArg Report.name (Except.ok.inj own)

/-- Among distinct ids the number of an id is the place of its report. -/
theorem mem_numberedIds_iff (distinct : (table.reports.map Report.id).Nodup) {index : Nat}
    {report : Report} (present : table.reports[index]? = some report) {number : Nat} :
    (report.id, number) ∈ table.numberedIds ↔ number = index + 1 := by
  have own : (table.reports.map Report.id)[index]? = some report.id := by
    rw [List.getElem?_map, present, Option.map_some]
  have bound : index < (table.reports.map Report.id).length :=
    (List.getElem?_eq_some_iff.mp own).1
  rw [numberedIds, List.mem_zipIdx_iff_le_and_getElem?_sub]
  constructor
  · rintro ⟨least, found⟩
    have same := (List.getElem?_inj bound distinct).mp (own.trans found.symm)
    omega
  · rintro rfl
    exact ⟨Nat.le_add_left _ _, own⟩

/-- A table is valid exactly if it is made from names, no two of which are the same. -/
theorem valid_iff_of_names {tag : String} {names : List String}
    (listed : ofNames tag names = .ok table) : table.Valid ↔ names ≠ [] ∧ names.Nodup := by
  have made := reports_of_ofNames listed
  have same : table.reports = [] ↔ names = [] := by
    rw [← List.length_eq_zero_iff, ← List.length_eq_zero_iff, made.length_eq]
  constructor
  · intro valid
    exact ⟨mt same.mpr valid.nonempty, (nodup_ids_iff made).mp valid.distinct⟩
  · rintro ⟨nonempty, distinct⟩
    have ids := (nodup_ids_iff made).mpr distinct
    exact ⟨mt same.mp nonempty, ids, fun index report present number =>
      mem_numberedIds_iff ids present⟩

end ReportTable

namespace ReportTable.TableOf

variable {catalog : Catalog} {entry : String × Interface} {table : ReportTable}

/-- The names of a table are those of the array from which its interface takes reports. -/
theorem exists_items (made : table.TableOf catalog entry) (known : catalog.Known)
    (accepted : Interface.Accepted catalog entry)
    (carries : entry.2.carriesReports catalog = true) :
    ∃ items, Interface.ListsReports catalog entry items ∧
      ofNames entry.1 (items.map Value.plainText) = .ok table := by
  rcases made with ⟨resolved, run, listed⟩
  rcases ResolvedInterface.resolve_ok run with ⟨-, -, -, present, -⟩
  have kinds := ResolvedInterface.hasKinds_of_resolve known.sound accepted.fitsTemplate run
  rw [Interface.carriesReports, present, Option.any_some] at carries
  rcases Option.isSome_iff_exists.mp carries with ⟨name, reports⟩
  rcases known.listsReports _ (OrderedMap.mem_of_get?_eq_some present) name reports with
    ⟨property, declared, kind⟩
  rcases kinds.exists_get? declared with ⟨value, found, fits⟩
  rw [kind] at fits
  cases value with
  | array items =>
      refine ⟨items, ⟨resolved, name, run, reports, found⟩, ?_⟩
      simpa only [ResolvedInterface.reportNames, reports, found] using listed
  | _ => cases fits

end ReportTable.TableOf

namespace Generated

variable {generated : Generated} {table : ReportTable}

/-- The enumeration of a table stands in the header as it is. -/
theorem isInfix_reportEnums (mem : table ∈ generated.reports) (spelled : table.Spelled) :
    table.headerLines <:+: textLines generated.reportEnums := by
  have nonempty : generated.reports.isEmpty = false :=
    List.isEmpty_eq_false_iff.mpr (List.ne_nil_of_mem mem)
  have texts : generated.reports.map (fun table => unlines table.headerLines) =
      (generated.reports.map ReportTable.headerLines).map unlines := by
    rw [List.map_map]
    rfl
  have inside : table.headerLines <:+:
      [""].intercalate (generated.reports.map ReportTable.headerLines) :=
    isInfix_intercalate (List.mem_map_of_mem mem)
  rw [reportEnums, nonempty, texts, joined_unlines]
  exact isInfix_textLines_of_single inside (ReportTable.singleLine_headerLines spelled)

/-- The array of a table stands in the source as it is. -/
theorem isInfix_hidReports (mem : table ∈ generated.reports) (spelled : table.Spelled) :
    table.sourceLines <:+: textLines generated.hidReports := by
  have nonempty : generated.reports.isEmpty = false :=
    List.isEmpty_eq_false_iff.mpr (List.ne_nil_of_mem mem)
  have single : ∀ line ∈ table.sourceLines, SingleLine line := fun line lineMem =>
    (ReportTable.isSourceLine_sourceLines spelled line lineMem).1
  have inside : table.sourceLines <:+:
      generated.reports.flatMap fun table => table.sourceLines ++ [""] :=
    (List.prefix_append _ [""]).isInfix.trans
      (isInfix_flatMap mem fun table => table.sourceLines ++ [""])
  simp only [hidReports, nonempty, Bool.false_eq_true, if_false, List.append_assoc]
  refine isInfix_textLines_of_single ?_ single
  exact (inside.trans (List.prefix_append _ _).isInfix).trans (List.suffix_append _ _).isInfix

end Generated

/-- Every interface whose template takes reports has a table with one report for every item of its
array, in order. The header enumerates their ids from one on, and the source uses them in this
order. The enumeration is valid exactly if there are items and no two of them are alike. -/
def Generated.NumbersReports (generated : Generated) (document : Document) (catalog : Catalog) :
    Prop :=
  List.Forall₂ (fun entry table => ∃ items, Interface.ListsReports catalog entry items ∧
    table.tag = entry.1 ∧ table.WrittenFor generated items ∧
    (table.Valid ↔ items ≠ [] ∧ (items.map Value.plainText).Nodup))
      (document.reportInterfaces catalog) generated.reports

namespace Document

/-- A successful run on an accepted document numbers the reports of every interface. -/
theorem numbersReports_of_generate {catalog : Catalog} {document : Document}
    {generated : Generated} (known : catalog.Known) (accepted : document.Accepted catalog)
    (run : document.generate catalog = .ok generated) :
    generated.NumbersReports document catalog := by
  rcases registered_of_generate run with ⟨groups, hosts, registered⟩
  apply Related.imp_of_members registered.reports
  intro entry entryMem table tableMem made
  rcases mem_reportInterfaces_iff.mp entryMem with ⟨mem, carries⟩
  have own := accepted.interfaces entry mem
  rcases made.exists_items known own carries with ⟨items, lists, listed⟩
  have spelled := made.spelled own
  refine ⟨items, lists, made.tag, ?_, ?_⟩
  · constructor
    · exact ReportTable.names_of_reports (ReportTable.reports_of_ofNames listed)
    · refine ⟨_, ReportTable.enumeratorLines_enumerators fun report => made.isCIdentifier_id, ?_⟩
      exact Generated.isInfix_reportEnums tableMem spelled
    · exact Generated.isInfix_hidReports tableMem spelled
  · rw [ReportTable.valid_iff_of_names listed, ne_eq, List.map_eq_nil_iff]

theorem numbersReports_inputsValue : ∃ document generated,
    read Catalog.builtin inputsValue.compact = .ok document ∧
      document.generate Catalog.builtin = .ok generated ∧
      generated.NumbersReports document Catalog.builtin := by
  rcases runs_inputsValue with ⟨document, generated, found, run⟩
  exact ⟨document, generated, found, run,
    numbersReports_of_generate (.builtin rfl) (.read found) run⟩

/-- A keyboard that lists no reports and a pointer that lists one twice. -/
def oddReportsValue : Value :=
  let interfaces : Value := .object [
    ("k", .object [("template", .string "hid"), ("reports", .array [])]),
    ("p", .object [("template", .string "hid"),
      ("reports", .array [.string "mouse", .string "mouse"])])]
  let configurations : Value := .object [("c", .object [("interfaces", interfaces)])]
  .object [("devices", .object [("d", .object [
    ("vendor", .number (.integer 1)), ("configurations", configurations)])])]

/-- A run accepts both of them: one enumeration has no enumerator, and the other has one twice. -/
theorem reportIds_oddReportsValue : ∃ document generated, oddReportsValue.DistinctNames ∧
    ofValue Catalog.builtin oddReportsValue = .ok document ∧
      document.generate Catalog.builtin = .ok generated ∧
      generated.reports.map (fun table => table.reports.map Report.id) =
        [[], ["REPORT_ID_P_MOUSE", "REPORT_ID_P_MOUSE"]] ∧
      (¬ ∀ table ∈ generated.reports, table.reports ≠ []) ∧
      ¬ ∀ table ∈ generated.reports, (table.reports.map Report.id).Nodup := by
  have success : (ofValue Catalog.builtin oddReportsValue).toOption.any (fun document =>
      (document.generate Catalog.builtin).toOption.any fun generated =>
        generated.reports.map (fun table => table.reports.map Report.id) =
          [[], ["REPORT_ID_P_MOUSE", "REPORT_ID_P_MOUSE"]]) = true := by
    decide +kernel
  simp only [any_toOption_iff, decide_eq_true_eq] at success
  rcases success with ⟨document, found, generated, run, ids⟩
  refine ⟨document, generated, ?_, found, run, ids, ?_, ?_⟩
  · simp [oddReportsValue, Value.DistinctNames, Value.membersDistinct, Value.itemsDistinct]
  · intro nonempty
    have listed : [] ∈ generated.reports.map (fun table => table.reports.map Report.id) := by
      simp [ids]
    rcases List.mem_map.mp listed with ⟨table, mem, none⟩
    exact nonempty table mem (List.map_eq_nil_iff.mp none)
  · intro distinct
    have listed := List.forall_mem_map.mpr distinct
    rw [ids] at listed
    exact absurd (listed _ (List.mem_cons_of_mem _ List.mem_cons_self)) (by decide)

end Document

end UsbDescriptors
