import UsbDescriptors.Proofs.Document.Interfaces
import UsbDescriptors.Proofs.Outputs.Lines
import UsbDescriptors.Proofs.Runs.Registration

/-!
# Report ids

The source of a run lists the reports of every table by their ids, and the header enumerates these
ids table by table. What a line of the source uses is read off its words: the longest runs of
characters of identifiers. Outside of comments the only words that look like report ids are those of
the tables, so every one of them is enumerated.
-/

namespace UsbDescriptors

/-- The words of a line: its longest runs of letters, digits and underscores. -/
def lineWords (line : String) : List String :=
  (line.toList.splitOnP fun c => !isIdentifierTail c).map String.ofList

/-- A line that holds nothing but a comment. -/
def IsComment (line : String) : Prop :=
  "//".toList <+: line.toList

/-- A word that is spelled like the id of a report. -/
def IsReportId (word : String) : Prop :=
  "REPORT_ID_".toList <+: word.toList

instance (line : String) : Decidable (IsComment line) :=
  inferInstanceAs (Decidable (_ <+: _))

instance (word : String) : Decidable (IsReportId word) :=
  inferInstanceAs (Decidable (_ <+: _))

/-- No word goes on from the first text to the second one. -/
def Apart (first rest : String) : Prop :=
  first.toList.getLast?.any isIdentifierTail = false ∨
    rest.toList.head?.any isIdentifierTail = false

/-- No word of the text looks like a report id. -/
def UsesNone (text : String) : Prop :=
  ∀ word ∈ lineWords text, ¬ IsReportId word

/-- The words of the text that look like report ids are of a kind. -/
def UsesOnly (kind : String → Prop) (text : String) : Prop :=
  ∀ word ∈ lineWords text, IsReportId word → kind word

theorem usesNone_iff {text : String} :
    UsesNone text ↔ ∀ word ∈ text.toList.splitOnP fun c => !isIdentifierTail c,
      ¬ "REPORT_ID_".toList <+: word := by
  simp [UsesNone, lineWords, IsReportId]

instance (text : String) : Decidable (UsesNone text) :=
  decidable_of_iff' _ usesNone_iff

theorem lineWords_of_tail {text : String} (tail : IdentifierTail text) :
    lineWords text = [text] := by
  have free : ∀ c ∈ text.toList, (!isIdentifierTail c) = false := by
    intro c mem
    simp [tail c mem]
  rw [lineWords, List.splitOnP_eq_singleton free]
  simp

theorem lineWords_separator {left right : List Char} {c : Char}
    (separator : isIdentifierTail c = false) :
    lineWords (String.ofList (left ++ c :: right)) =
      lineWords (String.ofList left) ++ lineWords (String.ofList right) := by
  have splits : (!isIdentifierTail c) = true := by simp [separator]
  simp only [lineWords, String.toList_ofList, ← List.map_append]
  exact congrArg _ (List.splitOnP_append_cons _ _ splits)

namespace UsesOnly

variable {kind : String → Prop} {first rest text : String}

theorem of_none (none : UsesNone text) : UsesOnly kind text := by
  intro word mem looks
  exact absurd looks (none word mem)

theorem of_tail (tail : IdentifierTail text) (own : IsReportId text → kind text) :
    UsesOnly kind text := by
  rw [UsesOnly, lineWords_of_tail tail, List.forall_mem_singleton]
  exact own

/-- The words of two texts that are apart are those of both. -/
theorem append (apart : Apart first rest) (left : UsesOnly kind first)
    (right : UsesOnly kind rest) : UsesOnly kind (first ++ rest) := by
  unfold UsesOnly at left right ⊢
  rw [← @String.ofList_toList first] at left ⊢
  rw [← @String.ofList_toList rest] at right ⊢
  rw [← String.ofList_append]
  rcases apart with ends | starts
  · rcases List.eq_nil_or_concat first.toList with nothing | ⟨front, c, written⟩
    · rw [nothing]
      exact right
    · rw [written, List.concat_eq_append] at ends left ⊢
      have separator : isIdentifierTail c = false := by simpa using ends
      rw [lineWords_separator separator, List.forall_mem_append] at left
      rw [List.append_assoc, List.singleton_append, lineWords_separator separator]
      exact List.forall_mem_append.mpr ⟨left.1, right⟩
  · cases written : rest.toList with
    | nil => simpa using left
    | cons c more =>
        rw [written] at starts right
        have separator : isIdentifierTail c = false := starts
        have split := @lineWords_separator [] more c separator
        rw [List.nil_append] at split
        rw [split, List.forall_mem_append] at right
        rw [lineWords_separator separator]
        exact List.forall_mem_append.mpr ⟨left, right.2⟩

/-- The words of an enumeration are those of its items. -/
theorem joined {texts : List String} (each : ∀ text ∈ texts, UsesOnly kind text) :
    UsesOnly kind (joined ", " texts) := by
  refine joined_induction (.of_none (by decide)) each ?_
  intro first rest left right
  rw [String.append_assoc]
  refine append (Or.inr (by simp; decide)) left ?_
  exact append (Or.inl (by decide)) (of_none (by decide)) right

end UsesOnly

/-- A line of a source is no more than one line, and a comment or a line that uses report ids of a
kind only. -/
def IsSourceLine (kind : String → Prop) (line : String) : Prop :=
  SingleLine line ∧ (IsComment line ∨ UsesOnly kind line)

theorem IsSourceLine.imp {kind other : String → Prop} {line : String}
    (implied : ∀ word, kind word → other word) (source : IsSourceLine kind line) :
    IsSourceLine other line :=
  ⟨source.1, source.2.imp_right fun uses word mem looks => implied word (uses word mem looks)⟩

theorem isSourceLine_of_none {kind : String → Prop} {line : String}
    (plain : SingleLine line ∧ (IsComment line ∨ UsesNone line)) : IsSourceLine kind line :=
  ⟨plain.1, plain.2.imp_right .of_none⟩

theorem isSourceLine_unlines {kind : String → Prop} {lines : List String}
    (sources : ∀ line ∈ lines, IsSourceLine kind line) :
    ∀ line ∈ textLines (unlines lines), IsSourceLine kind line := by
  intro line mem
  rcases mem_of_textLines_unlines (fun own ownMem => (sources own ownMem).1) mem with inside | rfl
  · exact sources line inside
  · exact isSourceLine_of_none (by decide)

namespace ReportTable

variable {tag : String} {names : List String} {table : ReportTable}

/-- A table has one report for every name, in order. -/
theorem reports_of_ofNames (listed : ofNames tag names = .ok table) :
    List.Forall₂ (fun name report => ReportTable.report tag name = .ok report) names
      table.reports := by
  simp only [ofNames, outcome_bind_iff, outcome_pure_iff] at listed
  rcases listed with ⟨reports, all, rfl⟩
  dsimp only
  induction names generalizing reports with
  | nil =>
      rcases outcome_pure_iff.mp all with rfl
      exact .nil
  | cons name rest ih =>
      simp only [List.mapM_cons, outcome_bind_iff, outcome_pure_iff] at all
      rcases all with ⟨report, made, others, more, rfl⟩
      exact .cons made (ih others more)

theorem report_ok {name : String} {report : Report} (made : ReportTable.report tag name = .ok report) :
    report.id = "REPORT_ID_" ++ identifier tag ++ "_" ++ identifier name ∧
      stockDescriptors.get? name = some report.descriptor := by
  unfold ReportTable.report at made
  split at made
  next => cases made
  next descriptor stock =>
    cases made
    exact ⟨rfl, stock⟩

end ReportTable

namespace ReportTable

/-- The tag of the table stands in one line, its ids and macros are spelled like identifiers, and
its macros not like report ids. -/
structure Spelled (table : ReportTable) : Prop where
  tag : SingleLine table.tag
  ids : ∀ report ∈ table.reports, IdentifierTail report.id
  descriptors : ∀ report ∈ table.reports,
    IdentifierTail report.descriptor ∧ ¬ IsReportId report.descriptor

theorem stock_spelled {name descriptor : String}
    (stock : stockDescriptors.get? name = some descriptor) :
    IdentifierTail descriptor ∧ ¬ IsReportId descriptor := by
  have all : ∀ entry ∈ stockDescriptors, IdentifierTail entry.2 ∧ ¬ IsReportId entry.2 := by
    decide
  exact all _ (OrderedMap.mem_of_get?_eq_some stock)

theorem identifierTail_symbol (table : ReportTable) : IdentifierTail table.symbol :=
  identifierTail_append.mpr ⟨by decide, identifierTail_identifier _⟩

theorem not_isReportId_symbol (table : ReportTable) : ¬ IsReportId table.symbol := by
  rintro ⟨rest, same⟩
  have front := congrArg List.head? same
  have starts : table.symbol.toList.head? = some 'd' := head?_append (by decide) _
  rw [starts, List.head?_append] at front
  exact absurd front (by simp)

/-- The source of a table uses no report ids but those of the table. -/
theorem isSourceLine_sourceLines {table : ReportTable} (spelled : table.Spelled) :
    ∀ line ∈ table.sourceLines, IsSourceLine (· ∈ table.reports.map Report.id) line := by
  simp only [sourceLines, List.forall_mem_append, List.forall_mem_cons, List.forall_mem_map,
    List.not_mem_nil, false_imp_iff, implies_true, and_true]
  refine ⟨⟨⟨?_, ?_⟩, ?_⟩, isSourceLine_of_none (by decide)⟩
  · refine ⟨singleLine_append.mpr ⟨by decide, spelled.tag⟩, Or.inl ?_⟩
    exact ⟨' ' :: table.tag.toList, by simp⟩
  · have symbol := table.identifierTail_symbol
    constructor
    · simp only [singleLine_append]
      exact ⟨⟨by decide, symbol.singleLine⟩, by decide⟩
    · right
      rw [String.append_assoc]
      refine UsesOnly.append (Or.inl (by decide)) (.of_none (by decide +kernel)) ?_
      refine UsesOnly.append (Or.inr (by decide)) ?_ (.of_none (by decide))
      exact .of_tail symbol fun looks => absurd looks table.not_isReportId_symbol
  · intro report mem
    rcases spelled.descriptors report mem with ⟨descriptor, different⟩
    have id := spelled.ids report mem
    constructor
    · simp only [singleLine_append]
      exact ⟨⟨⟨⟨by decide, descriptor.singleLine⟩, by decide⟩, id.singleLine⟩, by decide⟩
    · right
      simp only [String.append_assoc]
      refine UsesOnly.append (Or.inl (by decide)) (.of_none (by decide)) ?_
      refine UsesOnly.append (Or.inr (by simp; decide)) (.of_tail descriptor (absurd · different)) ?_
      refine UsesOnly.append (Or.inl (by decide)) (.of_none (by decide +kernel)) ?_
      refine UsesOnly.append (Or.inr (by decide)) ?_ (.of_none (by decide))
      exact .of_tail id fun _ => List.mem_map_of_mem mem

/-- The enumeration of a table lists the ids of all its reports. -/
theorem enumerates_id {table : ReportTable} {report : Report} (mem : report ∈ table.reports)
    (id : IdentifierTail report.id) : Enumerates (unlines table.headerLines) report.id := by
  cases listed : table.reports with
  | nil =>
      rw [listed] at mem
      cases mem
  | cons first rest =>
      rw [listed] at mem
      rcases List.mem_cons.mp mem with rfl | later
      · have line : "\t" ++ (report.id ++ " = 1") ++ "," ∈ table.headerLines := by
          simp [headerLines, enumerators, listed]
        have split : "\t" ++ (report.id ++ " = 1") ++ "," = "\t" ++ report.id ++ " = " ++ "1," :=
          String.toList_injective (by simp)
        rw [split] at line
        apply hasLine_front line _ .valued
        simp only [singleLine_append]
        exact ⟨⟨by decide, id.singleLine⟩, by decide⟩
      · have line : "\t" ++ report.id ++ "," ∈ table.headerLines := by
          simp only [headerLines, enumerators, listed, List.mem_append, List.mem_map]
          exact Or.inl (Or.inr ⟨report.id, List.mem_cons_of_mem _ (List.mem_map_of_mem later), rfl⟩)
        apply hasLine_unlines line _ .plain
        simp only [singleLine_append]
        exact ⟨⟨by decide, id.singleLine⟩, by decide⟩

theorem identifierTail_of_isCIdentifier {text : String} (valid : isCIdentifier text = true) :
    IdentifierTail text := by
  unfold isCIdentifier at valid
  intro c mem
  split at valid
  next => cases valid
  next first rest written =>
    rw [written] at mem
    simp only [Bool.and_eq_true, List.all_eq_true] at valid
    rcases List.mem_cons.mp mem with rfl | later
    · have start := valid.1
      simp only [Bool.or_eq_true, decide_eq_true_eq] at start
      simp only [isIdentifierTail, Char.isAlphanum, Bool.or_eq_true, decide_eq_true_eq]
      exact start.imp_left Or.inl
    · exact valid.2 c later

/-- The table of an interface of an accepted document is spelled as it should be. -/
theorem TableOf.spelled {catalog : Catalog} {entry : String × Interface} {table : ReportTable}
    (made : table.TableOf catalog entry) (accepted : Interface.Accepted catalog entry) :
    table.Spelled := by
  have tag := made.tag
  rcases made with ⟨resolved, -, listed⟩
  have reports := reports_of_ofNames listed
  constructor
  · rw [tag]
    exact (identifierTail_of_isCIdentifier accepted.isCIdentifier).singleLine
  · intro report mem
    rcases Related.exists_left reports mem with ⟨name, -, own⟩
    rw [(report_ok own).1]
    simp only [identifierTail_append, identifierTail_identifier, and_true]
    decide
  · intro report mem
    rcases Related.exists_left reports mem with ⟨name, -, own⟩
    exact stock_spelled (report_ok own).2

end ReportTable

namespace Generated

variable {generated : Generated}

theorem plainLines {kind : String → Prop} {lines : List String}
    (plain : ∀ line ∈ lines, SingleLine line ∧ (IsComment line ∨ UsesNone line)) :
    ∀ line ∈ lines, IsSourceLine kind line :=
  fun line mem => isSourceLine_of_none (plain line mem)

/-- The array of the tables that are served uses no report ids. -/
theorem isSourceLine_servedArrayLines {kind : String → Prop} :
    ∀ line ∈ generated.servedArrayLines, IsSourceLine kind line := by
  unfold servedArrayLines
  split
  · exact List.forall_mem_nil _
  · refine List.forall_mem_cons.mpr ⟨⟨?_, Or.inr ?_⟩, plainLines (by decide)⟩
    · have symbols : SingleLine (joined ", " (generated.served.map ReportTable.symbol)) := by
        refine joined_induction (by decide) ?_ ?_
        · rintro _ symbolMem
          rcases List.mem_map.mp symbolMem with ⟨table, -, rfl⟩
          exact table.identifierTail_symbol.singleLine
        · intro first rest left right
          simp only [singleLine_append]
          exact ⟨⟨left, by decide⟩, right⟩
      simp only [singleLine_append]
      exact ⟨⟨by decide, symbols⟩, by decide⟩
    · rw [String.append_assoc]
      refine UsesOnly.append (Or.inl (by decide)) (.of_none (by decide +kernel)) ?_
      refine UsesOnly.append (Or.inr (by decide)) ?_ (.of_none (by decide))
      apply UsesOnly.joined
      rintro _ symbolMem
      rcases List.mem_map.mp symbolMem with ⟨table, -, rfl⟩
      exact .of_tail table.identifierTail_symbol (absurd · table.not_isReportId_symbol)

/-- The source of the reports uses no report ids but those of the tables of the run. -/
theorem isSourceLine_hidReports (spelled : ∀ table ∈ generated.reports, table.Spelled) :
    ∀ line ∈ textLines generated.hidReports,
      IsSourceLine (fun word => ∃ table ∈ generated.reports, word ∈ table.reports.map Report.id)
        line := by
  cases empty : generated.reports.isEmpty with
  | true =>
      have plain : ∀ line ∈ textLines "// none\n",
          SingleLine line ∧ (IsComment line ∨ UsesNone line) := by decide
      intro line mem
      rw [hidReports, empty] at mem
      exact isSourceLine_of_none (plain line mem)
  | false =>
      simp only [hidReports, empty, Bool.false_eq_true, if_false]
      apply isSourceLine_unlines
      simp only [List.forall_mem_append, List.forall_mem_flatMap]
      refine ⟨⟨⟨⟨⟨?_, ?_⟩, ?_⟩, ?_⟩, ?_⟩, ?_⟩
      · exact plainLines (by decide +kernel)
      · intro table mem
        constructor
        · intro line lineMem
          refine (ReportTable.isSourceLine_sourceLines (spelled table mem) line lineMem).imp ?_
          exact fun word own => ⟨table, mem, own⟩
        · exact plainLines (by decide)
      · exact isSourceLine_servedArrayLines
      · exact plainLines (by decide +kernel)
      · unfold reportCallbackLines
        split
        · exact plainLines (by decide +kernel)
        · exact plainLines (by decide +kernel)
      · exact plainLines (by decide)

end Generated

end UsbDescriptors
