import UsbDescriptors.Proofs.Outputs.Sections
import UsbDescriptors.Proofs.Reports.Served

/-!
# Comments with tags

The tags of devices and configurations stand in line comments as they are, above a line of code. A
line feed ends such a comment unless a backslash stands in front of it. A C compiler therefore finds
the line of code where it should be if and only if every line feed of the tag stands behind a
backslash and the tag does not end in one. Tags of one line that end in another character are of
this kind, but a document may have any tags.
-/

namespace UsbDescriptors

open Json (Value)

/-- What a C compiler reads behind a line comment, given the text behind the slashes: what follows
the first line feed that does not stand behind a backslash. -/
def behindComment : List Char → List Char
  | [] => []
  | '\\' :: '\n' :: rest => behindComment rest
  | '\n' :: rest => rest
  | _ :: rest => behindComment rest

/-- A text in a comment keeps to the comment: every line feed stands behind a backslash, and there
is no backslash at the end. -/
structure KeepsInside (text : List Char) : Prop where
  feeds : ∀ front rest, text = front ++ '\n' :: rest → front.getLast? = some '\\'
  last : text.getLast? ≠ some '\\'

section Characters

variable {c : Char} {text rest : List Char}

theorem behindComment_cons (feed : c ≠ '\n') (splice : c = '\\' → text.head? ≠ some '\n') :
    behindComment (c :: text) = behindComment text := by
  rw [behindComment]
  · rintro more rfl rfl
    exact splice rfl rfl
  · exact feed

/-- Behind a comment there is less than behind its slashes. -/
theorem length_behindComment_lt (nonempty : text ≠ []) :
    (behindComment text).length < text.length := by
  fun_induction behindComment text with
  | case1 => exact absurd rfl nonempty
  | case2 rest ih =>
      cases rest with
      | nil => simp [behindComment]
      | cons c more =>
          have shorter := ih (List.cons_ne_nil _ _)
          simp only [List.length_cons] at shorter ⊢
          omega
  | case3 rest => simp
  | case4 c rest _ _ ih =>
      cases rest with
      | nil => simp [behindComment]
      | cons next more =>
          have shorter := ih (List.cons_ne_nil _ _)
          simp only [List.length_cons] at shorter ⊢
          omega

theorem keepsInside_nil : KeepsInside [] := by
  constructor
  · intro front rest split
    simp at split
  · simp

theorem not_keepsInside_feed : ¬ KeepsInside ('\n' :: text) := by
  intro keeps
  have front := keeps.feeds [] text rfl
  simp at front

theorem keepsInside_singleton_iff : KeepsInside [c] ↔ c ≠ '\n' ∧ c ≠ '\\' := by
  constructor
  · intro keeps
    constructor
    · rintro rfl
      exact not_keepsInside_feed keeps
    · rintro rfl
      exact keeps.last rfl
  · rintro ⟨feed, backslash⟩
    constructor
    · intro front rest split
      cases front with
      | nil => exact absurd (List.cons.inj split).1 feed
      | cons first front => simp at split
    · simpa using backslash

/-- A backslash in front of a line feed has no effect. -/
theorem keepsInside_splice_iff : KeepsInside ('\\' :: '\n' :: text) ↔ KeepsInside text := by
  constructor
  · intro keeps
    constructor
    · rintro front rest rfl
      have last := keeps.feeds ('\\' :: '\n' :: front) rest rfl
      cases front using List.reverseRecOn with
      | nil => simp at last
      | append_singleton front c => simpa [List.getLast?_cons] using last
    · intro last
      apply keeps.last
      simp [List.getLast?_cons, last]
  · intro keeps
    constructor
    · intro front rest split
      match front, split with
      | [first], split =>
          rcases List.cons.inj split with ⟨rfl, -⟩
          rfl
      | first :: second :: front, split =>
          have inner : text = front ++ '\n' :: rest := (List.cons.inj (List.cons.inj split).2).2
          have last := keeps.feeds front rest inner
          simp [List.getLast?_cons, last]
    · intro last
      apply keeps.last
      cases text using List.reverseRecOn with
      | nil => simp at last
      | append_singleton front c => simpa [List.getLast?_cons] using last

theorem keepsInside_cons_iff {next : Char} (feed : c ≠ '\n') (splice : c = '\\' → next ≠ '\n') :
    KeepsInside (c :: next :: text) ↔ KeepsInside (next :: text) := by
  constructor
  · intro keeps
    constructor
    · intro front rest split
      have last := keeps.feeds (c :: front) rest (by rw [split, List.cons_append])
      cases front with
      | nil =>
          have backslash : c = '\\' := by simpa using last
          exact absurd (List.cons.inj split).1 (splice backslash)
      | cons first front => simpa [List.getLast?_cons] using last
    · have last := keeps.last
      simpa [List.getLast?_cons] using last
  · intro keeps
    constructor
    · intro front rest split
      cases front with
      | nil => exact absurd (List.cons.inj split).1 feed
      | cons first front =>
          have last := keeps.feeds front rest (List.cons.inj split).2
          simp [List.getLast?_cons, last]
    · have last := keeps.last
      simpa [List.getLast?_cons] using last

/-- What follows the line of a comment is read behind it if and only if the comment keeps to its
line. -/
theorem behindComment_append_iff (nonempty : rest ≠ []) :
    behindComment (text ++ '\n' :: rest) = rest ↔ KeepsInside text := by
  fun_induction behindComment text with
  | case1 => simp [behindComment, keepsInside_nil]
  | case2 more ih => rw [keepsInside_splice_iff, ← ih, List.cons_append, List.cons_append, behindComment]
  | case3 more =>
      refine iff_of_false ?_ not_keepsInside_feed
      intro same
      have lengths := congrArg List.length same
      simp [behindComment] at lengths
      omega
  | case4 c more splice feed ih =>
      cases more with
      | nil =>
          rw [keepsInside_singleton_iff]
          by_cases backslash : c = '\\'
          · subst backslash
            refine iff_of_false ?_ (by simp)
            intro same
            have shorter := length_behindComment_lt nonempty
            simp only [List.singleton_append, behindComment] at same
            rw [same] at shorter
            exact Nat.lt_irrefl _ shorter
          · refine iff_of_true ?_ ⟨feed, backslash⟩
            rw [List.singleton_append, behindComment_cons feed (absurd · backslash), behindComment]
      | cons next more =>
          have apart : c = '\\' → next ≠ '\n' := by
            rintro rfl rfl
            exact splice more rfl rfl
          rw [keepsInside_cons_iff feed apart, ← ih, List.cons_append, behindComment_cons feed]
          intro backslash
          simpa using apart backslash

/-- A comment that ends in a text keeps to its line if and only if the text does. -/
theorem keepsInside_append_iff {front : List Char} (free : '\n' ∉ front)
    (last : front.getLast? ≠ some '\\') : KeepsInside (front ++ text) ↔ KeepsInside text := by
  constructor
  · intro keeps
    constructor
    · rintro own rest rfl
      have ending := keeps.feeds (front ++ own) rest (by rw [List.append_assoc])
      rw [List.getLast?_append] at ending
      cases written : own.getLast? with
      | none =>
          rw [written, Option.none_or] at ending
          exact absurd ending last
      | some c => rwa [written, Option.some_or] at ending
    · intro ending
      apply keeps.last
      rw [List.getLast?_append, ending, Option.some_or]
  · intro keeps
    constructor
    · intro own rest split
      rcases List.append_eq_append_iff.mp split with ⟨more, rfl, inner⟩ | ⟨more, rfl, inner⟩
      · rw [List.getLast?_append, keeps.feeds more rest inner, Option.some_or]
      · cases more with
        | nil =>
            rw [List.nil_append] at inner
            rw [← inner] at keeps
            exact absurd keeps not_keepsInside_feed
        | cons first more =>
            rcases List.cons.inj inner with ⟨rfl, -⟩
            simp at free
    · rw [List.getLast?_append]
      cases written : text.getLast? with
      | none => rwa [Option.none_or]
      | some c =>
          rw [Option.some_or, ← written]
          exact keeps.last

/-- A text of one line keeps to its comment unless it ends in a backslash. -/
theorem keepsInside_iff_of_single (single : '\n' ∉ text) :
    KeepsInside text ↔ text.getLast? ≠ some '\\' := by
  constructor
  · exact KeepsInside.last
  · intro last
    refine ⟨?_, last⟩
    rintro front rest rfl
    simp at single

end Characters

/-- In a text a line of code stands below a comment that ends in a tag, with a title before the
tag. -/
structure CodeBelow (text title tag code : String) : Prop where
  /-- A C compiler reads the line of code behind the comment if and only if the tag keeps inside. -/
  reads : ∃ before after : List String,
    text = unlines (before ++ ("//" ++ title ++ tag) :: code :: after) ∧
      (behindComment (unlines ((title ++ tag) :: code :: after)).toList =
          (unlines (code :: after)).toList ↔ KeepsInside tag.toList)
  /-- With a tag of one line the comment is one line, and the tag keeps inside unless it ends in a
  backslash. -/
  single : SingleLine tag → [("//" ++ title ++ tag), code] <:+: textLines text ∧
    (KeepsInside tag.toList ↔ tag.toList.getLast? ≠ some '\\')

theorem codeBelow_of_isInfix {lines : List String} {title tag code : String}
    (inside : [("//" ++ title ++ tag), code] <:+: lines) (free : SingleLine title)
    (last : title.toList.getLast? ≠ some '\\') (own : SingleLine code) :
    CodeBelow (unlines lines) title tag code := by
  constructor
  · rcases inside with ⟨before, after, rfl⟩
    refine ⟨before, after, by simp, ?_⟩
    have nonempty : (unlines (code :: after)).toList ≠ [] := by
      simp [unlines_cons]
    have split : (unlines ((title ++ tag) :: code :: after)).toList =
        (title.toList ++ tag.toList) ++ '\n' :: (unlines (code :: after)).toList := by
      simp [unlines_cons]
    rw [split, behindComment_append_iff nonempty, keepsInside_append_iff free last]
  · intro single
    refine ⟨?_, keepsInside_iff_of_single single⟩
    have comment : SingleLine ("//" ++ title ++ tag) := by
      simp only [singleLine_append]
      exact ⟨⟨by decide, free⟩, single⟩
    have physical := isInfix_textLines inside
    simpa [textLines_of_single comment, textLines_of_single own] using physical

namespace Document

variable {catalog : Catalog} {document : Document} {generated : Generated}

/-- The lines of code that stand below the comments with the tags of a document: the start of the
descriptor of a device, the start of the numbering of a configuration, and the second rule of the
banner of a configuration. -/
structure Commented (document : Document) (generated : Generated) : Prop where
  devices : ∀ entry ∈ document.devices,
    CodeBelow generated.deviceDescriptors " " entry.1
      ("static const tusb_desc_device_t " ++ ("desc_device_" ++ identifier entry.1) ++ " = \x7b")
  numberings : ∀ entry ∈ document.allConfigurations,
    CodeBelow generated.configurationEnums " " entry.1 "enum \x7b"
  banners : ∀ entry ∈ document.allConfigurations,
    CodeBelow generated.configurationDescriptors " Configuration Descriptor: " entry.1
      "//--------------------------------------------------------------------+"

/-- A successful run puts the tags of devices and configurations in comments above lines of code.
What stands below a comment is read as it should be if and only if every line feed of the tag stands
behind a backslash and the tag does not end in one. -/
theorem commented_of_generate (run : document.generate catalog = .ok generated) :
    document.Commented generated := by
  constructor
  · intro entry mem
    rcases Related.exists_right (generate_ok run) mem with ⟨block, blockMem, made⟩
    rcases Generated.isInfix_descriptorLines blockMem with ⟨lines, section_, inside⟩
    rcases made.made with ⟨codes, strings, -, own⟩
    have tag : block.tag = entry.1 := by rw [own, DeviceBlock.ofDevice]
    rw [section_, ← tag]
    refine codeBelow_of_isInfix (List.IsInfix.trans ?_ inside) (by decide) (by decide) ?_
    · have slashes : "// " ++ block.tag = "//" ++ " " ++ block.tag := by
        simp only [String.append_left_inj]
        decide
      rw [slashes]
      exact ⟨[], _, rfl⟩
    · simp only [singleLine_append, singleLine_identifier, and_true]
      decide
  · intro entry mem
    rcases Related.exists_right (blocks_of_generate run) mem with
      ⟨block, blockMem, device, number, origin⟩
    rcases Generated.isInfix_headerLines blockMem with ⟨lines, section_, inside⟩
    rw [section_, ← origin.tag]
    refine codeBelow_of_isInfix (List.IsInfix.trans ?_ inside) (by decide) (by decide) (by decide)
    have slashes : "// " ++ block.tag = "//" ++ " " ++ block.tag := by
      simp only [String.append_left_inj]
      decide
    rw [ConfigurationBlock.headerLines, slashes]
    exact ⟨[], _, rfl⟩
  · intro entry mem
    rcases Related.exists_right (blocks_of_generate run) mem with
      ⟨block, blockMem, device, number, origin⟩
    rcases Generated.isInfix_sourceLines blockMem with ⟨lines, section_, inside⟩
    rw [section_, ← origin.tag]
    refine codeBelow_of_isInfix (List.IsInfix.trans ?_ inside) (by decide) (by decide) (by decide)
    have slashes : "// " ++ ("Configuration Descriptor: " ++ block.tag) =
        "//" ++ " Configuration Descriptor: " ++ block.tag := by
      rw [← String.append_assoc, String.append_left_inj]
      decide
    rw [ConfigurationBlock.sourceLines, bannerLines, slashes]
    exact ⟨["//--------------------------------------------------------------------+"], _, rfl⟩

theorem commented_inputsValue : ∃ document generated,
    read Catalog.builtin inputsValue.compact = .ok document ∧
      document.generate Catalog.builtin = .ok generated ∧ document.Commented generated := by
  rcases runs_inputsValue with ⟨document, generated, found, run⟩
  exact ⟨document, generated, found, run, commented_of_generate run⟩

/-- A device with a configuration whose tag has a second line. -/
def untidyValue : Value :=
  .object [("devices", .object [("dev0", .object [
    ("vendor", .number (.integer 1)), ("configurations", .object [("c\nint x;", .object [])])])])]

/-- The document is read and its run succeeds, with the second line between comment and code. -/
example : (read Catalog.builtin untidyValue.compact >>= fun document =>
      document.generate Catalog.builtin).map (fun generated =>
        generated.configurations.flatMap fun block => (block.headerLines.take 2).flatMap textLines) =
    .ok ["// c", "int x;", "enum \x7b"] := by
  decide +kernel

end Document

end UsbDescriptors
