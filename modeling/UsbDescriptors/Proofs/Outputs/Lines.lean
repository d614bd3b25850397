import UsbDescriptors.Proofs.Expressions.References
import UsbDescriptors.Text.Writing

/-!
# Lines of generated texts

A generated text is read as the list of its lines, and what a C compiler finds on a line of a header
is read off the line: an enumerator, with or without a value, or a define. Comments and everything
else that stands around these lines are not looked into. A line that was put into a text is a line
of it if it holds no line feed itself.
-/

namespace UsbDescriptors

/-- The lines of a text. -/
def textLines (text : String) : List String :=
  (text.toList.splitOn '\n').map String.ofList

def SingleLine (text : String) : Prop :=
  '\n' ∉ text.toList

instance (text : String) : Decidable (SingleLine text) :=
  inferInstanceAs (Decidable (¬ _))

/-- All characters may stand after the first place of a C identifier. -/
def IdentifierTail (text : String) : Prop :=
  ∀ c ∈ text.toList, isIdentifierTail c = true

instance (text : String) : Decidable (IdentifierTail text) :=
  decidable_of_iff (text.toList.all isIdentifierTail = true) List.all_eq_true

/-- A text that is made of letters, digits and underscores, at least one of them. -/
structure IsName (name : String) : Prop where
  characters : IdentifierTail name
  nonempty : name ≠ ""

instance (name : String) : Decidable (IsName name) :=
  decidable_of_iff (IdentifierTail name ∧ name ≠ "")
    ⟨fun both => ⟨both.1, both.2⟩, fun isName => ⟨isName.characters, isName.nonempty⟩⟩

/-- A text has a line of a kind. -/
def HasLine (text : String) (kind : String → Prop) : Prop :=
  ∃ line ∈ textLines text, kind line

/-- The line of an enumerator, with or without a value. -/
inductive EnumeratorLine (name : String) : String → Prop
  | plain : EnumeratorLine name ("\t" ++ name ++ ",")
  | valued (value : String) : EnumeratorLine name ("\t" ++ name ++ " = " ++ value)

/-- A text of a header lists a name among the enumerators. -/
def Enumerates (text name : String) : Prop :=
  HasLine text (EnumeratorLine name)

/-- A text of a header defines a name. -/
def Defines (text name : String) : Prop :=
  HasLine text fun line => ∃ value, line = "#define " ++ name ++ " " ++ value

/-- The longest name in front of a text. -/
def frontName? (chars : List Char) : Option String :=
  match chars.takeWhile isIdentifierTail with
  | [] => none
  | name => some (String.ofList name)

/-- The name that a line of a header introduces as an enumerator or as a define. -/
def introducedName? (line : String) : Option String :=
  match line.toList with
  | '\t' :: rest => frontName? rest
  | chars => if "#define ".toList <+: chars then frontName? (chars.drop 8) else none

def introducedNames (lines : List String) : List String :=
  lines.filterMap introducedName?

/-- The name that a line defines. -/
def definedName? (line : String) : Option String :=
  if "#define ".toList <+: line.toList then frontName? (line.toList.drop 8) else none

def definedNames (lines : List String) : List String :=
  lines.filterMap definedName?

section Spelling

variable {first second text : String}

theorem head?_append {c : Char} (starts : first.toList.head? = some c) (rest : String) :
    (first ++ rest).toList.head? = some c := by
  rw [String.toList_append, List.head?_append, starts]
  rfl

theorem singleLine_append : SingleLine (first ++ second) ↔ SingleLine first ∧ SingleLine second := by
  simp [SingleLine, not_or]

/-- The letters are those of the two ranges of ASCII. -/
theorem isAlpha_iff (c : Char) : c.isAlpha = true ↔
    ('A'.val ≤ c.val ∧ c.val ≤ 'Z'.val) ∨ ('a'.val ≤ c.val ∧ c.val ≤ 'z'.val) := by
  have classes : c.isAlpha = (decide ('A'.val ≤ c.val ∧ c.val ≤ 'Z'.val) ||
      (decide ('a'.val ≤ c.val) && decide (c.val ≤ 'z'.val))) := rfl
  rw [classes]
  simp

theorem isAlpha_toUpper {c : Char} (letter : c.isAlpha = true) : c.toUpper.isAlpha = true := by
  unfold Char.toUpper
  simp only [isAlpha_iff] at letter ⊢
  grind

theorem isAlphanum_toUpper {c : Char} (alphanumeric : c.isAlphanum = true) :
    c.toUpper.isAlphanum = true := by
  unfold Char.toUpper
  simp [Char.isAlphanum, Char.isDigit, isAlpha_iff] at alphanumeric ⊢
  grind

theorem isIdentifierTail_identifierChar (c : Char) :
    isIdentifierTail (identifierChar c) = true := by
  unfold identifierChar
  split
  next alphanumeric => simp [isIdentifierTail, isAlphanum_toUpper alphanumeric]
  next => decide

theorem isIdentifierTail_of_mem_hexDigits {value : Nat} {c : Char} (mem : c ∈ hexDigits value) :
    isIdentifierTail c = true := by
  have digit : ∀ value < 16, isIdentifierTail (Nat.digitChar value) = true := by decide
  unfold hexDigits at mem
  induction value using Nat.strongRecOn with
  | ind value ih =>
      by_cases small : value < 16
      · rw [Nat.toDigits_of_lt_base small, List.mem_singleton] at mem
        exact mem ▸ digit value small
      · rw [Nat.toDigits_of_base_le (by decide) (Nat.le_of_not_lt small), List.mem_append,
          List.mem_singleton] at mem
        rcases mem with front | rfl
        · exact ih (value / 16) (by omega) front
        · exact digit _ (Nat.mod_lt _ (by decide))

theorem identifierTail_append :
    IdentifierTail (first ++ second) ↔ IdentifierTail first ∧ IdentifierTail second := by
  simp [IdentifierTail, or_imp, forall_and]

theorem identifierTail_identifier (text : String) : IdentifierTail (identifier text) := by
  intro c mem
  rw [toList_identifier] at mem
  rcases List.mem_map.mp mem with ⟨original, -, rfl⟩
  exact isIdentifierTail_identifierChar original

theorem identifierTail_toString (number : Nat) : IdentifierTail (toString number) := by
  intro c mem
  rw [Nat.toString_eq_repr, Nat.toList_repr] at mem
  have digit := Nat.isDigit_of_mem_toDigits (by omega) (by omega) mem
  simp [isIdentifierTail, Char.isAlphanum, digit]

theorem identifierTail_paddedHex (width value : Nat) : IdentifierTail (paddedHex width value) := by
  intro c mem
  rw [paddedHex, String.toList_ofList, paddedHexDigits, List.mem_append] at mem
  rcases mem with zero | digit
  · rw [List.eq_of_mem_replicate zero]
    decide
  · exact isIdentifierTail_of_mem_hexDigits digit

theorem IdentifierTail.ne (tail : IdentifierTail text) {c d : Char} (mem : c ∈ text.toList)
    (other : isIdentifierTail d = false) : c ≠ d := by
  rintro rfl
  rw [tail c mem] at other
  cases other

theorem IdentifierTail.singleLine (tail : IdentifierTail text) : SingleLine text :=
  fun mem => tail.ne mem (by decide) rfl

/-- What is spelled like an identifier makes a longer name behind a name. -/
theorem IsName.append (isName : IsName first) (tail : IdentifierTail second) :
    IsName (first ++ second) where
  characters := identifierTail_append.mpr ⟨isName.characters, tail⟩
  nonempty := fun empty => isName.nonempty (String.append_eq_empty_iff.mp empty).1

theorem singleLine_identifier (text : String) : SingleLine (identifier text) :=
  (identifierTail_identifier text).singleLine

end Spelling

section Texts

variable {line text : String} {lines : List String}

theorem textLines_of_single (single : SingleLine line) : textLines line = [line] := by
  rw [textLines, List.splitOn_eq_singleton single]
  simp

theorem textLines_append (first rest : String) :
    textLines (first ++ "\n" ++ rest) = textLines first ++ textLines rest := by
  have feed : "\n".toList = ['\n'] := rfl
  simp only [textLines, String.toList_append, feed, List.append_assoc, List.singleton_append,
    ← List.map_append]
  exact congrArg _ (List.splitOnP_append_cons _ _ (by decide))

theorem textLines_unlines : textLines (unlines lines) = lines.flatMap textLines ++ [""] := by
  induction lines with
  | nil => rfl
  | cons line rest ih =>
      have split : unlines (line :: rest) = line ++ "\n" ++ unlines rest := by
        simp [unlines, String.join_cons]
      rw [split, textLines_append, ih, List.flatMap_cons, List.append_assoc]

/-- Single lines are read as they are. -/
theorem flatMap_textLines (single : ∀ line ∈ lines, SingleLine line) :
    lines.flatMap textLines = lines := by
  induction lines with
  | nil => rfl
  | cons line rest ih =>
      rcases List.forall_mem_cons.mp single with ⟨own, others⟩
      rw [List.flatMap_cons, textLines_of_single own, ih others, List.singleton_append]

theorem textLines_joined {texts : List String} (nonempty : texts ≠ []) :
    textLines (joined "\n" texts) = texts.flatMap textLines := by
  induction texts with
  | nil => exact absurd rfl nonempty
  | cons first rest ih =>
      cases rest with
      | nil => simp [joined]
      | cons second rest =>
          have split : joined "\n" (first :: second :: rest) =
              first ++ "\n" ++ joined "\n" (second :: rest) := String.intercalate_cons_cons
          rw [split, textLines_append, ih (List.cons_ne_nil _ _)]
          rfl

/-- What holds of texts and is kept when two of them are joined holds of all of them joined. -/
theorem joined_induction {property : String → Prop} {separator : String} {texts : List String}
    (empty : property "") (each : ∀ text ∈ texts, property text)
    (step : ∀ first rest, property first → property rest → property (first ++ separator ++ rest)) :
    property (joined separator texts) := by
  induction texts with
  | nil => exact empty
  | cons first others ih =>
      rcases List.forall_mem_cons.mp each with ⟨head, tail⟩
      cases others with
      | nil =>
          have alone : joined separator [first] = first := by simp [joined]
          exact alone ▸ head
      | cons second others =>
          have split : joined separator (first :: second :: others) =
              first ++ separator ++ joined separator (second :: others) :=
            String.intercalate_cons_cons
          exact split ▸ step _ _ head (ih tail)

theorem splitOn_append {front rest first : List Char} {others : List (List Char)}
    (free : '\n' ∉ front) (split : rest.splitOn '\n' = first :: others) :
    (front ++ rest).splitOn '\n' = (front ++ first) :: others := by
  induction front with
  | nil => exact split
  | cons c more ih =>
      rw [List.mem_cons, not_or] at free
      have different : ¬ (c == '\n') = true := by simpa using Ne.symm free.1
      rw [List.cons_append, List.splitOn, List.splitOnP_cons_eq_if_modifyHead, if_neg different]
      exact congrArg (List.modifyHead (List.cons c)) (ih free.2)

/-- What stands in front of the first line feed of a text belongs to its first line. -/
theorem exists_textLines_cons (text : String) : ∃ first rest, textLines text = first :: rest ∧
    ∀ front, SingleLine front → textLines (front ++ text) = (front ++ first) :: rest := by
  rcases List.exists_cons_of_ne_nil (List.splitOnP_ne_nil (· == '\n') text.toList) with
    ⟨first, others, split⟩
  refine ⟨String.ofList first, others.map String.ofList, congrArg _ split, ?_⟩
  intro front single
  rw [textLines, String.toList_append, splitOn_append single split]
  simp

theorem mem_textLines_unlines {part : String} (mem : line ∈ lines) (inner : part ∈ textLines line) :
    part ∈ textLines (unlines lines) := by
  rw [textLines_unlines]
  exact List.mem_append_left _ (List.mem_flatMap.mpr ⟨line, mem, inner⟩)

/-- Lines that hold no line feeds are the lines of their text. -/
theorem mem_of_textLines_unlines (single : ∀ line ∈ lines, SingleLine line)
    (mem : line ∈ textLines (unlines lines)) : line ∈ lines ∨ line = "" := by
  rw [textLines_unlines, List.mem_append, List.mem_singleton] at mem
  refine mem.imp_left fun inside => ?_
  rcases List.mem_flatMap.mp inside with ⟨own, ownMem, part⟩
  rw [textLines_of_single (single own ownMem), List.mem_singleton] at part
  exact part ▸ ownMem

theorem hasLine_unlines {kind : String → Prop} (mem : line ∈ lines) (single : SingleLine line)
    (found : kind line) : HasLine (unlines lines) kind :=
  ⟨line, mem_textLines_unlines mem (by simp [textLines_of_single single]), found⟩

/-- A line that ends in any text is read from its first line, whatever the text is. -/
theorem hasLine_front {kind : String → Prop} {front value : String} (mem : front ++ value ∈ lines)
    (single : SingleLine front) (found : ∀ first, kind (front ++ first)) :
    HasLine (unlines lines) kind := by
  rcases exists_textLines_cons value with ⟨first, rest, -, whole⟩
  exact ⟨_, mem_textLines_unlines mem (whole front single ▸ List.mem_cons_self), found first⟩

/-- Texts that are joined by line feeds have the lines of each of them. -/
theorem hasLine_joined {kind : String → Prop} {texts : List String} (mem : text ∈ texts)
    (found : HasLine text kind) : HasLine (joined "\n" texts) kind := by
  rcases found with ⟨line, lineMem, own⟩
  refine ⟨line, ?_, own⟩
  rw [textLines_joined (List.ne_nil_of_mem mem)]
  exact List.mem_flatMap.mpr ⟨text, mem, lineMem⟩

/-- What stands in a list of parts stands in the list of all their items. -/
theorem isInfix_flatMap {α β : Type} {item : α} {items : List α} (mem : item ∈ items)
    (part : α → List β) : part item <:+: items.flatMap part := by
  rw [List.flatMap_def]
  exact List.infix_of_mem_flatten (List.mem_map_of_mem mem)

theorem isInfix_intercalate {α : Type} {separator part : List α} {parts : List (List α)}
    (mem : part ∈ parts) : part <:+: separator.intercalate parts := by
  induction parts with
  | nil => cases mem
  | cons first rest ih =>
      cases rest with
      | nil =>
          rcases List.mem_singleton.mp mem with rfl
          have alone : separator.intercalate [part] = part := List.intercalate_singleton
          exact alone.symm ▸ List.infix_refl part
      | cons second rest =>
          rw [List.intercalate_cons_cons]
          rcases List.mem_cons.mp mem with rfl | later
          · rw [List.append_assoc]
            exact (List.prefix_append _ _).isInfix
          · exact (ih later).trans (List.suffix_append _ _).isInfix

/-- Lines that stand together are read together. -/
theorem isInfix_textLines {part : List String} (inside : part <:+: lines) :
    part.flatMap textLines <:+: textLines (unlines lines) := by
  rcases inside with ⟨before, after, rfl⟩
  rw [textLines_unlines]
  refine ⟨before.flatMap textLines, after.flatMap textLines ++ [""], ?_⟩
  simp

/-- Single lines that stand together are lines of the text as they are. -/
theorem isInfix_textLines_of_single {part : List String} (inside : part <:+: lines)
    (single : ∀ line ∈ part, SingleLine line) : part <:+: textLines (unlines lines) := by
  have read := isInfix_textLines inside
  rwa [flatMap_textLines single] at read

theorem unlines_append (first rest : List String) :
    unlines (first ++ rest) = unlines first ++ unlines rest := by
  simp [unlines]

theorem unlines_cons (line : String) (rest : List String) :
    unlines (line :: rest) = line ++ "\n" ++ unlines rest := by
  simp [unlines, String.join_cons]

/-- Texts that are made of lines are joined to a text with an empty line between neighbours. -/
theorem joined_unlines (parts : List (List String)) :
    joined "\n" (parts.map unlines) = unlines ([""].intercalate parts) := by
  induction parts with
  | nil => rfl
  | cons first rest ih =>
      cases rest with
      | nil => simp [joined]
      | cons second rest =>
          have split : joined "\n" ((first :: second :: rest).map unlines) =
              unlines first ++ "\n" ++ joined "\n" ((second :: rest).map unlines) :=
            String.intercalate_cons_cons
          have feed : unlines [""] = "\n" := by decide
          rw [split, ih, List.intercalate_cons_cons, unlines_append, unlines_append, feed]

end Texts

section Names

namespace IsName

variable {name : String}

theorem frontName? (isName : IsName name) {rest : List Char}
    (ends : ∀ c ∈ rest.head?, isIdentifierTail c = false) :
    UsbDescriptors.frontName? (name.toList ++ rest) = some name := by
  unfold UsbDescriptors.frontName?
  rw [Expression.takeWhile_append_of_ends isName.characters ends]
  split
  next empty => exact absurd (String.toList_injective (by simpa using empty)) isName.nonempty
  next => rw [String.ofList_toList]

theorem enumerator (isName : IsName name) : introducedName? ("\t" ++ name ++ ",") = some name := by
  have line : ("\t" ++ name ++ ",").toList = '\t' :: (name.toList ++ [',']) := by simp
  rw [introducedName?, line]
  exact isName.frontName? (by simp; decide)

theorem valued (isName : IsName name) (value : String) :
    introducedName? ("\t" ++ name ++ " = " ++ value) = some name := by
  have line : ("\t" ++ name ++ " = " ++ value).toList =
      '\t' :: (name.toList ++ ' ' :: ("= " ++ value).toList) := by
    simp
  rw [introducedName?, line]
  exact isName.frontName? (by simp; decide)

theorem defined (isName : IsName name) (value : String) :
    definedName? ("#define " ++ name ++ " " ++ value) = some name := by
  have line : ("#define " ++ name ++ " " ++ value).toList =
      "#define ".toList ++ (name.toList ++ ' ' :: value.toList) := by
    simp
  rw [definedName?, line, if_pos (List.prefix_append _ _),
    List.drop_append_of_le_length (by decide)]
  exact isName.frontName? (by simp; decide)

end IsName

/-- A define introduces the name that it defines. -/
theorem introducedName?_of_defined {line name : String} (defined : definedName? line = some name) :
    introducedName? line = some name := by
  have front : "#define ".toList = '#' :: "define ".toList := by decide
  unfold introducedName?
  split
  next tab => simp [definedName?, tab, front] at defined
  next => exact defined

theorem IsName.define {name : String} (isName : IsName name) (value : String) :
    introducedName? ("#define " ++ name ++ " " ++ value) = some name :=
  introducedName?_of_defined (isName.defined value)

theorem introducedName?_comment (rest : String) : introducedName? ("// " ++ rest) = none := by
  have line : ("// " ++ rest).toList = '/' :: '/' :: ' ' :: rest.toList := by simp
  unfold introducedName?
  rw [line]
  simp

theorem introducedNames_append {first rest : List String} :
    introducedNames (first ++ rest) = introducedNames first ++ introducedNames rest :=
  List.filterMap_append

theorem introducedNames_map {α : Type} {items : List α} {line name : α → String}
    (each : ∀ item ∈ items, introducedName? (line item) = some (name item)) :
    introducedNames (items.map line) = items.map name := by
  rw [introducedNames, List.filterMap_map, ← List.filterMap_eq_map]
  exact List.filterMap_congr each

end Names

end UsbDescriptors
