import UsbDescriptors.Proofs.Expressions.References
import UsbDescriptors.Proofs.Json.Numbers
import UsbDescriptors.Proofs.Outputs.Reports

/-!
# Calls as they are read

How a preprocessor takes the call of a macro apart depends on its parentheses and on the commas
outside of the inner ones. The reader of calls is written without regard to how calls are put
together. A text is an argument if the reader passes over it, whatever stands behind it, and a call
that is put together from arguments is read as these arguments. Most texts are arguments because
they hold neither parentheses nor commas.
-/

namespace UsbDescriptors

/-- A character that stands for itself in one line of ASCII, the blank included. -/
def isPrintableAscii (c : Char) : Bool :=
  ' '.val ≤ c.val && c.val ≤ '~'.val

/-- A character that takes no part in the shape of a call. -/
def isPlainChar (c : Char) : Bool :=
  isPrintableAscii c && c ≠ '(' && c ≠ ')' && c ≠ ','

section Reading

/-- The depth behind a character inside of the parentheses of a call. There is none behind a comma
between two arguments and behind the end of the call. -/
def depthBehind? (depth : Nat) (c : Char) : Option Nat :=
  if c = '(' then some (depth + 1)
  else if c = ')' then if depth = 0 then none else some (depth - 1)
  else if c = ',' ∧ depth = 0 then none
  else some depth

/-- Puts characters in front of the first part. -/
def putInFront (front : List Char) (parts : Option (List (List Char))) :
    Option (List (List Char)) :=
  parts.map (List.modifyHead (front ++ ·))

/-- The parts of a text between the commas that stand outside of parentheses, if the parentheses
balance. -/
def outerParts? : (depth : Nat) → List Char → Option (List (List Char))
  | depth, [] => if depth = 0 then some [[]] else none
  | depth, c :: rest =>
      match depthBehind? depth c with
      | some next => putInFront [c] (outerParts? next rest)
      | none => if c = ',' then (outerParts? 0 rest).map ([] :: ·) else none

/-- The macro and the arguments of a call, without the blanks in front of the arguments: a name, and
parentheses around the rest of the text. -/
def readCall? (text : String) : Option (String × List String) :=
  let name := String.ofList (text.toList.takeWhile isIdentifierTail)
  match text.toList.dropWhile isIdentifierTail with
  | '(' :: rest =>
      if isCIdentifier name ∧ rest.getLast? = some ')' then
        (outerParts? 0 rest.dropLast).map fun parts =>
          (name, parts.map fun part => String.ofList (part.dropWhile (· = ' ')))
      else none
  | _ => none

variable {c : Char} {depth : Nat} {chars rest : List Char}

theorem depthBehind?_plain (plain : isPlainChar c = true) : depthBehind? depth c = some depth := by
  simp only [isPlainChar, Bool.and_eq_true, decide_eq_true_eq] at plain
  simp [depthBehind?, plain]

theorem outerParts?_cons {next : Nat} (goes : depthBehind? depth c = some next) :
    outerParts? depth (c :: rest) = putInFront [c] (outerParts? next rest) := by
  rw [outerParts?, goes]

theorem putInFront_nil (parts : Option (List (List Char))) : putInFront [] parts = parts := by
  cases parts with
  | none => rfl
  | some parts => cases parts <;> rfl

theorem putInFront_putInFront (first second : List Char) (parts : Option (List (List Char))) :
    putInFront first (putInFront second parts) = putInFront (first ++ second) parts := by
  cases parts with
  | none => rfl
  | some parts => cases parts <;> simp [putInFront]

/-- Plain characters belong to the part in which they stand. -/
theorem outerParts?_plain (plain : ∀ c ∈ chars, isPlainChar c = true) :
    outerParts? depth (chars ++ rest) = putInFront chars (outerParts? depth rest) := by
  induction chars with
  | nil => rw [List.nil_append, putInFront_nil]
  | cons c more ih =>
      rcases List.forall_mem_cons.mp plain with ⟨own, others⟩
      rw [List.cons_append, outerParts?_cons (depthBehind?_plain own), ih others]
      exact putInFront_putInFront [c] more _

end Reading

/-- A text that is read as one argument wherever it stands in a call. -/
structure IsArgument (text : String) : Prop where
  starts : ∃ c ∈ text.toList.head?, c ≠ ' '
  printable : ∀ c ∈ text.toList, isPrintableAscii c = true
  outer : ∀ rest, outerParts? 0 (text.toList ++ rest) =
    putInFront text.toList (outerParts? 0 rest)

/-- A text that takes no part in the shape of a call. -/
def PlainText (text : String) : Prop :=
  ∀ c ∈ text.toList, isPlainChar c = true

/-- A text that is an argument because of the characters that it is written with. -/
@[mk_iff]
structure PlainArgument (text : String) : Prop where
  starts : ∃ c ∈ text.toList.head?, c ≠ ' '
  plain : PlainText text

instance (text : String) : Decidable (PlainText text) :=
  decidable_of_iff (text.toList.all isPlainChar = true) List.all_eq_true

instance (text : String) : Decidable (PlainArgument text) :=
  decidable_of_iff (text.toList.head?.any (· ≠ ' ') = true ∧ PlainText text) (by
    simp [plainArgument_iff, Option.any_eq_true])

theorem isPrintableAscii_of_plain {c : Char} (plain : isPlainChar c = true) :
    isPrintableAscii c = true := by
  simp only [isPlainChar, Bool.and_eq_true] at plain
  exact plain.1.1.1

theorem PlainArgument.isArgument {text : String} (plain : PlainArgument text) :
    IsArgument text where
  starts := plain.starts
  printable := fun c mem => isPrintableAscii_of_plain (plain.plain c mem)
  outer := fun _ => outerParts?_plain plain.plain

namespace IsArgument

variable {text descriptor : String} {arguments : List String}

theorem ne_empty (isArgument : IsArgument text) : text ≠ "" := by
  rintro rfl
  rcases isArgument.starts with ⟨c, head, -⟩
  cases head

theorem dropWhile_blank (isArgument : IsArgument text) :
    text.toList.dropWhile (· = ' ') = text.toList := by
  rcases isArgument.starts with ⟨c, head, other⟩
  cases written : text.toList with
  | nil => rfl
  | cons first rest =>
      rw [written] at head
      cases head
      simp [other]

/-- Arguments that are joined in a call are its parts, each later one behind a blank. -/
theorem outerParts?_joined {first : String} {others : List String} (head : IsArgument first)
    (tail : ∀ argument ∈ others, IsArgument argument) :
    outerParts? 0 (joined ", " (first :: others)).toList =
      some (first.toList :: others.map fun argument => ' ' :: argument.toList) := by
  induction others generalizing first with
  | nil =>
      have whole := head.outer []
      rw [List.append_nil] at whole
      simp [joined, whole, outerParts?, putInFront]
  | cons second others ih =>
      rcases List.forall_mem_cons.mp tail with ⟨own, later⟩
      have text : (joined ", " (first :: second :: others)).toList =
          first.toList ++ ',' :: ' ' :: (joined ", " (second :: others)).toList := by
        have split : joined ", " (first :: second :: others) =
            first ++ ", " ++ joined ", " (second :: others) := String.intercalate_cons_cons
        rw [split]
        simp
      have comma : depthBehind? 0 ',' = none := by decide
      have blank : depthBehind? 0 ' ' = some 0 := by decide
      rw [text, head.outer, outerParts?, comma]
      simp only [if_true, outerParts?_cons blank, ih own later]
      simp [putInFront]

/-- A call is read as its macro and its arguments. -/
theorem readCall?_statement (macroName : isCIdentifier descriptor = true)
    (nonempty : arguments ≠ []) (each : ∀ argument ∈ arguments, IsArgument argument) :
    readCall? (descriptor ++ "(" ++ joined ", " arguments ++ ")") =
      some (descriptor, arguments) := by
  have text : (descriptor ++ "(" ++ joined ", " arguments ++ ")").toList =
      descriptor.toList ++ '(' :: ((joined ", " arguments).toList ++ [')']) := by
    simp
  have tail : ∀ c ∈ descriptor.toList, isIdentifierTail c = true :=
    ReportTable.identifierTail_of_isCIdentifier macroName
  have name : (descriptor.toList ++ '(' :: ((joined ", " arguments).toList ++ [')'])).takeWhile
      isIdentifierTail = descriptor.toList :=
    Expression.takeWhile_append_of_ends tail (by simp; decide)
  have behind : (descriptor.toList ++ '(' :: ((joined ", " arguments).toList ++ [')'])).dropWhile
      isIdentifierTail = '(' :: ((joined ", " arguments).toList ++ [')']) := by
    rw [List.dropWhile_append_of_pos tail]
    exact List.dropWhile_cons_of_neg (by decide)
  cases arguments with
  | nil => exact absurd rfl nonempty
  | cons first others =>
      rcases List.forall_mem_cons.mp each with ⟨head, later⟩
      have blanks : others.map (fun argument =>
          String.ofList ((' ' :: argument.toList).dropWhile (· = ' '))) = others := by
        conv_rhs => rw [← List.map_id others]
        refine List.map_congr_left fun argument mem => ?_
        simp [(later argument mem).dropWhile_blank]
      simp only [readCall?, text, name, behind, String.ofList_toList, macroName,
        List.getLast?_concat, and_self, if_true, List.dropLast_concat,
        outerParts?_joined head later, Option.map_some, List.map_cons, List.map_map,
        head.dropWhile_blank]
      exact congrArg (fun rest => some (descriptor, first :: rest)) blanks

end IsArgument

section Characters

variable {c : Char} {text : String}

theorem isPrintableAscii_of_isIdentifierTail (tail : isIdentifierTail c = true) :
    isPrintableAscii c = true := by
  simp only [isIdentifierTail, Bool.or_eq_true, decide_eq_true_eq] at tail
  rcases tail with alphanumeric | rfl
  · simp [Char.isAlphanum, Char.isDigit, isAlpha_iff] at alphanumeric
    simp [isPrintableAscii]
    grind
  · decide

theorem isPlainChar_of_isIdentifierTail (tail : isIdentifierTail c = true) :
    isPlainChar c = true ∧ c ≠ ' ' := by
  have other : ∀ d, isIdentifierTail d = false → c ≠ d := by
    rintro d no rfl
    simp [no] at tail
  simp [isPlainChar, isPrintableAscii_of_isIdentifierTail tail, other '(' (by decide),
    other ')' (by decide), other ',' (by decide), other ' ' (by decide)]

theorem isPlainChar_of_isNumberChar (numeric : isNumberChar c = true) :
    isPlainChar c = true ∧ c ≠ ' ' := by
  simp only [isNumberChar, Bool.or_eq_true, decide_eq_true_eq] at numeric
  rcases numeric with (((digit | rfl) | rfl) | rfl) | rfl
  · apply isPlainChar_of_isIdentifierTail
    simp [isIdentifierTail, Char.isAlphanum, digit]
  all_goals decide

theorem IsName.plainArgument (isName : IsName text) : PlainArgument text := by
  constructor
  · cases written : text.toList with
    | nil => exact absurd (by simpa using written) isName.nonempty
    | cons c rest =>
        have tail := isName.characters c (by simp [written])
        exact ⟨c, rfl, (isPlainChar_of_isIdentifierTail tail).2⟩
  · exact fun c mem => (isPlainChar_of_isIdentifierTail (isName.characters c mem)).1

theorem plainText_append {first second : String} :
    PlainText (first ++ second) ↔ PlainText first ∧ PlainText second := by
  simp [PlainText, or_imp, forall_and]

theorem PlainArgument.append {first second : String} (argument : PlainArgument first)
    (plain : PlainText second) : PlainArgument (first ++ second) where
  starts := by
    rcases argument.starts with ⟨c, head, other⟩
    exact ⟨c, head?_append head second, other⟩
  plain := plainText_append.mpr ⟨argument.plain, plain⟩

theorem plainText_of_identifierTail (tail : IdentifierTail text) : PlainText text :=
  fun c mem => (isPlainChar_of_isIdentifierTail (tail c mem)).1

end Characters

end UsbDescriptors
