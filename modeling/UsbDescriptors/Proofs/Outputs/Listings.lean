import UsbDescriptors.Proofs.Outputs.Comments
import UsbDescriptors.Proofs.Strings.Records
import Mathlib.Data.List.DropRight

/-!
# Lists as they are read

A C compiler reads the enumerators between the braces of an enumeration and the initializers
between those of an array in the same way, as items that stand between commas. A line comment counts
as a blank, blanks around an item do not belong to it, and the last item may have a comma behind it.
Inside a string literal there are neither commas nor comments.

The reader is written without regard to how lists are put together. A text is a word if the reader
passes over it, whatever stands behind it, and lines with one word each are read as their words.
-/

namespace UsbDescriptors.CList

/-- Where a character stands. -/
inductive Place where
  | code
  /-- Inside of a string literal. -/
  | literal
  /-- Behind the two slashes of a comment. -/
  | comment

/-- Puts characters in front of the first part. -/
def putBefore (front : List Char) (parts : List (List Char)) : List (List Char) :=
  parts.modifyHead (front ++ ·)

/-- The parts of a text between the commas of its code. -/
def parts : Place → List Char → List (List Char)
  | _, [] => [[]]
  | .code, '/' :: '/' :: rest => putBefore [' '] (parts .comment rest)
  | .code, ',' :: rest => [] :: parts .code rest
  | .code, '"' :: rest => putBefore ['"'] (parts .literal rest)
  | .code, c :: rest => putBefore [c] (parts .code rest)
  | .literal, '\\' :: c :: rest => putBefore ['\\', c] (parts .literal rest)
  | .literal, '"' :: rest => putBefore ['"'] (parts .code rest)
  | .literal, c :: rest => putBefore [c] (parts .literal rest)
  | .comment, '\\' :: '\n' :: rest => parts .comment rest
  | .comment, '\n' :: rest => parts .code rest
  | .comment, _ :: rest => parts .comment rest

def isSpace (c : Char) : Bool :=
  c = ' ' || c = '\t' || c = '\n'

/-- A part without the blanks around it. -/
def trimmed (part : List Char) : String :=
  String.ofList ((part.dropWhile isSpace).rdropWhile isSpace)

/-- The items of a list, given the text between its braces. -/
def items (text : String) : List String :=
  let all := (parts .code text.toList).map trimmed
  if all.getLast? = some "" then all.dropLast else all

section Parts

variable {c : Char} {front text rest : List Char}

theorem putBefore_nil (parts : List (List Char)) : putBefore [] parts = parts := by
  cases parts <;> rfl

theorem putBefore_putBefore (first second : List Char) (parts : List (List Char)) :
    putBefore first (putBefore second parts) = putBefore (first ++ second) parts := by
  cases parts <;> simp [putBefore]

theorem parts_code_cons (comma : c ≠ ',') (quote : c ≠ '"') (slash : c ≠ '/') :
    parts .code (c :: rest) = putBefore [c] (parts .code rest) := by
  rw [parts]
  · rintro - rfl -
    exact slash rfl
  · exact comma
  · exact quote

theorem parts_literal_cons (quote : c ≠ '"') (backslash : c ≠ '\\') :
    parts .literal (c :: rest) = putBefore [c] (parts .literal rest) := by
  rw [parts]
  · rintro - - rfl
    exact absurd rfl backslash
  · exact quote

/-- The reader goes on behind a comment where a compiler does. -/
theorem parts_comment (text : List Char) :
    parts .comment text = parts .code (behindComment text) := by
  fun_induction behindComment text with
  | case1 => rfl
  | case2 rest ih => rw [parts, ih]
  | case3 rest => rw [parts]
  | case4 c rest splice feed ih =>
      rw [parts, ih]
      · exact splice
      · exact feed

end Parts

section Blanks

variable {front part : List Char}

/-- Blanks in front of a part that starts and ends with other characters do not belong to it. -/
theorem trimmed_append (blank : ∀ c ∈ front, isSpace c = true)
    (starts : ∃ c ∈ part.head?, isSpace c = false)
    (ends : ∃ c ∈ part.getLast?, isSpace c = false) :
    trimmed (front ++ part) = String.ofList part := by
  have first : part.dropWhile isSpace = part := by
    rcases starts with ⟨c, head, other⟩
    cases part with
    | nil => rfl
    | cons own rest =>
        rcases Option.some.inj head with rfl
        exact List.dropWhile_cons_of_neg (by simp [other])
  have last : part.rdropWhile isSpace = part := by
    rcases ends with ⟨c, final, other⟩
    rw [List.rdropWhile_eq_self_iff]
    intro nonempty
    rw [Option.mem_def, List.getLast?_eq_some_getLast nonempty, Option.some.injEq] at final
    simp [final, other]
  rw [trimmed, List.dropWhile_append_of_pos blank, first, last]

theorem trimmed_of_blank (blank : ∀ c ∈ front, isSpace c = true) : trimmed front = "" := by
  rw [trimmed, List.dropWhile_eq_nil_iff.mpr blank, List.rdropWhile_nil]

end Blanks

/-- A text that the reader passes over in code, with a character other than a blank at either
end. -/
structure IsWord (word : String) : Prop where
  reads : ∀ rest, parts .code (word.toList ++ rest) = putBefore word.toList (parts .code rest)
  starts : ∃ c ∈ word.toList.head?, isSpace c = false
  ends : ∃ c ∈ word.toList.getLast?, isSpace c = false

/-- A line that is read as one word and a comma, whatever stands below it. -/
def LineOf (line word : String) : Prop :=
  IsWord word ∧ ∃ front behind, (∀ c ∈ front, isSpace c = true) ∧
    (∀ c ∈ behind, isSpace c = true) ∧
      ∀ rest, parts .code (line.toList ++ '\n' :: rest) =
        (front ++ word.toList) :: putBefore behind (parts .code rest)

/-- Lines with one word each are read as their words. -/
theorem items_unlines {lines words : List String} (related : List.Forall₂ LineOf lines words) :
    items (unlines lines) = words := by
  -- Blanks behind the comma of a line stand in front of the word of the next line.
  have all : ∀ front, (∀ c ∈ front, isSpace c = true) →
      (putBefore front (parts .code (unlines lines).toList)).map trimmed = words ++ [""] := by
    induction related with
    | nil =>
        intro front blank
        simp [unlines, parts, putBefore, trimmed_of_blank blank]
    | @cons line word lines words head _ ih =>
        intro front blank
        rcases head with ⟨isWord, before, behind, beforeBlank, behindBlank, reads⟩
        have text : (unlines (line :: lines)).toList =
            line.toList ++ '\n' :: (unlines lines).toList := by
          simp [unlines_cons]
        have blanks : ∀ c ∈ front ++ before, isSpace c = true :=
          List.forall_mem_append.mpr ⟨blank, beforeBlank⟩
        have own := trimmed_append blanks isWord.starts isWord.ends
        rw [List.append_assoc, String.ofList_toList] at own
        rw [text, reads, putBefore, List.modifyHead_cons, List.map_cons, own, ih behind behindBlank,
          List.cons_append]
  have whole := all [] (by simp)
  rw [putBefore_nil] at whole
  simp [items, whole]

section Words

variable {word comment : String} {chars rest : List Char}

/-- What follows the line of a comment is read behind it, even if nothing follows. -/
theorem behindComment_line (single : '\n' ∉ chars) (last : chars.getLast? ≠ some '\\') :
    behindComment (chars ++ '\n' :: rest) = rest := by
  induction chars with
  | nil => rw [List.nil_append, behindComment]
  | cons c more ih =>
      rw [List.mem_cons, not_or] at single
      rw [List.cons_append, behindComment_cons (Ne.symm single.1)]
      · apply ih single.2
        intro ending
        exact last (by simp [List.getLast?_cons, ending])
      · rintro rfl
        cases more with
        | nil => simp at last
        | cons next more =>
            intro feed
            exact single.2 (List.mem_cons.mpr (Or.inl (Option.some.inj feed).symm))

/-- Characters without commas, quotes and slashes are read as they are. -/
theorem parts_code_append (plain : ∀ c ∈ chars, c ≠ ',' ∧ c ≠ '"' ∧ c ≠ '/') :
    parts .code (chars ++ rest) = putBefore chars (parts .code rest) := by
  induction chars with
  | nil => rw [List.nil_append, putBefore_nil]
  | cons c more ih =>
      rcases List.forall_mem_cons.mp plain with ⟨⟨comma, quote, slash⟩, others⟩
      rw [List.cons_append, parts_code_cons comma quote slash, ih others, putBefore_putBefore,
        List.singleton_append]

/-- Letters, digits and underscores are a word. -/
theorem isWord_of_isName (isName : IsName word) : IsWord word := by
  have tail := isName.characters
  have noSpace {c : Char} (mem : c ∈ word.toList) : isSpace c = false := by
    have blank : c ≠ ' ' := tail.ne mem (by decide)
    have tab : c ≠ '\t' := tail.ne mem (by decide)
    have feed : c ≠ '\n' := tail.ne mem (by decide)
    simp [isSpace, blank, tab, feed]
  have nonempty : word.toList ≠ [] := by simpa using isName.nonempty
  constructor
  · intro rest
    exact parts_code_append fun c mem =>
      ⟨tail.ne mem (by decide), tail.ne mem (by decide), tail.ne mem (by decide)⟩
  · exact ⟨_, List.head?_eq_some_head nonempty, noSpace (List.head_mem nonempty)⟩
  · exact ⟨_, List.getLast?_eq_some_getLast nonempty, noSpace (List.getLast_mem nonempty)⟩

theorem parts_word (isWord : IsWord word) (rest : List Char) :
    parts .code ('\t' :: (word.toList ++ ',' :: rest)) =
      ('\t' :: word.toList) :: parts .code rest := by
  have comma : parts .code (',' :: rest) = [] :: parts .code rest := by rw [parts]
  rw [parts_code_cons (by decide) (by decide) (by decide), isWord.reads, comma]
  simp [putBefore]

/-- An enumerator without a value is the word of its line. -/
theorem lineOf_enumerator (isWord : IsWord word) : LineOf ("\t" ++ word ++ ",") word := by
  refine ⟨isWord, ['\t'], ['\n'], by simp [isSpace], by simp [isSpace], ?_⟩
  intro rest
  have text : ("\t" ++ word ++ ",").toList ++ '\n' :: rest =
      '\t' :: (word.toList ++ ',' :: '\n' :: rest) := by
    simp
  rw [text, parts_word isWord, parts_code_cons (by decide) (by decide) (by decide)]
  rfl

/-- A word with a comment behind its comma is the word of its line if the comment has one line and
does not end in a backslash. -/
theorem lineOf_commented (isWord : IsWord word) (single : SingleLine comment)
    (last : comment.toList.getLast? ≠ some '\\') :
    LineOf ("\t" ++ word ++ ", //" ++ comment) word := by
  refine ⟨isWord, ['\t'], [' ', ' '], by simp [isSpace], by simp [isSpace], ?_⟩
  intro rest
  have text : ("\t" ++ word ++ ", //" ++ comment).toList ++ '\n' :: rest =
      '\t' :: (word.toList ++ ',' :: ' ' :: '/' :: '/' :: (comment.toList ++ '\n' :: rest)) := by
    simp
  have slashes (behind : List Char) :
      parts .code ('/' :: '/' :: behind) = putBefore [' '] (parts .comment behind) := by
    rw [parts]
  rw [text, parts_word isWord, parts_code_cons (by decide) (by decide) (by decide), slashes,
    parts_comment, behindComment_line single last, putBefore_putBefore]
  rfl

end Words

section Literals

theorem parts_literal_append {chars rest : List Char} (plain : ∀ c ∈ chars, c ≠ '"' ∧ c ≠ '\\') :
    parts .literal (chars ++ rest) = putBefore chars (parts .literal rest) := by
  induction chars with
  | nil => rw [List.nil_append, putBefore_nil]
  | cons c more ih =>
      rcases List.forall_mem_cons.mp plain with ⟨⟨quote, backslash⟩, others⟩
      rw [List.cons_append, parts_literal_cons quote backslash, ih others, putBefore_putBefore,
        List.singleton_append]

/-- The escape of a byte belongs to the literal in which it stands. -/
theorem parts_literal_byteEscape (byte : UInt8) (rest : List Char) :
    parts .literal ((StringEntry.byteEscape byte).toList ++ rest) =
      putBefore (StringEntry.byteEscape byte).toList (parts .literal rest) := by
  have tail := identifierTail_paddedHex 2 byte.toNat
  have digits : ∀ c ∈ (paddedHex 2 byte.toNat).toList, c ≠ '"' ∧ c ≠ '\\' :=
    fun c mem => ⟨tail.ne mem (by decide), tail.ne mem (by decide)⟩
  have text : (StringEntry.byteEscape byte).toList =
      ['\\', 'x'] ++ (paddedHex 2 byte.toNat).toList := by
    simp [StringEntry.byteEscape]
  have escape (behind : List Char) :
      parts .literal ('\\' :: 'x' :: behind) = putBefore ['\\', 'x'] (parts .literal behind) := by
    rw [parts]
  rw [text, List.append_assoc, List.cons_append, List.singleton_append, escape,
    parts_literal_append digits, putBefore_putBefore]

theorem parts_literal_escapes (bytes : List UInt8) (rest : List Char) :
    parts .literal (bytes.flatMap (fun byte => (StringEntry.byteEscape byte).toList) ++ '"' :: rest) =
      putBefore (bytes.flatMap (fun byte => (StringEntry.byteEscape byte).toList) ++ ['"'])
        (parts .code rest) := by
  induction bytes with
  | nil =>
      rw [List.flatMap_nil, List.nil_append, parts]
      rfl
  | cons byte more ih =>
      rw [List.flatMap_cons, List.append_assoc, parts_literal_byteEscape, ih, putBefore_putBefore,
        List.append_assoc]

/-- A literal of hexadecimal escapes is a word. -/
theorem isWord_literal (bytes : List UInt8) :
    IsWord ("\"" ++ String.join (bytes.map StringEntry.byteEscape) ++ "\"") := by
  have text := StringEntry.toList_literal bytes
  have quote : isSpace '"' = false := by decide
  constructor
  · intro rest
    have opening (behind : List Char) :
        parts .code ('"' :: behind) = putBefore ['"'] (parts .literal behind) := by
      rw [parts]
    rw [text, List.cons_append, List.append_assoc, opening, List.singleton_append,
      parts_literal_escapes, putBefore_putBefore]
    rfl
  · exact ⟨'"', by rw [text]; rfl, quote⟩
  · exact ⟨'"', by rw [text, ← List.cons_append, List.getLast?_concat]; rfl, quote⟩

end Literals

end UsbDescriptors.CList
