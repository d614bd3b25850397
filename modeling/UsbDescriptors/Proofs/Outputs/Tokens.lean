import UsbDescriptors.Proofs.Outputs.Listings

/-!
# Tokens of generated sources

A C++ compiler reads a source as tokens: words, string literals and signs. Blanks and comments stand
between tokens and are none. The reader takes the longest word that it finds, so a word ends only
where another character follows. Texts that end with a line feed are read one after the other, and
what is read from all of them is what is read from each.
-/

namespace UsbDescriptors.CSource

open CList (isSpace)

inductive Token where
  /-- Letters, digits and underscores. -/
  | word (text : String)
  /-- What stands between two quotes. -/
  | literal (text : String)
  | sign (c : Char)
deriving DecidableEq, Repr

theorem length_behindComment_le (text : List Char) : (behindComment text).length ≤ text.length := by
  by_cases empty : text = []
  · rw [empty, behindComment]
  · exact Nat.le_of_lt (length_behindComment_lt empty)

/-- The tokens of a text. Escapes inside of literals are not looked into. -/
def tokens : List Char → List Token
  | [] => []
  | '/' :: '/' :: rest => tokens (behindComment rest)
  | '"' :: rest =>
      .literal (String.ofList (rest.takeWhile (· ≠ '"'))) :: tokens ((rest.dropWhile (· ≠ '"')).drop 1)
  | c :: rest =>
      if isIdentifierTail c then
        .word (String.ofList (c :: rest.takeWhile isIdentifierTail)) ::
          tokens (rest.dropWhile isIdentifierTail)
      else if isSpace c then tokens rest
      else .sign c :: tokens rest
termination_by text => text.length
decreasing_by
  · have shorter := length_behindComment_le rest
    simp only [List.length_cons]
    omega
  · have shorter := (List.dropWhile_sublist (l := rest) (· ≠ '"')).length_le
    simp only [List.length_cons, List.length_drop]
    omega
  · have shorter := (List.dropWhile_sublist (l := rest) isIdentifierTail).length_le
    simp only [List.length_cons]
    omega
  all_goals simp

/-- A character that is a token wherever it stands outside of literals and comments. -/
def isSign (c : Char) : Bool :=
  c ≠ '/' && c ≠ '"' && !isIdentifierTail c && !isSpace c

def tokensOf (text : String) : List Token :=
  tokens text.toList

section Characters

variable {c : Char} {rest : List Char} {text word : String}

theorem tokens_cons (slash : c ≠ '/') (quote : c ≠ '"') : tokens (c :: rest) =
    if isIdentifierTail c then
      .word (String.ofList (c :: rest.takeWhile isIdentifierTail)) ::
        tokens (rest.dropWhile isIdentifierTail)
    else if isSpace c then tokens rest
    else .sign c :: tokens rest := by
  rw [tokens]
  · rintro - rfl -
    exact slash rfl
  · exact quote

theorem tokens_space (space : isSpace c = true) : tokens (c :: rest) = tokens rest := by
  have kinds : isIdentifierTail c = false ∧ c ≠ '/' ∧ c ≠ '"' := by
    simp only [isSpace, Bool.or_eq_true, decide_eq_true_eq] at space
    rcases space with (rfl | rfl) | rfl <;> decide
  rw [tokens_cons kinds.2.1 kinds.2.2, kinds.1, space]
  rfl

theorem tokens_sign (sign : isSign c = true) : tokens (c :: rest) = .sign c :: tokens rest := by
  simp only [isSign, Bool.and_eq_true, decide_eq_true_eq, Bool.not_eq_true'] at sign
  rcases sign with ⟨⟨⟨slash, quote⟩, tail⟩, space⟩
  rw [tokens_cons slash quote, tail, space]
  rfl

/-- A word is read up to the first other character. -/
theorem tokens_word (isName : IsName word) (ends : isIdentifierTail c = false) :
    tokens (word.toList ++ c :: rest) = .word word :: tokens (c :: rest) := by
  cases written : word.toList with
  | nil => exact absurd (by simpa using written) isName.nonempty
  | cons first more =>
      have mem : first ∈ word.toList := written ▸ List.mem_cons_self
      have slash : first ≠ '/' := isName.characters.ne mem (by decide)
      have quote : first ≠ '"' := isName.characters.ne mem (by decide)
      have characters := isName.characters
      rw [IdentifierTail, written, List.forall_mem_cons] at characters
      have behind : ∀ d ∈ (c :: rest).head?, isIdentifierTail d = false := by simp [ends]
      have own : String.ofList (first :: more) = word := by
        rw [← written, String.ofList_toList]
      rw [List.cons_append, tokens_cons slash quote, if_pos characters.1,
        Expression.takeWhile_append_of_ends characters.2 behind,
        Expression.dropWhile_append_of_ends characters.2 behind, own]

theorem tokens_literal (free : '"' ∉ text.toList) :
    tokens ('"' :: (text.toList ++ '"' :: rest)) = .literal text :: tokens rest := by
  have inside : ∀ d ∈ text.toList, decide (d ≠ '"') = true := by
    intro d mem
    rw [decide_eq_true_iff]
    rintro rfl
    exact free mem
  have behind : ∀ d ∈ ('"' :: rest).head?, decide (d ≠ '"') = false := by simp
  rw [tokens, Expression.takeWhile_append_of_ends inside behind,
    Expression.dropWhile_append_of_ends inside behind, String.ofList_toList, List.drop_one,
    List.tail_cons]

theorem tokens_comment (single : SingleLine text) (last : text.toList.getLast? ≠ some '\\') :
    tokens ('/' :: '/' :: (text.toList ++ '\n' :: rest)) = tokens rest := by
  rw [tokens, CList.behindComment_line single last]

end Characters

/-- A text is read as these tokens, whatever stands behind it. -/
def Reads (text : String) (read : List Token) : Prop :=
  ∀ rest, tokens (text.toList ++ rest) = read ++ tokens rest

section Texts

variable {first second text : String} {read other : List Token}

theorem reads_empty : Reads "" [] := fun _ => rfl

theorem reads_lineFeed : Reads "\n" [] := fun _ => tokens_space (by decide)

theorem Reads.append (front : Reads first read) (behind : Reads second other) :
    Reads (first ++ second) (read ++ other) := by
  intro rest
  rw [String.toList_append, List.append_assoc, front, behind, List.append_assoc]

theorem Reads.tokensOf (reads : Reads text read) : tokensOf text = read := by
  have whole := reads []
  rwa [List.append_nil, tokens, List.append_nil] at whole

/-- Lines are read one after the other. -/
theorem reads_unlines {lines : List String} {readings : List (List Token)}
    (each : List.Forall₂ (fun line read => Reads (line ++ "\n") read) lines readings) :
    Reads (unlines lines) readings.flatten := by
  induction each with
  | nil => exact reads_empty
  | cons head _ ih =>
      rw [unlines_cons, List.flatten_cons]
      exact head.append ih

theorem reads_joined {texts : List String} {readings : List (List Token)}
    (each : List.Forall₂ Reads texts readings) : Reads (joined "\n" texts) readings.flatten := by
  induction each with
  | nil => exact reads_empty
  | @cons first read texts readings head others ih =>
      cases others with
      | nil =>
          have alone : joined "\n" [first] = first := by simp [joined]
          rw [alone, List.flatten_singleton]
          exact head
      | @cons second _ rest _ _ _ =>
          have split : joined "\n" (first :: second :: rest) =
              first ++ "\n" ++ joined "\n" (second :: rest) := String.intercalate_cons_cons
          rw [split, List.flatten_cons, ← List.append_nil read]
          exact (head.append reads_lineFeed).append ih

end Texts

end UsbDescriptors.CSource
