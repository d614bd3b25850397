import UsbDescriptors.Proofs.Expressions.References
import Mathlib.Data.List.DropRight

/-!
# One decomposition for every expression

What an expression is made of is said here by rules, without the order in which a reader looks for
dollar signs, braces and points. The rules leave no choice and cover every text, however dollar
signs, braces and points are mixed in it, so an expression has one decomposition, and this is the
one that is filled in. A context only decides what stands in place of the references.

Behind a dollar sign there is at most one rule that applies. The proof takes the text behind it
apart in the same way in both directions: a text that a rule describes is read by this rule, and a
text that is read was described by some rule.
-/

namespace UsbDescriptors

namespace Expression

/-- A run of key characters up to the first other character, taken apart into a key and the points
at its end. -/
structure KeyRun (key points behind : List Char) : Prop where
  characters : ∀ c ∈ key, isKeyChar c = true
  last : key.getLast? ≠ some '.'
  points : ∀ c ∈ points, c = '.'
  ends : ∀ c ∈ behind.head?, isKeyChar c = false

/-- A dollar sign in front of these characters is kept: no key follows, or an empty one, or one
whose brace is not closed. -/
inductive StandsAlone : List Char → Prop
  | noKey {points behind : List Char} (run : KeyRun [] points behind)
      (notDollar : (points ++ behind).head? ≠ some '$')
      (notBrace : (points ++ behind).head? ≠ some '\x7b') : StandsAlone (points ++ behind)
  | emptyKey {behind : List Char} : StandsAlone ('\x7b' :: '\x7d' :: behind)
  | unclosed {behind : List Char} (unclosed : '\x7d' ∉ behind) : StandsAlone ('\x7b' :: behind)

/-- The pieces that a text is made of. -/
inductive MadeOf : List Char → List Piece → Prop
  | nothing : MadeOf [] []
  | character {c : Char} {rest : List Char} {pieces : List Piece} (other : c ≠ '$')
      (more : MadeOf rest pieces) : MadeOf (c :: rest) (.literal c :: pieces)
  | doubled {rest : List Char} {pieces : List Piece} (more : MadeOf rest pieces) :
      MadeOf ('$' :: '$' :: rest) (.literal '$' :: pieces)
  | braced {key rest : List Char} {pieces : List Piece} (nonempty : key ≠ [])
      (first : '\x7d' ∉ key) (more : MadeOf rest pieces) :
      MadeOf ('$' :: '\x7b' :: (key ++ '\x7d' :: rest)) (.reference key :: pieces)
  | bare {key points behind : List Char} {pieces : List Piece} (nonempty : key ≠ [])
      (run : KeyRun key points behind) (more : MadeOf (points ++ behind) pieces) :
      MadeOf ('$' :: (key ++ (points ++ behind))) (.reference key :: pieces)
  | alone {rest : List Char} {pieces : List Piece} (alone : StandsAlone rest)
      (more : MadeOf rest pieces) : MadeOf ('$' :: rest) (.literal '$' :: pieces)

section Keys

variable {key points behind text : List Char}

theorem isKeyChar_point : isKeyChar '.' = true := by
  decide

theorem not_isKeyChar_dollar : isKeyChar '$' = false := by
  decide

theorem not_isKeyChar_brace : isKeyChar '\x7b' = false := by
  decide

theorem bareKey_eq (text : List Char) :
    bareKey text = (text.takeWhile isKeyChar).rdropWhile (· = '.') := rfl

/-- The key of a run is what is read as the key. -/
theorem KeyRun.bareKey (run : KeyRun key points behind) :
    bareKey (key ++ (points ++ behind)) = key := by
  have characters : ∀ c ∈ key ++ points, isKeyChar c = true := by
    intro c mem
    rcases List.mem_append.mp mem with inKey | inPoints
    · exact run.characters c inKey
    · rw [run.points c inPoints]
      exact isKeyChar_point
  rw [bareKey_eq, ← List.append_assoc, takeWhile_append_of_ends characters run.ends]
  have dropped : (key ++ points).rdropWhile (· = '.') = key.rdropWhile (· = '.') := by
    have reversed : ∀ c ∈ points.reverse, decide (c = '.') = true := by
      simpa using run.points
    simp only [List.rdropWhile, List.reverse_append]
    rw [List.dropWhile_append_of_pos reversed]
  rw [dropped, List.rdropWhile_eq_self_iff]
  intro nonempty
  have last := run.last
  rw [List.getLast?_eq_some_getLast nonempty] at last
  simpa using last

/-- Every text begins with a run, and its key is what is read. -/
theorem exists_keyRun (text : List Char) :
    ∃ points behind, text = Expression.bareKey text ++ (points ++ behind) ∧
      KeyRun (Expression.bareKey text) points behind := by
  have taken : ∀ c ∈ text.takeWhile isKeyChar, isKeyChar c = true :=
    fun c mem => List.mem_takeWhile_imp mem
  refine ⟨(text.takeWhile isKeyChar).rtakeWhile (· = '.'), text.dropWhile isKeyChar, ?_, ?_⟩
  · rw [bareKey_eq, ← List.append_assoc, List.rdropWhile_append_rtakeWhile,
      List.takeWhile_append_dropWhile]
  · constructor
    · intro c mem
      exact taken c ((List.rdropWhile_prefix _ _).subset mem)
    · intro last
      have nonempty : Expression.bareKey text ≠ [] := by
        intro empty
        simp [empty] at last
      have other := List.rdropWhile_last_not _ _ nonempty
      rw [List.getLast?_eq_some_getLast nonempty, Option.some.injEq] at last
      simp [← bareKey_eq, last] at other
    · intro c mem
      simpa using List.mem_rtakeWhile_imp mem
    · intro c head
      have stopped := List.head?_dropWhile_not isKeyChar text
      rw [Option.mem_def.mp head] at stopped
      simpa using stopped

end Keys

section Reading

variable {key points behind rest text : List Char}

theorem bracedKey?_of_unclosed (unclosed : '\x7d' ∉ text) : bracedKey? text = none := by
  induction text with
  | nil => rfl
  | cons c rest ih =>
      rw [List.mem_cons, not_or] at unclosed
      simp [bracedKey?, Ne.symm unclosed.1, ih unclosed.2]

theorem dollarPiece_of_run (nonempty : key ≠ []) (run : KeyRun key points behind) :
    dollarPiece (key ++ (points ++ behind)) = (.reference key, points ++ behind) := by
  have read := run.bareKey
  cases key with
  | nil => exact absurd rfl nonempty
  | cons c more =>
      have character := run.characters c List.mem_cons_self
      have notDollar : c ≠ '$' := by
        rintro rfl
        simp [not_isKeyChar_dollar] at character
      have notBrace : c ≠ '\x7b' := by
        rintro rfl
        simp [not_isKeyChar_brace] at character
      rw [List.cons_append] at read ⊢
      simp [dollarPiece, notDollar, notBrace, read]

theorem dollarPiece_of_alone (alone : StandsAlone rest) :
    dollarPiece rest = (.literal '$', rest) := by
  cases alone with
  | @noKey points behind run notDollar notBrace =>
      have read := run.bareKey
      rw [List.nil_append] at read
      cases text : points ++ behind with
      | nil => rfl
      | cons c more =>
          rw [text] at read notDollar notBrace
          simp only [List.head?_cons, ne_eq, Option.some.injEq] at notDollar notBrace
          simp [dollarPiece, notDollar, notBrace, read]
  | emptyKey => simp [dollarPiece, bracedKey?]
  | unclosed unclosed => simp [dollarPiece, bracedKey?_of_unclosed unclosed]

/-- The rules describe no text in two ways: what they say is what is read. -/
theorem MadeOf.eq_pieces {pieces : List Piece} (made : MadeOf text pieces) :
    pieces = Expression.pieces text := by
  induction made with
  | nothing => rfl
  | character other _ ih => rw [pieces_cons_of_ne other, ih]
  | @doubled rest _ _ ih =>
      have doubled : dollarPiece ('$' :: rest) = (.literal '$', rest) := rfl
      rw [pieces_cons_dollar, doubled, ih]
  | braced nonempty first _ ih =>
      rw [pieces_cons_dollar, dollarPiece_braced nonempty first, ih]
  | bare nonempty run _ ih => rw [pieces_cons_dollar, dollarPiece_of_run nonempty run, ih]
  | alone alone _ ih => rw [pieces_cons_dollar, dollarPiece_of_alone alone, ih]

/-- Behind a dollar sign there is always something that a rule describes. -/
theorem dollar_cases (text : List Char) :
    (∃ rest, text = '$' :: rest) ∨
    (∃ key rest, key ≠ [] ∧ '\x7d' ∉ key ∧ text = '\x7b' :: (key ++ '\x7d' :: rest)) ∨
    (∃ key points behind, key ≠ [] ∧ KeyRun key points behind ∧ text = key ++ (points ++ behind)) ∨
    StandsAlone text := by
  by_cases dollar : text.head? = some '$'
  · left
    exact List.head?_eq_some_iff.mp dollar
  right
  by_cases brace : text.head? = some '\x7b'
  · rcases List.head?_eq_some_iff.mp brace with ⟨inner, rfl⟩
    by_cases closed : '\x7d' ∈ inner
    · rcases List.eq_append_cons_of_mem closed with ⟨key, rest, rfl, first⟩
      cases key with
      | nil =>
          right; right
          exact .emptyKey
      | cons c key =>
          left
          exact ⟨c :: key, rest, List.cons_ne_nil _ _, first, rfl⟩
    · right; right
      exact .unclosed closed
  right
  rcases exists_keyRun text with ⟨points, behind, split, run⟩
  cases read : Expression.bareKey text with
  | nil =>
      right
      rw [read] at run
      have whole : text = points ++ behind := by simpa [read] using split
      subst whole
      exact .noKey run dollar brace
  | cons c key =>
      left
      rw [read] at split run
      exact ⟨c :: key, points, behind, List.cons_ne_nil _ _, run, split⟩

/-- The rules cover every text. -/
theorem exists_madeOf (text : List Char) : ∃ pieces, MadeOf text pieces := by
  -- Every rule leaves a shorter text, so the induction is on the length.
  induction length : text.length using Nat.strong_induction_on generalizing text with
  | _ bound ih =>
      subst length
      cases text with
      | nil => exact ⟨[], .nothing⟩
      | cons c text =>
          by_cases other : c ≠ '$'
          · rcases ih text.length (by simp) text rfl with ⟨pieces, more⟩
            exact ⟨_, .character other more⟩
          rw [not_not] at other
          subst other
          rcases dollar_cases text with ⟨rest, rfl⟩ | ⟨key, rest, nonempty, first, rfl⟩ |
            ⟨key, points, behind, nonempty, run, rfl⟩ | alone
          · have shorter : rest.length < ('$' :: '$' :: rest).length := by
              simp only [List.length_cons]
              omega
            rcases ih _ shorter rest rfl with ⟨pieces, more⟩
            exact ⟨_, .doubled more⟩
          · rcases ih rest.length (by simp; omega) rest rfl with ⟨pieces, more⟩
            exact ⟨_, .braced nonempty first more⟩
          · have shorter :
                (points ++ behind).length < ('$' :: (key ++ (points ++ behind))).length := by
              simp only [List.length_cons, List.length_append]
              omega
            rcases ih _ shorter (points ++ behind) rfl with ⟨pieces, more⟩
            exact ⟨_, .bare nonempty run more⟩
          · rcases ih text.length (by simp) text rfl with ⟨pieces, more⟩
            exact ⟨_, .alone alone more⟩

theorem madeOf_iff {pieces : List Piece} :
    MadeOf text pieces ↔ pieces = Expression.pieces text := by
  refine ⟨MadeOf.eq_pieces, ?_⟩
  rintro rfl
  rcases exists_madeOf text with ⟨pieces, made⟩
  exact made.eq_pieces ▸ made

end Reading

end Expression

/-- What stands in the place of a piece: the character itself, or the value of the variable as it
is. -/
def Piece.textIn (context : Context) : Piece → String
  | .literal c => String.singleton c
  | .reference key => (context.get? (String.ofList key)).getD ""

namespace Context

variable {context : Context} {pieces : List Piece} {filled : List Char}

theorem filled_eq (run : context.fill pieces = .ok filled) :
    String.ofList filled = String.join (pieces.map (Piece.textIn context)) := by
  induction pieces generalizing filled with
  | nil =>
      cases run
      rfl
  | cons piece rest ih =>
      rw [List.map_cons, String.join_cons]
      cases piece with
      | literal c =>
          rcases fill_literal_ok run with ⟨others, later, rfl⟩
          rw [← ih later]
          exact String.toList_injective (by simp [Piece.textIn])
      | reference key =>
          rcases fill_reference_ok run with ⟨value, others, found, later, rfl⟩
          rw [← ih later]
          exact String.toList_injective (by simp [Piece.textIn, found])

/-- The key is the first of the keys that the context does not define. -/
def FirstUnknown (context : Context) (keys : List String) (key : String) : Prop :=
  ∃ before behind, keys = before ++ key :: behind ∧
    (∀ earlier ∈ before, earlier ∈ context.keys) ∧ key ∉ context.keys

/-- What a context makes of an expression with these pieces: their texts one behind the other if it
defines all keys, and a fault that names the first other key and the expression if not. -/
structure Replaces (context : Context) (expression : String) (pieces : List Piece) : Prop where
  ok : ∀ text, substitute context expression = .ok text ↔
    (∀ key ∈ pieces.filterMap Piece.key?, key ∈ context.keys) ∧
      text = String.join (pieces.map (Piece.textIn context))
  error : ∀ fault, substitute context expression = .error fault ↔
    ∃ key, context.FirstUnknown (pieces.filterMap Piece.key?) key ∧
      fault = .undefinedVariable key expression

theorem find?_iff_firstUnknown {keys : List String} {key : String} :
    keys.find? (fun key => !context.contains key) = some key ↔ context.FirstUnknown keys key := by
  have unknown : ∀ {key}, (!context.contains key) = true ↔ key ∉ context.keys := by
    intro key
    rw [← OrderedMap.contains_iff_mem_keys, Bool.not_eq_true', Bool.not_eq_true]
  have known : ∀ {key}, (!!context.contains key) = true ↔ key ∈ context.keys := by
    intro key
    rw [Bool.not_not, OrderedMap.contains_iff_mem_keys]
  rw [List.find?_eq_some_iff_append, unknown]
  simp only [known]
  constructor
  · rintro ⟨other, before, behind, split, earlier⟩
    exact ⟨before, behind, split, earlier, other⟩
  · rintro ⟨before, behind, split, earlier, other⟩
    exact ⟨other, before, behind, split, earlier⟩

theorem replaces_pieces (context : Context) (expression : String) :
    context.Replaces expression (Expression.pieces expression.toList) := by
  constructor
  · intro text
    rw [← fill_ok_iff]
    unfold substitute
    cases run : context.fill (Expression.pieces expression.toList) with
    | error key => simp
    | ok filled =>
        rw [← filled_eq run]
        simp [eq_comm]
  · intro fault
    simp only [← find?_iff_firstUnknown, ← fill_error_iff]
    unfold substitute
    cases context.fill (Expression.pieces expression.toList) with
    | error key => simp [eq_comm]
    | ok filled => simp

end Context

/-- Every expression has exactly one decomposition, whatever the context is, and every context only
replaces its references. -/
theorem exists_unique_decomposition (expression : String) :
    ∃ pieces, (∀ other, Expression.MadeOf expression.toList other ↔ other = pieces) ∧
      ∀ context : Context, context.Replaces expression pieces :=
  ⟨Expression.pieces expression.toList, fun _ => Expression.madeOf_iff,
    fun context => context.replaces_pieces expression⟩

/-- Doubled, braced, bare and lone dollar signs next to each other. -/
example : Expression.keys "$$a$\x7btag.id\x7d$speed..$.$\x7b\x7d$\x7bopen" =
    ["tag.id", "speed"] := by
  decide +kernel

end UsbDescriptors
