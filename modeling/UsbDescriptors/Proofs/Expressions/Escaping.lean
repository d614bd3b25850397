import UsbDescriptors.Proofs.Expressions.Values

/-!
# Escaped texts

Any text can stand in an expression for itself once its dollar signs are doubled. The scanner takes
a doubled dollar sign as one piece, so it starts anew behind every character of the text: what
follows an escaped text is read as if nothing stood in front of it, even if the text ends in dollar
signs and a brace follows. The same holds behind a reference in braces. An expression with such a
front has therefore the text of its front and then its own text, and it fails where it fails without
the front.
-/

namespace UsbDescriptors

namespace Expression

/-- A character of a text that is to stand for itself. -/
def escapedChar (c : Char) : List Char :=
  if c = '$' then ['$', '$'] else [c]

/-- The expression that stands for a text: every dollar sign of the text is doubled. -/
def escaped (text : String) : String :=
  String.ofList (text.toList.flatMap escapedChar)

/-- Whatever stands behind an escaped text, the characters of the text are its first pieces. -/
theorem pieces_escaped_append {chars rest : List Char} :
    pieces (chars.flatMap escapedChar ++ rest) = chars.map .literal ++ pieces rest := by
  induction chars with
  | nil => rfl
  | cons c more ih =>
      rw [List.flatMap_cons, List.append_assoc]
      by_cases dollar : c = '$'
      · subst dollar
        have doubled (behind : List Char) : dollarPiece ('$' :: behind) = (.literal '$', behind) :=
          rfl
        simp only [escapedChar, if_true, List.cons_append, List.nil_append, pieces_cons_dollar,
          doubled, ih, List.map_cons]
      · simp only [escapedChar, if_neg dollar, List.cons_append, List.nil_append,
          pieces_cons_of_ne dollar, ih, List.map_cons]

end Expression

open Expression (IsKey escaped pieces referTo)

namespace Context

variable {context : Context} {expression whole front : String}

/-- The whole expression is the other one behind a front with a fixed text: it has the text of the
front and the text of the other one, and it fails if the other one does and for the same key. -/
structure Continues (context : Context) (whole front expression : String) : Prop where
  ok : ∀ text, substitute context whole = .ok text ↔
    ∃ rest, substitute context expression = .ok rest ∧ text = front ++ rest
  error : ∀ fault, substitute context whole = .error fault ↔
    ∃ key, substitute context expression = .error (.undefinedVariable key expression) ∧
      fault = .undefinedVariable key whole

theorem continues_of_pieces {frontPieces : List Piece}
    (split : pieces whole.toList = frontPieces ++ pieces expression.toList)
    (filled : context.fill frontPieces = .ok front.toList) :
    context.Continues whole front expression := by
  have outcome : context.fill (pieces whole.toList) =
      (context.fill (pieces expression.toList)).map (front.toList ++ ·) := by
    rw [split, fill_append, filled]
    rfl
  constructor
  · intro text
    unfold substitute
    rw [outcome]
    cases context.fill (pieces expression.toList) with
    | error key => simp [Except.map]
    | ok rest => simp [Except.map, String.ofList_append, eq_comm]
  · intro fault
    unfold substitute
    rw [outcome]
    cases context.fill (pieces expression.toList) with
    | error key => simp [Except.map, eq_comm]
    | ok rest => simp [Except.map]

end Context

/-- An escaped text stands for itself in every context. In front of a reference in braces and any
further expression it stands for itself as well, the reference stands for its value, and the rest
is what it is alone. -/
theorem substitute_escaped (context : Context) (text : String) :
    substitute context (escaped text) = .ok text ∧
      ∀ key value expression, IsKey key → context.get? key = some value →
        context.Continues (escaped text ++ referTo key ++ expression) (text ++ value)
          expression := by
  have characters : (escaped text).toList = text.toList.flatMap Expression.escapedChar :=
    String.toList_ofList
  constructor
  · rw [substitute_eq_ok_iff, characters, ← List.append_nil (List.flatMap _ _),
      Expression.pieces_escaped_append]
    exact (congrArg context.fill (List.append_nil _)).trans Context.fill_literals
  · intro key value expression isKey defined
    apply @Context.continues_of_pieces _ _ _ _
      (text.toList.map .literal ++ [.reference key.toList])
    · rw [String.toList_append, String.toList_append, characters, List.append_assoc,
        Expression.pieces_escaped_append, Expression.pieces_referTo_append isKey, List.append_assoc]
      rfl
    · have reference : context.fill [.reference key.toList] = .ok value.toList := by
        rw [Context.fill, String.ofList_toList, defined]
        simp [Context.fill]
      rw [Context.fill_append, Context.fill_literals, reference, String.toList_append]
      rfl

/-- Dollar signs at the end of a text in front of a reference, a value with dollar signs, and an
expression that fails behind them. -/
theorem substitute_escaped_price :
    IsKey "price" ∧ OrderedMap.get? [("price", "$$9")] "price" = some "$$9" ∧
      Context.Continues [("price", "$$9")]
        ("$$\x7bx\x7d$$$$" ++ referTo "price" ++ "$\x7b $tax.") ("$\x7bx\x7d$$" ++ "$$9")
        "$\x7b $tax." := by
  have isKey : IsKey "price" := by decide
  have spelled : escaped "$\x7bx\x7d$$" = "$$\x7bx\x7d$$$$" := by decide
  refine ⟨isKey, rfl, ?_⟩
  rw [← spelled]
  exact (substitute_escaped [("price", "$$9")] "$\x7bx\x7d$$").2 "price" "$$9" "$\x7b $tax."
    isKey rfl

end UsbDescriptors
