import UsbDescriptors.Json.Reader

/-!
# Lists in JSON texts

The items of an array and the members of an object are read by the same loop: it looks for the
closing character, takes the comma in front of everything but the first thing, and leaves the thing
itself and the loop behind it to another reader. What can be said about this loop is said once for
both kinds of list.
-/

namespace UsbDescriptors.Json

theorem skipBlanks_cons {c : Char} {rest : List Char} (shown : isBlank c = false) :
    skipBlanks (c :: rest) = c :: rest := by
  rw [skipBlanks, List.dropWhile_cons, shown]
  rfl

/-- How a list is closed, and the ends of a list that is not. -/
structure Closing (Ending : Type) where
  char : Char
  closed : Ending
  endOfText : Ending
  endBehindComma : Ending
  closedBehindComma : Ending
  unexpected : Ending
  isClosing : char = ']' ∨ char = '\x7d'

def brackets : Closing ArrayEnd where
  char := ']'
  closed := .closed
  endOfText := .endOfText
  endBehindComma := .endBehindComma
  closedBehindComma := .closedBehindComma
  unexpected := .unexpected
  isClosing := .inl rfl

def braces : Closing ObjectEnd where
  char := '\x7d'
  closed := .closed
  endOfText := .endOfText
  endBehindComma := .endBehindComma
  closedBehindComma := .closedBehindComma
  unexpected := .unexpected
  isClosing := .inr rfl

@[simp]
theorem brackets_char : brackets.char = ']' := rfl

@[simp]
theorem brackets_closed : brackets.closed = .closed := rfl

@[simp]
theorem braces_char : braces.char = '\x7d' := rfl

@[simp]
theorem braces_closed : braces.closed = .closed := rfl

namespace Closing

variable {Ending β : Type}

theorem not_blank (closing : Closing Ending) : isBlank closing.char = false := by
  rcases closing.isClosing with bracket | brace
  · rw [bracket]
    decide
  · rw [brace]
    decide

theorem ne_comma (closing : Closing Ending) : closing.char ≠ ',' := by
  rcases closing.isClosing with bracket | brace
  · rw [bracket]
    decide
  · rw [brace]
    decide

/-- The loop over a list, where `one` reads the next thing and everything behind it. -/
def readList (closing : Closing Ending) (one : List Char → List β × Ending × Option (List Char))
    (first : Bool) (chars : List Char) : List β × Ending × Option (List Char) :=
  match skipBlanks chars with
  | [] => ([], closing.endOfText, none)
  | c :: rest =>
      if c = closing.char then ([], closing.closed, some rest)
      else if first then one (c :: rest)
      else if c = ',' then
        match skipBlanks rest with
        | [] => ([], closing.endBehindComma, none)
        | c :: rest =>
            if c = closing.char then ([], closing.closedBehindComma, none)
            else one (c :: rest)
      else ([], closing.unexpected, none)

/-- A thing starts here: neither a blank, which is skipped, nor the end of the list. -/
def Starts (closing : Closing Ending) (chars : List Char) : Prop :=
  ∃ first more, chars = first :: more ∧ isBlank first = false ∧ first ≠ closing.char

variable {closing : Closing Ending} {one : List Char → List β × Ending × Option (List Char)}
  {first : Bool} {chars : List Char}

theorem readList_closed : closing.readList one first (closing.char :: chars) =
    ([], closing.closed, some chars) := by
  rw [readList, skipBlanks_cons closing.not_blank]
  exact if_pos rfl

theorem readList_first (starts : closing.Starts chars) :
    closing.readList one true chars = one chars := by
  rcases starts with ⟨first, more, rfl, shown, goesOn⟩
  rw [readList, skipBlanks_cons shown]
  simp only [if_neg goesOn, if_true]

theorem readList_comma (starts : closing.Starts chars) :
    closing.readList one false (',' :: chars) = one chars := by
  rcases starts with ⟨first, more, rfl, shown, goesOn⟩
  have comma : skipBlanks (',' :: first :: more) = ',' :: first :: more :=
    skipBlanks_cons (by decide)
  rw [readList, comma]
  simp only [if_neg closing.ne_comma.symm, Bool.false_eq_true, if_false, if_true,
    skipBlanks_cons shown, if_neg goesOn]

end Closing

section Readers

variable {depth budget : Nat} {first : Bool} {chars : List Char}

theorem readItems_succ : readItems depth (budget + 1) first chars =
    brackets.readList (readItem depth budget) first chars := rfl

theorem readMembers_succ : readMembers depth (budget + 1) first chars =
    braces.readList (readMember depth budget) first chars := rfl

end Readers

end UsbDescriptors.Json
