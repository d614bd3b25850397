import UsbDescriptors.Fault

/-!
# Expressions

An expression is a text with references to variables. `${key}` refers to any variable, `$key` to
one whose name is made of letters, digits, underscores, points and hyphens and does not end in a
point, and `$$` stands for a dollar sign. Every other dollar sign stands for itself. The pieces of
an expression depend on its text alone; values are put in place of references and never looked
at again.
-/

namespace UsbDescriptors

/-- A piece of an expression. -/
inductive Piece where
  /-- A character that stands for itself. -/
  | literal (c : Char)
  /-- A reference to a variable. -/
  | reference (key : List Char)
deriving DecidableEq, Repr

namespace Expression

/-- A reference to a variable as it is written with braces. -/
def referTo (key : String) : String :=
  "$\x7b" ++ key ++ "\x7d"

/-- Whether a character may stand in a reference without braces. -/
def isKeyChar (c : Char) : Bool :=
  c.isAlphanum || c = '_' || c = '.' || c = '-'

/-- The key of a reference without braces: the longest run of key characters without the points
at its end. -/
def bareKey (chars : List Char) : List Char :=
  ((chars.takeWhile isKeyChar).reverse.dropWhile (· = '.')).reverse

/-- The characters in front of the first closing brace and those behind it. -/
def bracedKey? : List Char → Option (List Char × List Char)
  | [] => none
  | c :: rest =>
      if c = '\x7d' then some ([], rest)
      else (bracedKey? rest).map fun found => (c :: found.1, found.2)

/-- The piece that starts with a dollar sign, read behind it, and the characters behind the
piece. -/
def dollarPiece : List Char → Piece × List Char
  | [] => (.literal '$', [])
  | c :: rest =>
      if c = '$' then (.literal '$', rest)
      else if c = '\x7b' then
        match bracedKey? rest with
        | some (key, behind) =>
            if key.isEmpty then (.literal '$', c :: rest) else (.reference key, behind)
        | none => (.literal '$', c :: rest)
      else
        let key := bareKey (c :: rest)
        if key.isEmpty then (.literal '$', c :: rest)
        else (.reference key, (c :: rest).drop key.length)

/-- The pieces of a text; a piece is never empty, so the length of the text is budget enough. -/
def scan : (budget : Nat) → List Char → List Piece
  | 0, _ => []
  | _, [] => []
  | budget + 1, c :: rest =>
      if c = '$' then
        let (piece, behind) := dollarPiece rest
        piece :: scan budget behind
      else .literal c :: scan budget rest

def pieces (chars : List Char) : List Piece :=
  scan chars.length chars

end Expression

/-- The variables that an expression can refer to. -/
abbrev Context := OrderedMap String

/-- The characters that a list of pieces stands for, or the first key without a value. -/
def Context.fill (context : Context) : List Piece → Except String (List Char)
  | [] => .ok []
  | .literal c :: rest =>
      match context.fill rest with
      | .error key => .error key
      | .ok filled => .ok (c :: filled)
  | .reference key :: rest =>
      match context.get? (String.ofList key) with
      | none => .error (String.ofList key)
      | some value =>
          match context.fill rest with
          | .error key => .error key
          | .ok filled => .ok (value.toList ++ filled)

/-- Replaces the references of an expression by their values. -/
def substitute (context : Context) (expression : String) : Except Fault String :=
  match context.fill (Expression.pieces expression.toList) with
  | .error key => .error (.undefinedVariable key expression)
  | .ok filled => .ok (String.ofList filled)

end UsbDescriptors
