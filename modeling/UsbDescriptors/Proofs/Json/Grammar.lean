import UsbDescriptors.Json.Reader

/-!
# The grammar of JSON

Which texts are JSON, said without a reader: a value is spelled by certain characters, and blanks
may stand between the parts of an array or an object. Nothing here takes a budget or looks ahead,
and nothing bounds how many arrays and objects may be open at a time.

A relation takes what is spelled first and the characters that spell it second. Where blanks are
allowed the grammar names them, so that a spelling has no blanks around itself.
-/

namespace UsbDescriptors.Json

/-- Any number of blanks. -/
def Blanks (chars : List Char) : Prop :=
  ∀ c ∈ chars, isBlank c = true

theorem Blanks.append {front behind : List Char} (first : Blanks front) (second : Blanks behind) :
    Blanks (front ++ behind) :=
  List.forall_mem_append.mpr ⟨first, second⟩

/-! ## Numbers -/

/-- One or more digits. -/
def Digits (chars : List Char) : Prop :=
  chars ≠ [] ∧ ∀ c ∈ chars, c.isDigit = true

/-- Digits in front of a point: a zero in front stands alone. -/
def WholeDigits (chars : List Char) : Prop :=
  Digits chars ∧ (chars.head? = some '0' → chars = ['0'])

/-- Whether a number is negative, in front of its digits. -/
inductive SpellsSign : Bool → List Char → Prop
  | absent : SpellsSign false []
  | minus : SpellsSign true ['-']

/-- The digits behind the point of a number, if there is a point. -/
inductive SpellsFraction : Option (List Char) → List Char → Prop
  | absent : SpellsFraction none []
  | point {digits : List Char} : Digits digits → SpellsFraction (some digits) ('.' :: digits)

/-- The power of ten of a number, if there is one. -/
inductive SpellsExponent : Option Int → List Char → Prop
  | absent : SpellsExponent none []
  | unsigned {letter : Char} {digits : List Char} : letter = 'e' ∨ letter = 'E' → Digits digits →
      SpellsExponent (some (digitsValue digits)) (letter :: digits)
  | plus {letter : Char} {digits : List Char} : letter = 'e' ∨ letter = 'E' → Digits digits →
      SpellsExponent (some (digitsValue digits)) (letter :: '+' :: digits)
  | minus {letter : Char} {digits : List Char} : letter = 'e' ∨ letter = 'E' → Digits digits →
      SpellsExponent (some (-digitsValue digits)) (letter :: '-' :: digits)

/-- A number that is not too large to be one: `Literal.number?` says what its digits amount to. -/
inductive SpellsNumber : Number → List Char → Prop
  | literal {negative : Bool} {fraction? : Option (List Char)} {exponent? : Option Int}
      {sign whole fraction exponent : List Char} {number : Number} :
      SpellsSign negative sign → WholeDigits whole → SpellsFraction fraction? fraction →
      SpellsExponent exponent? exponent →
      Literal.number? {
        negative, whole
        fraction := fraction?.getD []
        exponent := exponent?.getD 0
        plain := fraction?.isNone && exponent?.isNone } = some number →
      SpellsNumber number (sign ++ whole ++ fraction ++ exponent)

/-! ## Strings -/

/-- A code unit, by four hexadecimal digits. -/
inductive SpellsUnit : Nat → List Char → Prop
  | digits {first second third fourth : Char} {a b c d : Nat} :
      hexDigit? first = some a → hexDigit? second = some b → hexDigit? third = some c →
      hexDigit? fourth = some d →
      SpellsUnit (((a * 16 + b) * 16 + c) * 16 + d) [first, second, third, fourth]

/-- The characters that may stand behind a backslash and what they mean there. -/
def shortEscapes : List (Char × Char) :=
  [('"', '"'), ('\\', '\\'), ('/', '/'), ('b', '\x08'), ('f', '\x0c'), ('n', '\n'), ('r', '\r'),
    ('t', '\t')]

/-- A character inside a string. -/
inductive SpellsChar : Char → List Char → Prop
  | plain {c : Char} : c ≠ '"' → c ≠ '\\' → 0x20 ≤ c.toNat → SpellsChar c [c]
  | short {letter c : Char} : (letter, c) ∈ shortEscapes → SpellsChar c ['\\', letter]
  | unit {unit : Nat} {digits : List Char} : SpellsUnit unit digits →
      isLeadingSurrogate unit = false → isTrailingSurrogate unit = false →
      SpellsChar (Char.ofNat unit) ('\\' :: 'u' :: digits)
  | pair {leading trailing : Nat} {first second : List Char} : SpellsUnit leading first →
      isLeadingSurrogate leading = true → SpellsUnit trailing second →
      isTrailingSurrogate trailing = true →
      SpellsChar (Char.ofNat ((leading - 0xD800) * 0x400 + (trailing - 0xDC00) + 0x10000))
        ('\\' :: 'u' :: first ++ '\\' :: 'u' :: second)

inductive SpellsChars : List Char → List Char → Prop
  | nil : SpellsChars [] []
  | cons {c : Char} {more own rest : List Char} : SpellsChar c own → SpellsChars more rest →
      SpellsChars (c :: more) (own ++ rest)

/-- A string between its quotes. -/
inductive SpellsString : String → List Char → Prop
  | quoted {chars inside : List Char} : SpellsChars chars inside →
      SpellsString (String.ofList chars) ('"' :: inside ++ ['"'])

/-! ## Arrays and objects -/

section Lists

variable {α : Type}

mutual

/-- One or more things with commas between them and blanks around each. -/
inductive Separated (spells : α → List Char → Prop) : List α → List Char → Prop
  | first {item : α} {rest : List α} {front own more : List Char} : Blanks front →
      spells item own → Continued spells rest more →
      Separated spells (item :: rest) (front ++ (own ++ more))

/-- What stands behind something in a list: nothing more, or a comma and further things. -/
inductive Continued (spells : α → List Char → Prop) : List α → List Char → Prop
  | last {gap : List Char} : Blanks gap → Continued spells [] gap
  | comma {items : List α} {gap more : List Char} : Blanks gap → Separated spells items more →
      Continued spells items (gap ++ ',' :: more)

end

/-- What stands between two brackets. -/
inductive Listed (spells : α → List Char → Prop) : List α → List Char → Prop
  | none {gap : List Char} : Blanks gap → Listed spells [] gap
  | some {items : List α} {inside : List Char} : Separated spells items inside →
      Listed spells items inside

end Lists

mutual

/-- A JSON value. A name that is repeated in an object keeps its first place and takes its last
value. -/
inductive SpellsValue : Value → List Char → Prop
  | null : SpellsValue .null ['n', 'u', 'l', 'l']
  | true : SpellsValue (.boolean true) ['t', 'r', 'u', 'e']
  | false : SpellsValue (.boolean false) ['f', 'a', 'l', 's', 'e']
  | number {number : Number} {chars : List Char} : SpellsNumber number chars →
      SpellsValue (.number number) chars
  | string {text : String} {chars : List Char} : SpellsString text chars →
      SpellsValue (.string text) chars
  | array {items : List Value} {inside : List Char} : Listed SpellsValue items inside →
      SpellsValue (.array items) ('[' :: inside ++ [']'])
  | object {members : List (String × Value)} {inside : List Char} :
      Listed SpellsMember members inside →
      SpellsValue (.object (OrderedMap.ofList members)) ('\x7b' :: inside ++ ['\x7d'])

/-- A member of an object. -/
inductive SpellsMember : String × Value → List Char → Prop
  | named {name : String} {value : Value} {spelled gap front own : List Char} :
      SpellsString name spelled → Blanks gap → Blanks front → SpellsValue value own →
      SpellsMember (name, value) (spelled ++ (gap ++ ':' :: (front ++ own)))

end

/-- A text that is a JSON value with nothing but blanks around it. -/
def Value.SpelledBy (value : Value) (text : String) : Prop :=
  ∃ front own behind, text.toList = front ++ (own ++ behind) ∧ Blanks front ∧ Blanks behind ∧
    SpellsValue value own

end UsbDescriptors.Json
