import UsbDescriptors.Json.Node

/-!
# Reading JSON texts

A reader turns the characters of a text into a `Node` and the characters behind it; where the
text stops being JSON there are none behind it. Readers that look at an unbounded number of
characters carry a budget that the length of the text always covers. At most 127 arrays and
objects may be open at a time.
-/

namespace UsbDescriptors.Json

/-- Space, tab, line feed and carriage return, the only characters between the parts of a text. -/
def isBlank (c : Char) : Bool :=
  c = ' ' || c = '\t' || c = '\n' || c = '\r'

/-- The characters behind leading blanks. -/
def skipBlanks (chars : List Char) : List Char :=
  chars.dropWhile isBlank

def hexDigit? (c : Char) : Option Nat :=
  if '0' ≤ c ∧ c ≤ '9' then some (c.toNat - '0'.toNat)
  else if 'a' ≤ c ∧ c ≤ 'f' then some (c.toNat - 'a'.toNat + 10)
  else if 'A' ≤ c ∧ c ≤ 'F' then some (c.toNat - 'A'.toNat + 10)
  else none

/-- The number of bytes that characters take in UTF-8. -/
def utf8Size (chars : List Char) : Nat :=
  chars.foldr (fun c size => c.utf8Size + size) 0

/-- Four hexadecimal digits. Fewer than four bytes are the end of the string. -/
def readHexEscape (chars : List Char) : Except SyntaxError (Nat × List Char) :=
  match chars with
  | first :: second :: third :: fourth :: rest =>
      match hexDigit? first, hexDigit? second, hexDigit? third, hexDigit? fourth with
      | some a, some b, some c, some d => .ok (((a * 16 + b) * 16 + c) * 16 + d, rest)
      | _, _, _, _ => .error .invalidEscape
  | _ => .error (if utf8Size chars < 4 then .endInString else .invalidEscape)

/-- Whether a code unit is the first of a surrogate pair. -/
def isLeadingSurrogate (unit : Nat) : Bool :=
  0xD800 ≤ unit && unit ≤ 0xDBFF

/-- Whether a code unit is the second of a surrogate pair. -/
def isTrailingSurrogate (unit : Nat) : Bool :=
  0xDC00 ≤ unit && unit ≤ 0xDFFF

/-- The second half of a surrogate pair, which needs an escape of its own. -/
def readTrailingSurrogate (leading : Nat) : List Char → Except SyntaxError (Char × List Char)
  | [] => .error .endInString
  | '\\' :: [] => .error .endInString
  | '\\' :: 'u' :: rest =>
      match readHexEscape rest with
      | .error error => .error error
      | .ok (unit, rest) =>
          if isTrailingSurrogate unit then
            .ok (Char.ofNat ((leading - 0xD800) * 0x400 + (unit - 0xDC00) + 0x10000), rest)
          else .error .loneSurrogate
  | _ => .error .endOfHexEscape

/-- The character named by the digits of an escape. -/
def readUnicodeEscape (chars : List Char) : Except SyntaxError (Char × List Char) :=
  match readHexEscape chars with
  | .error error => .error error
  | .ok (unit, rest) =>
      if isTrailingSurrogate unit then .error .loneSurrogate
      else if isLeadingSurrogate unit then readTrailingSurrogate unit rest
      else .ok (Char.ofNat unit, rest)

/-- The character that an escape stands for, read behind the backslash. -/
def readEscape : List Char → Except SyntaxError (Char × List Char)
  | [] => .error .endInString
  | '"' :: rest => .ok ('"', rest)
  | '\\' :: rest => .ok ('\\', rest)
  | '/' :: rest => .ok ('/', rest)
  | 'b' :: rest => .ok ('\x08', rest)
  | 'f' :: rest => .ok ('\x0c', rest)
  | 'n' :: rest => .ok ('\n', rest)
  | 'r' :: rest => .ok ('\r', rest)
  | 't' :: rest => .ok ('\t', rest)
  | 'u' :: rest => readUnicodeEscape rest
  | _ => .error .invalidEscape

/-- The characters of a string, read behind its opening quote. -/
def readString : (budget : Nat) → List Char → Except SyntaxError (List Char × List Char)
  | 0, _ => .error .endInString
  | _, [] => .error .endInString
  | budget + 1, c :: rest =>
      if c = '"' then .ok ([], rest)
      else if c = '\\' then
        match readEscape rest with
        | .error error => .error error
        | .ok (escaped, rest) =>
            match readString budget rest with
            | .error error => .error error
            | .ok (more, rest) => .ok (escaped :: more, rest)
      else if c.toNat < 0x20 then .error .controlCharacter
      else
        match readString budget rest with
        | .error error => .error error
        | .ok (more, rest) => .ok (c :: more, rest)

/-- The word of a literal that started with another character. -/
def readWord (node : Node) : (word chars : List Char) → Node × Option (List Char)
  | [], rest => (node, some rest)
  | _ :: _, [] => (.brokenScalar .endInValue, none)
  | expected :: word, c :: rest =>
      if c = expected then readWord node word rest else (.brokenScalar .expectedIdent, none)

/-- Digits as they stand in a number literal. -/
structure Literal where
  /-- Whether a minus sign stands in front. -/
  negative : Bool
  /-- The digits in front of the point. -/
  whole : List Char
  /-- The digits behind the point. -/
  fraction : List Char
  /-- The power of ten. -/
  exponent : Int
  /-- Whether the literal has neither a point nor an exponent. -/
  plain : Bool

/-- Takes digits into a significand while it fits in 64 bits, and counts the digits left over. -/
def takeDigits : (significand : Nat) → List Char → Nat × Nat
  | significand, [] => (significand, 0)
  | significand, digit :: rest =>
      let next := significand * 10 + (digit.toNat - '0'.toNat)
      if next < Nat.pow 2 64 then takeDigits next rest else (significand, rest.length + 1)

/-- The number that a literal stands for. A digit in front of the point that does not fit in the
significand counts as a power of ten, one behind the point counts nothing. -/
def Literal.number? (literal : Literal) : Option Number :=
  let (whole, wholeLeft) := takeDigits 0 literal.whole
  let (significand, fractionLeft) := takeDigits whole literal.fraction
  let exponent :=
    literal.exponent + (wholeLeft : Int) - ((literal.fraction.length - fractionLeft : Nat) : Int)
  let double := (Binary64.ofDecimal? literal.negative significand exponent).map Number.double
  if literal.plain ∧ wholeLeft = 0 then
    if literal.negative = false then some (.integer significand)
    else if 0 < significand ∧ significand ≤ Nat.pow 2 63 then some (.integer (-significand))
    else double
  else double

/-- One or more digits, and the characters behind them. -/
def readDigits (chars : List Char) : Except SyntaxError (List Char × List Char) :=
  match chars.takeWhile Char.isDigit, chars.dropWhile Char.isDigit with
  | [], [] => .error .endInValue
  | [], _ => .error .invalidNumber
  | digits, rest => .ok (digits, rest)

def digitsValue (digits : List Char) : Nat :=
  digits.foldl (fun value digit => value * 10 + (digit.toNat - '0'.toNat)) 0

/-- The exponent of a number, read behind its letter. -/
def readExponent (chars : List Char) : Except SyntaxError (Int × List Char) :=
  let (negative, digits) := match chars with
    | '+' :: rest => (false, rest)
    | '-' :: rest => (true, rest)
    | _ => (false, chars)
  match readDigits digits with
  | .error error => .error error
  | .ok (digits, rest) =>
      let magnitude : Int := digitsValue digits
      .ok (if negative then -magnitude else magnitude, rest)

def readOptionalExponent : List Char → Except SyntaxError (Option Int × List Char)
  | c :: rest =>
      if c = 'e' ∨ c = 'E' then
        match readExponent rest with
        | .error error => .error error
        | .ok (exponent, rest) => .ok (some exponent, rest)
      else .ok (none, c :: rest)
  | [] => .ok (none, [])

/-- The optional digits behind the point of a number. -/
def readFraction : List Char → Except SyntaxError (Option (List Char) × List Char)
  | '.' :: rest =>
      match readDigits rest with
      | .error error => .error error
      | .ok (digits, rest) => .ok (some digits, rest)
  | rest => .ok (none, rest)

/-- The digits in front of the point: a zero in front stands alone. -/
def readWhole (chars : List Char) : Except SyntaxError (List Char × List Char) :=
  match readDigits chars with
  | .ok ('0' :: _ :: _, _) => .error .invalidNumber
  | read => read

def readLiteral (chars : List Char) : Except SyntaxError (Literal × List Char) := do
  let (negative, chars) := match chars with
    | '-' :: rest => (true, rest)
    | _ => (false, chars)
  let (whole, chars) ← readWhole chars
  let (fraction, chars) ← readFraction chars
  let (exponent, chars) ← readOptionalExponent chars
  return (
    { negative, whole
      fraction := fraction.getD []
      exponent := exponent.getD 0
      plain := fraction.isNone && exponent.isNone }, chars)

def readNumber (chars : List Char) : Node × Option (List Char) :=
  match readLiteral chars with
  | .error error => (.brokenScalar error, none)
  | .ok (literal, rest) =>
      match literal.number? with
      | some number => (.number number, some rest)
      | none => (.brokenScalar .numberOutOfRange, none)

mutual

/-- A value behind optional blanks, inside at most `depth` further arrays and objects. -/
def readValue (depth : Nat) : (budget : Nat) → List Char → Node × Option (List Char)
  | 0, _ => (.broken .endInValue, none)
  | budget + 1, chars =>
      match skipBlanks chars with
      | [] => (.broken .endInValue, none)
      | c :: rest =>
          if c = '"' then
            match readString budget rest with
            | .error error => (.broken error, none)
            | .ok (text, rest) => (.string (String.ofList text), some rest)
          else if c = '[' then
            match depth with
            | 0 => (.broken .tooDeep, none)
            | depth + 1 =>
                let (items, ending, rest) := readItems depth budget true rest
                (.array items ending, rest)
          else if c = '\x7b' then
            match depth with
            | 0 => (.broken .tooDeep, none)
            | depth + 1 =>
                let (members, ending, rest) := readMembers depth budget true rest
                (.object members ending, rest)
          else if c = 'n' then readWord .null ['u', 'l', 'l'] rest
          else if c = 't' then readWord (.boolean true) ['r', 'u', 'e'] rest
          else if c = 'f' then readWord (.boolean false) ['a', 'l', 's', 'e'] rest
          else if c = '-' ∨ c.isDigit then readNumber (c :: rest)
          else (.broken .expectedValue, none)
termination_by structural budget => budget

/-- The items of an array; all but the first stand behind a comma. -/
def readItems (depth : Nat) : (budget : Nat) → (first : Bool) → List Char →
    List Node × ArrayEnd × Option (List Char)
  | 0, _, _ => ([], .endOfText, none)
  | budget + 1, first, chars =>
      match skipBlanks chars with
      | [] => ([], .endOfText, none)
      | c :: rest =>
          if c = ']' then ([], .closed, some rest)
          else if first then readItem depth budget (c :: rest)
          else if c = ',' then
            match skipBlanks rest with
            | [] => ([], .endBehindComma, none)
            | c :: rest =>
                if c = ']' then ([], .closedBehindComma, none)
                else readItem depth budget (c :: rest)
          else ([], .unexpected, none)
termination_by structural budget => budget

def readItem (depth : Nat) : (budget : Nat) → List Char →
    List Node × ArrayEnd × Option (List Char)
  | 0, _ => ([], .endOfText, none)
  | budget + 1, chars =>
      match readValue depth budget chars with
      | (item, none) => ([item], .endOfText, none)
      | (item, some rest) =>
          let (items, ending, rest) := readItems depth budget false rest
          (item :: items, ending, rest)
termination_by structural budget => budget

/-- The members of an object; all but the first stand behind a comma. -/
def readMembers (depth : Nat) : (budget : Nat) → (first : Bool) → List Char →
    List (String × Node) × ObjectEnd × Option (List Char)
  | 0, _, _ => ([], .endOfText, none)
  | budget + 1, first, chars =>
      match skipBlanks chars with
      | [] => ([], .endOfText, none)
      | c :: rest =>
          if c = '\x7d' then ([], .closed, some rest)
          else if first then readMember depth budget (c :: rest)
          else if c = ',' then
            match skipBlanks rest with
            | [] => ([], .endBehindComma, none)
            | c :: rest =>
                if c = '\x7d' then ([], .closedBehindComma, none)
                else readMember depth budget (c :: rest)
          else ([], .unexpected, none)
termination_by structural budget => budget

def readMember (depth : Nat) : (budget : Nat) → List Char →
    List (String × Node) × ObjectEnd × Option (List Char)
  | 0, _ => ([], .endOfText, none)
  | budget + 1, chars =>
      match chars with
      | '"' :: rest =>
          match readString budget rest with
          | .error error => ([], .brokenName error, none)
          | .ok (name, rest) =>
              match skipBlanks rest with
              | ':' :: rest =>
                  match readValue depth budget rest with
                  | (value, none) => ([(String.ofList name, value)], .endOfText, none)
                  | (value, some rest) =>
                      let (members, ending, rest) := readMembers depth budget false rest
                      ((String.ofList name, value) :: members, ending, rest)
              | [] => ([(String.ofList name, .broken .endInObject)], .endOfText, none)
              | _ => ([(String.ofList name, .broken .expectedColon)], .endOfText, none)
      | _ => ([], .notName, none)
termination_by structural budget => budget

end

/-- The number of arrays and objects that may be open at a time. -/
def depthLimit : Nat := 127

/-- A text as a node and the characters behind it. No character costs more than three units of
the budget: an opening bracket takes one for its value, one for its items and one for the first
of them. -/
def readText (text : String) : Node × Option (List Char) :=
  readValue depthLimit (3 * text.toList.length + 3) text.toList

/-- Reads data from a whole text. Nothing but blanks may stand behind the data. -/
def read {α : Type} (decode : Node → Except ReadError α) (text : String) : Except ReadError α :=
  let (node, rest) := readText text
  match decode node with
  | .error error => .error error
  | .ok data =>
      match rest with
      | none => .error (.badSyntax .endInValue)
      | some rest =>
          if (skipBlanks rest).isEmpty then .ok data
          else .error (.badSyntax .trailingCharacters)

/-- The value of a node as data to be read. -/
def decodeValue (node : Node) : Except ReadError Value :=
  match node.value with
  | .error error => .error (.badSyntax error)
  | .ok value => .ok value

/-- The value that a text denotes. -/
def Value.read (text : String) : Except ReadError Value :=
  Json.read decodeValue text

end UsbDescriptors.Json
