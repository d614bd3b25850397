import UsbDescriptors.Json.Error

/-!
# JSON as far as it can be read

A `Node` is the structure of a JSON text up to the first place where it stops being JSON. Data
can be read from a node in the order of the text, so that a fault of shape is found before a
syntax fault that stands behind it. A node without a break denotes a value.
-/

namespace UsbDescriptors.Json

/-- How an array ends behind its items. -/
inductive ArrayEnd where
  /-- With the closing bracket. -/
  | closed
  /-- The text ends where a comma or the bracket is expected. -/
  | endOfText
  /-- The text ends behind a comma. -/
  | endBehindComma
  /-- The bracket stands right behind a comma. -/
  | closedBehindComma
  /-- Something else stands where a comma or the bracket is expected. -/
  | unexpected
deriving DecidableEq, Repr

/-- How an object ends behind its members. -/
inductive ObjectEnd where
  /-- With the closing brace. -/
  | closed
  /-- The text ends where a comma or the brace is expected. -/
  | endOfText
  /-- The text ends behind a comma. -/
  | endBehindComma
  /-- The brace stands right behind a comma. -/
  | closedBehindComma
  /-- Something else stands where a comma or the brace is expected. -/
  | unexpected
  /-- Something that is no string stands where a name is expected. -/
  | notName
  /-- A name is broken. -/
  | brokenName (error : SyntaxError)
deriving Repr

/-- The structure of a JSON text up to the first syntax fault. -/
inductive Node where
  | null
  | boolean (value : Bool)
  | number (value : Number)
  | string (text : String)
  /-- An array; its end counts if no item is broken. -/
  | array (items : List Node) (ending : ArrayEnd)
  /-- An object with its members as written; its end counts if no member is broken. -/
  | object (members : List (String × Node)) (ending : ObjectEnd)
  /-- The place where the text stops being JSON. -/
  | broken (error : SyntaxError)
  /-- A number or a word in which the text stops being JSON. -/
  | brokenScalar (error : SyntaxError)
deriving Repr, Inhabited

/-- The syntax fault of an array that does not end with its bracket. -/
def ArrayEnd.error? : ArrayEnd → Option SyntaxError
  | .closed => none
  | .endOfText => some .endInList
  | .endBehindComma => some .endInValue
  | .closedBehindComma => some .trailingComma
  | .unexpected => some .expectedCommaOrBracket

/-- The syntax fault of an array that does not end although all data has been read from it. -/
def ArrayEnd.errorIfComplete? : ArrayEnd → Option SyntaxError
  | .closed => none
  | .endOfText => some .endInList
  | .closedBehindComma => some .trailingComma
  | .endBehindComma | .unexpected => some .trailingCharacters

/-- The syntax fault of an object that does not end with its brace. -/
def ObjectEnd.error? : ObjectEnd → Option SyntaxError
  | .closed => none
  | .endOfText => some .endInObject
  | .endBehindComma => some .endInValue
  | .closedBehindComma => some .trailingComma
  | .unexpected => some .expectedCommaOrBrace
  | .notName => some .keyNotString
  | .brokenName error => some error

namespace Node

/-- What a node is, seen from its first characters. -/
def found : Node → Except SyntaxError Found
  | .null => .ok .null
  | .boolean value => .ok (.boolean value)
  | .number value => .ok (.number value)
  | .string text => .ok (.string text)
  | .array _ _ => .ok .sequence
  | .object _ _ => .ok .map
  | .broken error => .error error
  | .brokenScalar error => .error error

mutual

/-- The value that a node denotes. In an object a repeated name keeps its first place and takes
its last value. -/
def value : Node → Except SyntaxError Value
  | .null => .ok .null
  | .boolean value => .ok (.boolean value)
  | .number value => .ok (.number value)
  | .string text => .ok (.string text)
  | .array items ending =>
      match values items with
      | .error error => .error error
      | .ok read =>
          match ending.error? with
          | some error => .error error
          | none => .ok (.array read)
  | .object members ending =>
      match memberValues members with
      | .error error => .error error
      | .ok read =>
          match ending.error? with
          | some error => .error error
          | none => .ok (.object (OrderedMap.ofList read))
  | .broken error => .error error
  | .brokenScalar error => .error error

def values : List Node → Except SyntaxError (List Value)
  | [] => .ok []
  | item :: rest =>
      match value item with
      | .error error => .error error
      | .ok read =>
          match values rest with
          | .error error => .error error
          | .ok more => .ok (read :: more)

/-- The values that the members of an object denote, as written. -/
def memberValues : List (String × Node) → Except SyntaxError (List (String × Value))
  | [] => .ok []
  | (name, member) :: rest =>
      match value member with
      | .error error => .error error
      | .ok read =>
          match memberValues rest with
          | .error error => .error error
          | .ok more => .ok ((name, read) :: more)

end

mutual

def ofValue : Value → Node
  | .null => .null
  | .boolean value => .boolean value
  | .number value => .number value
  | .string text => .string text
  | .array items => .array (ofValues items) .closed
  | .object members => .object (ofMembers members) .closed

def ofValues : List Value → List Node
  | [] => []
  | item :: rest => ofValue item :: ofValues rest

def ofMembers : List (String × Value) → List (String × Node)
  | [] => []
  | (name, value) :: rest => (name, ofValue value) :: ofMembers rest

end

end Node

end UsbDescriptors.Json
