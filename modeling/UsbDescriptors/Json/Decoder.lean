import UsbDescriptors.Json.Reader

/-!
# Reading data from JSON

Decoders read data of a known shape from a node, in the order of the text. The fields of a record
are the members of an object, in any order, or the items of an array, in the order of their
declaration.
-/

namespace UsbDescriptors.Json

/-- Reads data of one shape. -/
abbrev Decoder (α : Type) := Node → Except ReadError α

namespace Decoder

variable {α β : Type}

def syntaxFault (error : SyntaxError) : Except ReadError α :=
  .error (.badSyntax error)

def shapeFault (error : ShapeError) : Except ReadError α :=
  .error (.badShape error)

/-- Goes on unless there is a fault of syntax. -/
def proceed (error? : Option SyntaxError) (data : α) : Except ReadError α :=
  match error? with
  | some error => syntaxFault error
  | none => .ok data

/-- The fault of a node that has another shape than expected. -/
def mismatch (node : Node) (expected : String) : Except ReadError α :=
  match node.found with
  | .error error => syntaxFault error
  | .ok found => shapeFault (.invalidType found expected)

def string : Decoder String
  | .string text => .ok text
  | node => mismatch node "a string"

def boolean : Decoder Bool
  | .boolean value => .ok value
  | node => mismatch node "a boolean"

/-- A natural number up to a limit, under the name of its type. -/
def natural (type : String) (limit : Nat) : Decoder Nat
  | .number (.integer value) =>
      if 0 ≤ value ∧ value ≤ limit then .ok value.toNat
      else shapeFault (.invalidInteger value type)
  | node => mismatch node type

def byte : Decoder Nat := natural "u8" 255

def word : Decoder Nat := natural "u16" 65535

def double : Decoder Binary64
  | .number number => .ok number.toBinary64
  | node => mismatch node "f64"

/-- Data that may be given as null to say that there is none. -/
def optional (decode : Decoder α) : Decoder (Option α)
  | .null => .ok none
  | node => (decode node).map some

/-- The items of an array, all of one shape. -/
def list (decode : Decoder α) : Decoder (List α)
  | .array items ending => do
      let read ← items.mapM decode
      proceed ending.error? read
  | node => mismatch node "a sequence"

/-- Named data of one shape. A repeated name keeps its first place and takes its last data. -/
def map (decode : Decoder α) : Decoder (OrderedMap α)
  | .object members ending => do
      let read ← members.mapM fun member => (decode member.2).map fun data => (member.1, data)
      proceed ending.error? (OrderedMap.ofList read)
  | node => mismatch node "a map"

/-- The fault of an array from which all data has been read: something is left over, or the array
does not end. -/
def leftOver? (items : List Node) (ending : ArrayEnd) : Option SyntaxError :=
  if items.isEmpty then ending.errorIfComplete? else some .trailingCharacters

/-- The fault of an array that ends before all data has been read. -/
def tooShort (ending : ArrayEnd) (length : Nat) (expected : String) : Except ReadError α :=
  match ending.error? with
  | some error => syntaxFault error
  | none => shapeFault (.invalidLength length expected)

/-- Two data of different shapes in an array. -/
def pair (first : Decoder α) (second : Decoder β) : Decoder (α × β)
  | .array [] ending => tooShort ending 0 "a tuple of size 2"
  | .array [left] ending => do
      let _ ← first left
      tooShort ending 1 "a tuple of size 2"
  | .array (left :: right :: rest) ending => do
      let left ← first left
      let right ← second right
      proceed (leftOver? rest ending) (left, right)
  | node => mismatch node "a tuple of size 2"

def variantNamed (variants : OrderedMap α) (name : String) : Except ReadError α :=
  match variants.get? name with
  | some variant => .ok variant
  | none => shapeFault (.unknownVariant name variants.keys)

/-- The fault of an object without members where the name of a variant is expected. -/
def noVariantName (ending : ObjectEnd) : Except ReadError α :=
  syntaxFault (ending.error?.getD .expectedValue)

/-- One of several named variants: its name, or an object whose only member has this name and the
value null. -/
def variant (variants : OrderedMap α) : Decoder α
  | .string name => variantNamed variants name
  | .object [] ending => noVariantName ending
  | .object ((name, content) :: rest) ending => do
      let variant ← variantNamed variants name
      match content with
      | .null =>
          if !rest.isEmpty then syntaxFault .expectedValue
          else
            match ending with
            | .closed => .ok variant
            | .endOfText => syntaxFault .endInObject
            | _ => syntaxFault .expectedValue
      | content => mismatch content "unit"
  | .broken error => syntaxFault error
  | _ => syntaxFault .expectedValue

/-- Reads the members of a record into `state`: a known field at most once, any other member in
the way that `other` says. -/
def fields (known : List String) (field other : String → Node → β → Except ReadError β) :
    (seen : List String) → (state : β) → List (String × Node) → Except ReadError β
  | _, state, [] => .ok state
  | seen, state, (name, node) :: rest =>
      if name ∈ known then
        if name ∈ seen then shapeFault (.duplicateField name)
        else do
          let state ← field name node state
          fields known field other (name :: seen) state rest
      else do
        let state ← other name node state
        fields known field other seen state rest

/-- Reads the fields of a record in the order of their declaration. -/
def fieldsInOrder (field : String → Node → β → Except ReadError β) (ending : ArrayEnd) :
    (names : List String) → (state : β) → List Node → Except ReadError β
  | [], state, rest => proceed (leftOver? rest ending) state
  | _ :: _, state, [] => proceed ending.error? state
  | name :: names, state, node :: rest => do
      let state ← field name node state
      fieldsInOrder field ending names state rest

/-- The fault of a member that is no field of a record. -/
def unknownField (known : List String) (name : String) (_ : Node) (_ : β) : Except ReadError β :=
  shapeFault (.unknownField name known)

/-- A record with fields that are read one by one into a state. At its end the state gives the
record or the name of the first field that is missing. -/
def record (type : String) (known : List String) (start : β)
    (field : String → Node → β → Except ReadError β) (finish : β → Except String α) : Decoder α
  | .object members ending => do
      let state ← fields known field (unknownField known) [] start members
      let state ← proceed ending.error? state
      match finish state with
      | .ok data => .ok data
      | .error missing => shapeFault (.missingField missing)
  | .array items ending => do
      let state ← fieldsInOrder field ending known start items
      match finish state with
      | .ok data => .ok data
      | .error missing =>
          shapeFault (.invalidLength (known.idxOf missing)
            ("struct " ++ type ++ " with " ++ toString known.length ++ " elements"))
  | node => mismatch node ("struct " ++ type)

/-- A field that a record cannot do without. -/
def required (name : String) (data? : Option α) : Except String α :=
  match data? with
  | some data => .ok data
  | none => .error name

end Decoder

end UsbDescriptors.Json
