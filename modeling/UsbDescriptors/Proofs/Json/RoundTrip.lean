import UsbDescriptors.Json.Printer
import UsbDescriptors.Proofs.Json.Integers
import UsbDescriptors.Proofs.Json.Lists
import UsbDescriptors.Proofs.Json.Names

/-!
# Values read back

The compact text of a value is read as this value, whatever strings are in it, provided its numbers
are integers of 64 bits, its objects have distinct names, and no more arrays and objects are open at
a time than a reader allows. A double is left out: its shortest digits are not always read as the
same double.

The statement is about a value with something behind it, as it stands inside of an array or an
object. A list can be read if everything in it can, which is one induction for items and members
alike, and the induction over the value puts these lists together.
-/

namespace UsbDescriptors.Json

/-! ## Strings -/

section Strings

variable {budget : Nat} {behind : List Char}

/-- A control character without an escape of its own is spelled by its code point. -/
theorem readUnicodeEscape_paddedHexDigits {c : Char} (control : c.toNat < 0x20) :
    readUnicodeEscape (paddedHexDigits 4 c.toNat ++ behind) = .ok (c, behind) := by
  have spelled : ∀ code < 0x20, paddedHexDigits 4 code =
      ['0', '0', Nat.digitChar (code / 16), Nat.digitChar (code % 16)] := by decide
  have digit : ∀ value < 16, hexDigit? (Nat.digitChar value) = some value := by decide
  have zero : hexDigit? '0' = some 0 := by decide
  have first := digit (c.toNat / 16) (by omega)
  have second := digit (c.toNat % 16) (by omega)
  have code : ((0 * 16 + 0) * 16 + c.toNat / 16) * 16 + c.toNat % 16 = c.toNat := by omega
  have notTrailing : isTrailingSurrogate c.toNat = false := by
    simp only [isTrailingSurrogate, Bool.and_eq_false_iff, decide_eq_false_iff_not]
    omega
  have notLeading : isLeadingSurrogate c.toNat = false := by
    simp only [isLeadingSurrogate, Bool.and_eq_false_iff, decide_eq_false_iff_not]
    omega
  rw [spelled c.toNat control]
  simp only [readUnicodeEscape, List.cons_append, List.nil_append, readHexEscape, zero, first,
    second, code, notTrailing, notLeading, Bool.false_eq_true, if_false, Char.ofNat_toNat]

theorem readString_escaped {escape : List Char} {c : Char}
    (read : readEscape (escape ++ behind) = .ok (c, behind)) :
    readString (budget + 1) ('\\' :: (escape ++ behind)) =
      (readString budget behind).map fun more => (c :: more.1, more.2) := by
  have notQuote : ¬ '\\' = '"' := by decide
  rw [readString, if_neg notQuote, if_pos rfl, read]
  dsimp only
  cases readString budget behind <;> rfl

/-- However a character is written, reading takes one unit of the budget for it. -/
theorem readString_escapedChar (c : Char) :
    readString (budget + 1) (escapedChar c ++ behind) =
      (readString budget behind).map fun more => (c :: more.1, more.2) := by
  unfold escapedChar
  split
  next marked =>
    rcases marked with rfl | rfl
    · exact @readString_escaped budget behind ['"'] _ rfl
    · exact @readString_escaped budget behind ['\\'] _ rfl
  next unmarked =>
    rw [not_or] at unmarked
    split
    next backspace => exact backspace ▸ @readString_escaped budget behind ['b'] _ rfl
    split
    next formFeed => exact formFeed ▸ @readString_escaped budget behind ['f'] _ rfl
    split
    next lineFeed => exact lineFeed ▸ @readString_escaped budget behind ['n'] _ rfl
    split
    next carriageReturn => exact carriageReturn ▸ @readString_escaped budget behind ['r'] _ rfl
    split
    next tab => exact tab ▸ @readString_escaped budget behind ['t'] _ rfl
    split
    next control =>
      exact @readString_escaped budget behind ('u' :: paddedHexDigits 4 c.toNat) c
        (readUnicodeEscape_paddedHexDigits control)
    next shown =>
      rw [List.singleton_append, readString, if_neg unmarked.1, if_neg unmarked.2, if_neg shown]
      cases readString budget behind <;> rfl

theorem readString_escapedChars {chars : List Char} (enough : chars.length < budget) :
    readString budget (chars.flatMap escapedChar ++ '"' :: behind) = .ok (chars, behind) := by
  induction chars generalizing budget with
  | nil =>
      cases budget with
      | zero => cases enough
      | succ budget => rw [List.flatMap_nil, List.nil_append, readString, if_pos rfl]
  | cons c more ih =>
      cases budget with
      | zero => cases enough
      | succ budget =>
          rw [List.flatMap_cons, List.append_assoc, readString_escapedChar,
            ih (Nat.lt_of_succ_lt_succ enough)]
          rfl

theorem length_le_length_escaped (chars : List Char) :
    chars.length ≤ (chars.flatMap escapedChar).length := by
  induction chars with
  | nil => exact Nat.le_refl _
  | cons c more ih =>
      have nonempty : 0 < (escapedChar c).length := by
        unfold escapedChar
        repeat' split
        all_goals simp
      rw [List.flatMap_cons, List.length_append, List.length_cons]
      omega

end Strings

/-! ## Lists of items and members -/

section Lists

variable {α β Ending : Type} {closing : Closing Ending} {spell : α → List Char} {node : α → β}
  {budget : Nat} {behind : List Char}

/-- Further things of a list, each behind a comma, and the end of the list. -/
def moreText (closing : Closing Ending) (spell : α → List Char) (behind : List Char) :
    List α → List Char
  | [] => closing.char :: behind
  | item :: rest => ',' :: (spell item ++ moreText closing spell behind rest)

/-- All things of a list with commas between them, and the end of the list. -/
def listText (closing : Closing Ending) (spell : α → List Char) (behind : List Char) :
    List α → List Char
  | [] => closing.char :: behind
  | item :: rest => spell item ++ moreText closing spell behind rest

theorem delimits_moreText (items : List α) : Delimits (moreText closing spell behind items) := by
  cases items with
  | nil =>
      rcases closing.isClosing with bracket | brace
      · simp [moreText, Delimits, bracket]
      · simp [moreText, Delimits, brace]
  | cons item rest => simp [moreText, Delimits]

/-- The two readers of a list that call one another, each with a budget. -/
structure ListReaders (closing : Closing Ending) (β : Type) where
  one : Nat → List Char → List β × Ending × Option (List Char)
  many : Nat → Bool → List Char → List β × Ending × Option (List Char)
  loop : ∀ budget first chars,
    many (budget + 1) first chars = closing.readList (one budget) first chars

/-- A thing is read back from its text in front of the rest of its list. -/
structure ListReaders.Reads (readers : ListReaders closing β) (text : List Char) (node : β) :
    Prop where
  starts : ∀ rest, closing.Starts (text ++ rest)
  reads : ∀ {budget rest nodes ending behind?}, Delimits rest → 3 * (text ++ rest).length < budget →
    readers.many budget false rest = (nodes, ending, behind?) →
      readers.one (budget + 1) (text ++ rest) = (node :: nodes, ending, behind?)

namespace ListReaders

variable {readers : ListReaders closing β} {items : List α}

theorem many_moreText (reads : ∀ item ∈ items, readers.Reads (spell item) (node item))
    (enough : 3 * (moreText closing spell behind items).length < budget) :
    readers.many budget false (moreText closing spell behind items) =
      (items.map node, closing.closed, some behind) := by
  induction items generalizing budget with
  | nil =>
      cases budget with
      | zero => cases enough
      | succ budget => rw [moreText, readers.loop, Closing.readList_closed, List.map_nil]
  | cons item rest ih =>
      rw [moreText, List.length_cons] at enough
      -- The comma pays for the two steps to the thing and to the list behind it.
      rcases budget with _ | _ | budget
      · cases enough
      · simp at enough
      · have first := reads item List.mem_cons_self
        have others := @ih budget (fun other mem => reads other (List.mem_cons_of_mem _ mem))
          (by rw [List.length_append] at enough; omega)
        rw [moreText, readers.loop, Closing.readList_comma (first.starts _)]
        exact first.reads (delimits_moreText rest) (by omega) others

theorem many_listText (reads : ∀ item ∈ items, readers.Reads (spell item) (node item))
    (enough : 3 * (listText closing spell behind items).length + 2 < budget) :
    readers.many budget true (listText closing spell behind items) =
      (items.map node, closing.closed, some behind) := by
  rcases budget with _ | _ | budget
  · cases enough
  · simp at enough
  · cases items with
    | nil => rw [listText, readers.loop, Closing.readList_closed, List.map_nil]
    | cons item rest =>
        rw [listText] at enough ⊢
        have first := reads item List.mem_cons_self
        have others := @many_moreText _ _ _ _ spell node budget behind readers rest
          (fun other mem => reads other (List.mem_cons_of_mem _ mem))
          (by rw [List.length_append] at enough; omega)
        rw [readers.loop, Closing.readList_first (first.starts _)]
        exact first.reads (delimits_moreText rest) (by omega) others

end ListReaders

end Lists

section Written

variable {depth : Nat} {behind : List Char}

/-- A value is read back from its compact text, whatever delimits it, inside of at most so many
further arrays and objects. -/
def Value.Reads (depth : Nat) (value : Value) : Prop :=
  ∀ ⦃budget : Nat⦄ ⦃rest : List Char⦄, Delimits rest →
    3 * (value.write ++ rest).length < budget →
      readValue depth budget (value.write ++ rest) = (Node.ofValue value, some rest)

theorem starts_write (value : Value) (behind : List Char) :
    brackets.Starts (value.write ++ behind) := by
  cases value with
  | null => exact ⟨_, _, rfl, by decide, by decide⟩
  | boolean value => cases value <;> exact ⟨_, _, rfl, by decide, by decide⟩
  | string text => exact ⟨_, _, rfl, by decide, by decide⟩
  | array items => exact ⟨_, _, rfl, by decide, by decide⟩
  | object members => exact ⟨_, _, rfl, by decide, by decide⟩
  | number number =>
      rcases List.exists_cons_of_ne_nil number.write_ne_nil with ⟨first, more, written⟩
      have character := number.isNumberChar_write first (by simp [written])
      refine ⟨first, more ++ behind, congrArg (· ++ behind) written, ?_, ?_⟩
      · rw [Bool.eq_false_iff]
        intro blank
        simp only [isBlank, Bool.or_eq_true, decide_eq_true_eq] at blank
        rcases blank with ((rfl | rfl) | rfl) | rfl <;> exact absurd character (by decide)
      · rintro rfl
        exact absurd character (by decide)

/-- The readers of the items of an array. -/
def itemReaders (depth : Nat) : ListReaders brackets Node where
  one := readItem depth
  many := readItems depth
  loop _ _ _ := readItems_succ

/-- The readers of the members of an object. -/
def memberReaders (depth : Nat) : ListReaders braces (String × Node) where
  one := readMember depth
  many := readMembers depth
  loop _ _ _ := readMembers_succ

@[simp]
theorem itemReaders_one : (itemReaders depth).one = readItem depth := rfl

@[simp]
theorem itemReaders_many : (itemReaders depth).many = readItems depth := rfl

@[simp]
theorem memberReaders_one : (memberReaders depth).one = readMember depth := rfl

@[simp]
theorem memberReaders_many : (memberReaders depth).many = readMembers depth := rfl

theorem Value.Reads.item {value : Value} (reads : value.Reads depth) :
    (itemReaders depth).Reads value.write (Node.ofValue value) where
  starts := starts_write value
  reads := by
    intro budget rest nodes ending behind? delimits enough others
    rw [itemReaders_many] at others
    rw [itemReaders_one, readItem, reads delimits enough]
    dsimp only
    rw [others]

/-- A member as it is written. -/
def memberText (member : String × Value) : List Char :=
  writeString member.1 ++ ':' :: member.2.write

theorem memberText_append {member : String × Value} {rest : List Char} :
    memberText member ++ rest = '"' ::
      (member.1.toList.flatMap escapedChar ++ '"' :: ':' :: (member.2.write ++ rest)) := by
  simp [memberText, writeString]

theorem Value.Reads.member {member : String × Value} (reads : member.2.Reads depth) :
    (memberReaders depth).Reads (memberText member) (member.1, Node.ofValue member.2) where
  starts rest := by
    rw [memberText_append]
    exact ⟨_, _, rfl, by decide, by decide⟩
  reads := by
    intro budget rest nodes ending behind? delimits enough others
    rw [memberReaders_many] at others
    rw [memberText_append] at enough ⊢
    have nameShort := length_le_length_escaped member.1.toList
    simp only [List.length_cons, List.length_append] at enough
    have colon (chars : List Char) : skipBlanks (':' :: chars) = ':' :: chars :=
      skipBlanks_cons (by decide)
    have readName := @readString_escapedChars budget (':' :: (member.2.write ++ rest))
      member.1.toList (by omega)
    have readContent := @reads budget _ delimits (by rw [List.length_append]; omega)
    rw [memberReaders_one, readMember]
    simp only [readName, colon, readContent, others, String.ofList_toList]

theorem writeMoreItems_append (items : List Value) :
    writeMoreItems items ++ ']' :: behind = moreText brackets Value.write behind items := by
  induction items with
  | nil => rfl
  | cons item rest ih =>
      rw [writeMoreItems, moreText, ← ih]
      simp

theorem writeItems_append (items : List Value) :
    writeItems items ++ ']' :: behind = listText brackets Value.write behind items := by
  cases items with
  | nil => rfl
  | cons item rest => rw [writeItems, listText, ← writeMoreItems_append, List.append_assoc]

theorem writeMoreMembers_append (members : List (String × Value)) :
    writeMoreMembers members ++ '\x7d' :: behind = moreText braces memberText behind members := by
  induction members with
  | nil => rfl
  | cons member rest ih =>
      rw [writeMoreMembers, moreText, ← ih]
      simp [memberText]

theorem writeMembers_append (members : List (String × Value)) :
    writeMembers members ++ '\x7d' :: behind = listText braces memberText behind members := by
  cases members with
  | nil => rfl
  | cons member rest =>
      rw [writeMembers, listText, ← writeMoreMembers_append]
      simp [memberText]

theorem ofValues_eq_map (items : List Value) : Node.ofValues items = items.map Node.ofValue := by
  induction items with
  | nil => rfl
  | cons item rest ih => rw [Node.ofValues, ih, List.map_cons]

theorem ofMembers_eq_map (members : List (String × Value)) :
    Node.ofMembers members = members.map fun member => (member.1, Node.ofValue member.2) := by
  induction members with
  | nil => rfl
  | cons member rest ih => rw [Node.ofMembers, ih, List.map_cons]

end Written

/-! ## Values -/

namespace Value

mutual

/-- How many arrays and objects are open at a time in a value. -/
def depth : Value → Nat
  | .array items => itemsDepth items + 1
  | .object members => membersDepth members + 1
  | .null | .boolean _ | .number _ | .string _ => 0

def itemsDepth : List Value → Nat
  | [] => 0
  | item :: rest => max item.depth (itemsDepth rest)

def membersDepth : List (String × Value) → Nat
  | [] => 0
  | (_, value) :: rest => max value.depth (membersDepth rest)

end

mutual

/-- All numbers of a value are integers of 64 bits. -/
def HasIntegers : Value → Prop
  | .number literal => literal.IsInteger64
  | .array items => itemsHaveIntegers items
  | .object members => membersHaveIntegers members
  | .null | .boolean _ | .string _ => True

def itemsHaveIntegers : List Value → Prop
  | [] => True
  | item :: rest => item.HasIntegers ∧ itemsHaveIntegers rest

def membersHaveIntegers : List (String × Value) → Prop
  | [] => True
  | (_, value) :: rest => value.HasIntegers ∧ membersHaveIntegers rest

end

section Scalars

variable {depth : Nat}

theorem reads_null : Reads depth .null := by
  intro budget rest _ enough
  cases budget with
  | zero => cases enough
  | succ budget => rfl

theorem reads_boolean (value : Bool) : Reads depth (.boolean value) := by
  intro budget rest _ enough
  cases budget with
  | zero => cases enough
  | succ budget => cases value <;> rfl

theorem reads_string (text : String) : Reads depth (.string text) := by
  intro budget rest _ enough
  have written : (Value.string text).write ++ rest =
      '"' :: (text.toList.flatMap escapedChar ++ '"' :: rest) := by
    simp [write, writeString]
  have short := length_le_length_escaped text.toList
  rw [written] at enough ⊢
  simp only [List.length_cons, List.length_append] at enough
  cases budget with
  | zero => cases enough
  | succ budget =>
      have quote : skipBlanks ('"' :: (text.toList.flatMap escapedChar ++ '"' :: rest)) =
          '"' :: (text.toList.flatMap escapedChar ++ '"' :: rest) :=
        skipBlanks_cons (by decide)
      have read := @readString_escapedChars budget rest text.toList (by omega)
      rw [readValue, quote]
      simp only [if_true, read, String.ofList_toList]
      rfl

theorem reads_number {literal : Number} (exact64 : literal.IsInteger64) :
    Reads depth (.number literal) := by
  intro budget rest delimits enough
  have written : (Value.number literal).write = literal.write := by
    rw [write]
  rw [written] at enough ⊢
  rcases literal.exists_write_of_isInteger64 exact64 with ⟨first, more, spelled, starts⟩
  have read := readNumber_write exact64 delimits
  rw [spelled, List.cons_append] at read enough ⊢
  cases budget with
  | zero => cases enough
  | succ budget =>
      rw [readValue_number starts, read]
      rfl

end Scalars

section Nested

variable {depth : Nat}

theorem reads_array {items : List Value} (reads : ∀ item ∈ items, item.Reads depth) :
    Reads (depth + 1) (.array items) := by
  intro budget rest _ enough
  have written : (Value.array items).write ++ rest =
      '[' :: listText brackets write rest items := by
    simp [write, ← writeItems_append]
  rw [written] at enough ⊢
  rw [List.length_cons] at enough
  cases budget with
  | zero => cases enough
  | succ budget =>
      have quote : ¬ '[' = '"' := by decide
      have read : readItems depth budget true (listText brackets write rest items) =
          (items.map Node.ofValue, .closed, some rest) :=
        @ListReaders.many_listText _ _ _ _ write Node.ofValue budget rest (itemReaders depth) items
          (fun item mem => (reads item mem).item) (by omega)
      rw [readValue, skipBlanks_cons (by decide)]
      simp only [if_neg quote, if_true, read]
      rw [Node.ofValue, ofValues_eq_map]

theorem reads_object {members : List (String × Value)}
    (reads : ∀ member ∈ members, member.2.Reads depth) :
    Reads (depth + 1) (.object members) := by
  intro budget rest _ enough
  have written : (Value.object members).write ++ rest =
      '\x7b' :: listText braces memberText rest members := by
    simp [write, ← writeMembers_append]
  rw [written] at enough ⊢
  rw [List.length_cons] at enough
  cases budget with
  | zero => cases enough
  | succ budget =>
      have others : ¬ '\x7b' = '"' ∧ ¬ '\x7b' = '[' := by decide
      have read : readMembers depth budget true (listText braces memberText rest members) =
          (members.map (fun member => (member.1, Node.ofValue member.2)), .closed, some rest) :=
        @ListReaders.many_listText _ _ _ _ memberText _ budget rest (memberReaders depth) members
          (fun member mem => (reads member mem).member) (by omega)
      rw [readValue, skipBlanks_cons (by decide)]
      simp only [if_neg others.1, if_neg others.2, if_true, read]
      rw [Node.ofValue, ofMembers_eq_map]

end Nested

mutual

theorem reads : ∀ (value : Value) {depth : Nat}, value.depth ≤ depth → value.HasIntegers →
    value.Reads depth
  | .null, _, _, _ => reads_null
  | .boolean value, _, _, _ => reads_boolean value
  | .number literal, _, _, integers => by
      simp only [HasIntegers] at integers
      exact reads_number integers
  | .string text, _, _, _ => reads_string text
  | .array items, 0, bound, _ => by simp [depth] at bound
  | .array items, _ + 1, bound, integers => by
      simp only [depth, Nat.add_le_add_iff_right] at bound
      simp only [HasIntegers] at integers
      exact reads_array (itemsRead items bound integers)
  | .object members, 0, bound, _ => by simp [depth] at bound
  | .object members, _ + 1, bound, integers => by
      simp only [depth, Nat.add_le_add_iff_right] at bound
      simp only [HasIntegers] at integers
      exact reads_object (membersRead members bound integers)

theorem itemsRead : ∀ (items : List Value) {depth : Nat}, itemsDepth items ≤ depth →
    itemsHaveIntegers items → ∀ item ∈ items, item.Reads depth
  | [], _, _, _ => by simp
  | item :: rest, _, bound, integers => by
      simp only [itemsDepth, Nat.max_le] at bound
      simp only [itemsHaveIntegers] at integers
      exact List.forall_mem_cons.mpr
        ⟨reads item bound.1 integers.1, itemsRead rest bound.2 integers.2⟩

theorem membersRead : ∀ (members : List (String × Value)) {depth : Nat},
    membersDepth members ≤ depth → membersHaveIntegers members →
      ∀ member ∈ members, member.2.Reads depth
  | [], _, _, _ => by simp
  | (name, value) :: rest, _, bound, integers => by
      simp only [membersDepth, Nat.max_le] at bound
      simp only [membersHaveIntegers] at integers
      exact List.forall_mem_cons.mpr
        ⟨reads value bound.1 integers.1, membersRead rest bound.2 integers.2⟩

end

/-- The compact text of a value is read as the value. -/
theorem read_compact {value : Value} (shallow : value.depth ≤ depthLimit)
    (integers : value.HasIntegers) (distinct : value.DistinctNames) :
    Value.read value.compact = .ok value := by
  have nothing : Delimits [] := by simp [Delimits]
  have node : readText value.compact = (Node.ofValue value, some []) := by
    have read := @reads value depthLimit shallow integers (3 * value.write.length + 3) [] nothing
      (by simp)
    rw [List.append_nil] at read
    rw [readText, compact, String.toList_ofList, read]
  have blank : (skipBlanks []).isEmpty = true := rfl
  rw [Value.read, Json.read, node]
  simp only [decodeValue_ofValue distinct, blank, if_true]

end Value

end UsbDescriptors.Json
