import UsbDescriptors.Proofs.Json.Grammar
import UsbDescriptors.Proofs.Json.Lists
import UsbDescriptors.Proofs.Json.Names
import UsbDescriptors.Proofs.Outcomes

/-!
# Texts that are read are in the grammar

Where a reader goes on behind something, the characters up to there spell what it has read, so a
text that is read as a value spells this value with blanks around it. The reader tells faults of
different kinds apart and gives as much of a broken text as it can; of all that only the absence of
a rest counts here.

There is one lemma for each reader of scalars. Arrays and objects share the shape of their lists,
and the induction is on the budget of the reader, which says nothing about the text.
-/

namespace UsbDescriptors.Json

variable {chars rest : List Char}

theorem exists_blanks (chars : List Char) :
    ∃ gap, Blanks gap ∧ chars = gap ++ skipBlanks chars := by
  refine ⟨chars.takeWhile isBlank, ?_, List.takeWhile_append_dropWhile.symm⟩
  intro c mem
  exact List.all_eq_true.mp List.all_takeWhile c mem

theorem append_of_readWord {node read : Node} {word : List Char}
    (went : readWord node word chars = (read, some rest)) : read = node ∧ chars = word ++ rest := by
  induction word generalizing chars with
  | nil =>
      cases went
      exact ⟨rfl, rfl⟩
  | cons expected word ih =>
      cases chars with
      | nil => cases went
      | cons c more =>
          rw [readWord] at went
          split at went
          next same =>
            obtain ⟨rfl, rfl⟩ := ih went
            exact ⟨rfl, by rw [same, List.cons_append]⟩
          next => cases went

/-! ## Numbers -/

theorem digits_of_readDigits {digits : List Char} (read : readDigits chars = .ok (digits, rest)) :
    Digits digits ∧ chars = digits ++ rest := by
  have whole : chars.takeWhile Char.isDigit ++ chars.dropWhile Char.isDigit = chars :=
    List.takeWhile_append_dropWhile
  have all : ∀ c ∈ chars.takeWhile Char.isDigit, c.isDigit = true :=
    List.all_eq_true.mp List.all_takeWhile
  rw [readDigits] at read
  split at read
  next => cases read
  next => cases read
  next some _ =>
    cases read
    exact ⟨⟨some, all⟩, whole.symm⟩

theorem wholeDigits_of_readWhole {digits : List Char}
    (read : readWhole chars = .ok (digits, rest)) :
    WholeDigits digits ∧ chars = digits ++ rest := by
  rw [readWhole] at read
  split at read
  next => cases read
  next single =>
    rcases digits_of_readDigits read with ⟨areDigits, text⟩
    refine ⟨⟨areDigits, fun zero => ?_⟩, text⟩
    cases digits with
    | nil => cases zero
    | cons first more =>
        cases more with
        | nil => simpa using zero
        | cons second more =>
            cases zero
            exact absurd read (single _ _ _)

theorem spellsFraction_of_readFraction {fraction? : Option (List Char)}
    (read : readFraction chars = .ok (fraction?, rest)) :
    ∃ own, SpellsFraction fraction? own ∧ chars = own ++ rest := by
  unfold readFraction at read
  split at read
  next more =>
    split at read
    next => cases read
    next digits behind found =>
      cases read
      rcases digits_of_readDigits found with ⟨areDigits, rfl⟩
      exact ⟨_, .point areDigits, rfl⟩
  next =>
    cases read
    exact ⟨[], .absent, rfl⟩

theorem spellsExponent_of_readExponent {letter : Char} {exponent : Int}
    (isLetter : letter = 'e' ∨ letter = 'E') (read : readExponent chars = .ok (exponent, rest)) :
    ∃ own, SpellsExponent (some exponent) (letter :: own) ∧ chars = own ++ rest := by
  unfold readExponent at read
  split at read
  next negative digits signed =>
    split at read
    next => cases read
    next digits behind found =>
      rcases digits_of_readDigits found with ⟨areDigits, rfl⟩
      cases read
      split at signed <;> cases signed
      · exact ⟨_, .plus isLetter areDigits, rfl⟩
      · exact ⟨_, .minus isLetter areDigits, rfl⟩
      · exact ⟨_, .unsigned isLetter areDigits, rfl⟩

theorem spellsExponent_of_readOptionalExponent {exponent? : Option Int}
    (read : readOptionalExponent chars = .ok (exponent?, rest)) :
    ∃ own, SpellsExponent exponent? own ∧ chars = own ++ rest := by
  unfold readOptionalExponent at read
  split at read
  next c more =>
    split at read
    next isLetter =>
      split at read
      next => cases read
      next exponent behind found =>
        cases read
        rcases spellsExponent_of_readExponent isLetter found with ⟨own, spells, rfl⟩
        exact ⟨_, spells, rfl⟩
    next =>
      cases read
      exact ⟨[], .absent, rfl⟩
  next =>
    cases read
    exact ⟨[], .absent, rfl⟩

theorem spellsNumber_of_readNumber {node : Node} (read : readNumber chars = (node, some rest)) :
    ∃ number own, node = .number number ∧ SpellsNumber number own ∧ chars = own ++ rest := by
  rw [readNumber] at read
  split at read
  next => cases read
  next literal behind found =>
    split at read
    next number denoted =>
      cases read
      unfold readLiteral at found
      split at found
      next negative unsigned signed =>
        simp only [outcome_bind_iff, Prod.exists, outcome_pure_iff, Prod.mk.injEq] at found
        obtain ⟨whole, afterWhole, readsWhole, fraction?, afterFraction, readsFraction, exponent?,
          afterExponent, readsExponent, rfl, rfl⟩ := found
        rcases wholeDigits_of_readWhole readsWhole with ⟨areDigits, rfl⟩
        rcases spellsFraction_of_readFraction readsFraction with ⟨fraction, spellsFraction, rfl⟩
        rcases spellsExponent_of_readOptionalExponent readsExponent with
          ⟨exponent, spellsExponent, rfl⟩
        split at signed <;> cases signed
        · refine ⟨number, _, rfl,
            .literal .minus areDigits spellsFraction spellsExponent denoted, ?_⟩
          simp only [List.append_assoc, List.cons_append, List.nil_append]
        · refine ⟨number, _, rfl,
            .literal .absent areDigits spellsFraction spellsExponent denoted, ?_⟩
          simp only [List.append_assoc, List.nil_append]
    next => cases read

/-! ## Strings -/

theorem spellsUnit_of_readHexEscape {unit : Nat}
    (read : readHexEscape chars = .ok (unit, rest)) :
    ∃ own, SpellsUnit unit own ∧ chars = own ++ rest := by
  unfold readHexEscape at read
  split at read
  next first second third fourth behind =>
    split at read
    next a b c d isFirst isSecond isThird isFourth =>
      cases read
      exact ⟨_, .digits isFirst isSecond isThird isFourth, rfl⟩
    next => cases read
  next => cases read

theorem spellsChar_of_readTrailingSurrogate {leading : Nat} {first : List Char} {c : Char}
    (spellsFirst : SpellsUnit leading first) (isLeading : isLeadingSurrogate leading = true)
    (read : readTrailingSurrogate leading chars = .ok (c, rest)) :
    ∃ own, SpellsChar c ('\\' :: 'u' :: (first ++ own)) ∧ chars = own ++ rest := by
  unfold readTrailingSurrogate at read
  split at read
  next => cases read
  next => cases read
  next more =>
    split at read
    next => cases read
    next trailing behind found =>
      rcases spellsUnit_of_readHexEscape found with ⟨second, spellsSecond, rfl⟩
      split at read
      next isTrailing =>
        simp only [Except.ok.injEq, Prod.mk.injEq] at read
        obtain ⟨rfl, rfl⟩ := read
        exact ⟨_, .pair spellsFirst isLeading spellsSecond isTrailing, rfl⟩
      next => cases read
  next => cases read

theorem spellsChar_of_readUnicodeEscape {c : Char}
    (read : readUnicodeEscape chars = .ok (c, rest)) :
    ∃ own, SpellsChar c ('\\' :: 'u' :: own) ∧ chars = own ++ rest := by
  unfold readUnicodeEscape at read
  split at read
  next => cases read
  next unit behind found =>
    rcases spellsUnit_of_readHexEscape found with ⟨digits, spellsUnit, rfl⟩
    split at read
    next => cases read
    next notTrailing =>
      split at read
      next isLeading =>
        rcases spellsChar_of_readTrailingSurrogate spellsUnit isLeading read with ⟨own, spells, rfl⟩
        exact ⟨_, spells, (List.append_assoc ..).symm⟩
      next notLeading =>
        cases read
        exact ⟨_, .unit spellsUnit (Bool.eq_false_iff.mpr notLeading)
          (Bool.eq_false_iff.mpr notTrailing), rfl⟩

theorem spellsChar_of_readEscape {c : Char} (read : readEscape chars = .ok (c, rest)) :
    ∃ own, SpellsChar c ('\\' :: own) ∧ chars = own ++ rest := by
  have short {letter meant : Char} {behind : List Char} (isShort : (letter, meant) ∈ shortEscapes)
      (read : (.ok (meant, behind) : Except SyntaxError _) = .ok (c, rest)) :
      ∃ own, SpellsChar c ('\\' :: own) ∧ letter :: behind = own ++ rest := by
    cases read
    exact ⟨[letter], .short isShort, rfl⟩
  unfold readEscape at read
  -- The ninth letter starts a code unit, and the others stand for a character each.
  split at read
  case h_10 more =>
    rcases spellsChar_of_readUnicodeEscape read with ⟨own, spells, rfl⟩
    exact ⟨_, spells, rfl⟩
  case h_1 => cases read
  case h_11 => cases read
  all_goals exact short (by decide) read

/-- A string that is read is spelled by the characters up to its closing quote. -/
theorem spellsChars_of_readString {budget : Nat} {text : List Char}
    (read : readString budget chars = .ok (text, rest)) :
    ∃ inside, SpellsChars text inside ∧ chars = inside ++ '"' :: rest := by
  induction budget generalizing chars text with
  | zero => cases read
  | succ budget ih =>
      cases chars with
      | nil => cases read
      | cons c behind =>
          rw [readString] at read
          split at read
          next quote =>
            cases read
            exact ⟨[], .nil, by rw [quote, List.nil_append]⟩
          next noQuote =>
            split at read
            next backslash =>
              split at read
              next => cases read
              next escaped afterEscape readsEscape =>
                split at read
                next => cases read
                next more afterMore readsMore =>
                  cases read
                  rcases spellsChar_of_readEscape readsEscape with ⟨own, spells, rfl⟩
                  rcases ih readsMore with ⟨inside, spellsMore, rfl⟩
                  refine ⟨_, .cons spells spellsMore, ?_⟩
                  rw [backslash, List.cons_append, List.cons_append, List.append_assoc]
            next noBackslash =>
              split at read
              next => cases read
              next shown =>
                split at read
                next => cases read
                next more afterMore readsMore =>
                  cases read
                  rcases ih readsMore with ⟨inside, spellsMore, rfl⟩
                  have plain := SpellsChar.plain noQuote noBackslash (Nat.le_of_not_lt shown)
                  exact ⟨_, .cons plain spellsMore, rfl⟩

/-! ## Lists -/

section Lists

variable {α β Ending : Type} {values : List β → Except SyntaxError (List α)}
  {closing : Closing Ending} {spells : α → List Char → Prop} {gap front : List Char}

/-- What a reader of a list may give: if there is a rest then the list is closed, what was read
denotes values, and these are spelled in a certain shape up to the closing character. -/
def ListRead (values : List β → Except SyntaxError (List α)) (closing : Closing Ending)
    (shape : List α → List Char → Prop) (chars : List Char)
    (read : List β × Ending × Option (List Char)) : Prop :=
  ∀ nodes ending rest, read = (nodes, ending, some rest) → ending = closing.closed ∧
    ∃ items inside, values nodes = .ok items ∧ shape items inside ∧
      chars = inside ++ closing.char :: rest

theorem ListRead.of_none {shape : List α → List Char → Prop} {nodes : List β} {ending : Ending} :
    ListRead values closing shape chars (nodes, ending, none) := by
  intro nodes ending rest same
  cases same

theorem ListRead.empty {shape : List α → List Char → Prop} (nothing : values [] = .ok [])
    (blank : shape [] gap) :
    ListRead values closing shape (gap ++ closing.char :: rest)
      ([], closing.closed, some rest) := by
  intro nodes ending behind same
  cases same
  exact ⟨rfl, [], gap, nothing, blank, rfl⟩

theorem Separated.of_blanks {items : List α} {own : List Char} (blanks : Blanks gap)
    (separated : Separated spells items own) : Separated spells items (gap ++ own) := by
  cases separated with
  | first front spells continued =>
      rw [← List.append_assoc]
      exact .first (blanks.append front) spells continued

section Steps

variable {read : List β × Ending × Option (List Char)}

theorem ListRead.listed (blanks : Blanks gap)
    (separated : ListRead values closing (Separated spells) chars read) :
    ListRead values closing (Listed spells) (gap ++ chars) read := by
  intro nodes ending rest same
  obtain ⟨closes, items, inside, denotes, spelled, rfl⟩ := separated nodes ending rest same
  exact ⟨closes, items, gap ++ inside, denotes, .some (spelled.of_blanks blanks),
    (List.append_assoc ..).symm⟩

theorem ListRead.continued (blanks : Blanks gap) (frontBlanks : Blanks front)
    (separated : ListRead values closing (Separated spells) chars read) :
    ListRead values closing (Continued spells) (gap ++ ',' :: (front ++ chars)) read := by
  intro nodes ending rest same
  obtain ⟨closes, items, inside, denotes, spelled, rfl⟩ := separated nodes ending rest same
  refine ⟨closes, items, gap ++ ',' :: (front ++ inside), denotes,
    .comma blanks (spelled.of_blanks frontBlanks), ?_⟩
  simp only [List.append_assoc, List.cons_append]

theorem ListRead.separated {node : β} {item : α} {own : List Char}
    (others : ListRead values closing (Continued spells) chars read)
    (blanks : Blanks front) (spelled : spells item own)
    (denotes : ∀ nodes items, values nodes = .ok items →
      values (node :: nodes) = .ok (item :: items)) :
    ListRead values closing (Separated spells) (front ++ (own ++ chars))
      (node :: read.1, read.2) := by
  rcases read with ⟨nodes, ending, rest?⟩
  -- Nothing is behind the whole list unless something is behind its rest.
  intro allNodes ending rest same
  cases same
  obtain ⟨closes, items, inside, denotesOthers, continued, rfl⟩ := others nodes ending rest rfl
  refine ⟨closes, item :: items, front ++ (own ++ inside), denotes nodes items denotesOthers,
    .first blanks spelled continued, ?_⟩
  simp only [List.append_assoc]

end Steps

section Loops

variable {one : List Char → List β × Ending × Option (List Char)}

theorem ListRead.readList_first (nothing : values [] = .ok [])
    (separated : ∀ chars, ListRead values closing (Separated spells) chars (one chars)) :
    ListRead values closing (Listed spells) chars (closing.readList one true chars) := by
  obtain ⟨gap, blanks, text⟩ := exists_blanks chars
  rw [Closing.readList]
  split
  next => exact .of_none
  next c rest found =>
    rw [found] at text
    subst text
    split
    next closes =>
      subst closes
      exact .empty nothing (.none blanks)
    next =>
      rw [if_pos rfl]
      exact (separated (c :: rest)).listed blanks

theorem ListRead.readList_more (nothing : values [] = .ok [])
    (separated : ∀ chars, ListRead values closing (Separated spells) chars (one chars)) :
    ListRead values closing (Continued spells) chars (closing.readList one false chars) := by
  obtain ⟨gap, blanks, text⟩ := exists_blanks chars
  rw [Closing.readList]
  split
  next => exact .of_none
  next c rest found =>
    rw [found] at text
    subst text
    split
    next closes =>
      subst closes
      exact .empty nothing (.last blanks)
    next =>
      -- A comma has to stand here, and a bracket behind it would be a fault.
      rw [if_neg Bool.false_ne_true]
      split
      next comma =>
        subst comma
        obtain ⟨front, frontBlanks, text⟩ := exists_blanks rest
        split
        next => exact .of_none
        next c more found =>
          rw [found] at text
          subst text
          split
          next => exact .of_none
          next => exact (separated (c :: more)).continued blanks frontBlanks
      next => exact .of_none

end Loops

end Lists

/-! ## Values -/

theorem Node.values_cons {node : Node} {value : Value} {nodes : List Node} {items : List Value}
    (item : node.value = .ok value) (others : values nodes = .ok items) :
    values (node :: nodes) = .ok (value :: items) := by
  simp only [values, item, others]

theorem Node.memberValues_cons {name : String} {node : Node} {value : Value}
    {nodes : List (String × Node)} {members : List (String × Value)}
    (content : node.value = .ok value) (others : memberValues nodes = .ok members) :
    memberValues ((name, node) :: nodes) = .ok ((name, value) :: members) := by
  simp only [memberValues, content, others]

/-- What a reader of a value may give: if there is a rest then the node denotes a value, and this
value is spelled in front of the rest. -/
def ValueRead (chars : List Char) (read : Node × Option (List Char)) : Prop :=
  ∀ node rest, read = (node, some rest) → ∃ value front own, node.value = .ok value ∧
    Blanks front ∧ SpellsValue value own ∧ chars = front ++ (own ++ rest)

abbrev ItemsRead :=
  ListRead Node.values brackets

abbrev MembersRead :=
  ListRead Node.memberValues braces

/-- The readers of a budget go on only behind what is in the grammar. -/
structure Recognizes (budget : Nat) : Prop where
  value : ∀ depth chars, ValueRead chars (readValue depth budget chars)
  items : ∀ depth chars,
    ItemsRead (Listed SpellsValue) chars (readItems depth budget true chars)
  moreItems : ∀ depth chars,
    ItemsRead (Continued SpellsValue) chars (readItems depth budget false chars)
  item : ∀ depth chars, ItemsRead (Separated SpellsValue) chars (readItem depth budget chars)
  members : ∀ depth chars,
    MembersRead (Listed SpellsMember) chars (readMembers depth budget true chars)
  moreMembers : ∀ depth chars,
    MembersRead (Continued SpellsMember) chars (readMembers depth budget false chars)
  member : ∀ depth chars, MembersRead (Separated SpellsMember) chars (readMember depth budget chars)

theorem ValueRead.of_none {node : Node} : ValueRead chars (node, none) := by
  intro node rest same
  cases same

theorem ValueRead.of_blanks {read : Node × Option (List Char)} {gap : List Char}
    (blanks : Blanks gap) (spelled : ValueRead chars read) : ValueRead (gap ++ chars) read := by
  intro node rest same
  obtain ⟨value, front, own, denotes, frontBlanks, spells, rfl⟩ := spelled node rest same
  exact ⟨value, gap ++ front, own, denotes, blanks.append frontBlanks, spells,
    (List.append_assoc ..).symm⟩

theorem ValueRead.of_spells {node : Node} {value : Value} {own : List Char}
    (denotes : node.value = .ok value) (spells : SpellsValue value own) :
    ValueRead (own ++ rest) (node, some rest) := by
  intro read behind same
  cases same
  exact ⟨value, [], own, denotes, List.forall_mem_nil _, spells, rfl⟩

theorem ValueRead.word {node : Node} {value : Value} {first : Char} {word : List Char}
    (spells : SpellsValue value (first :: word)) (denotes : node.value = .ok value) :
    ValueRead (first :: chars) (readWord node word chars) := by
  intro read rest went
  rcases append_of_readWord went with ⟨rfl, rfl⟩
  exact ⟨value, [], first :: word, denotes, List.forall_mem_nil _, spells, rfl⟩

theorem ValueRead.number : ValueRead chars (readNumber chars) := by
  intro node rest read
  rcases spellsNumber_of_readNumber read with ⟨number, own, rfl, spells, text⟩
  exact ⟨.number number, [], own, rfl, List.forall_mem_nil _, .number spells, text⟩

namespace Recognizes

variable {budget depth : Nat}

theorem zero : Recognizes 0 where
  value _ _ := .of_none
  items _ _ := .of_none
  moreItems _ _ := .of_none
  item _ _ := .of_none
  members _ _ := .of_none
  moreMembers _ _ := .of_none
  member _ _ := .of_none

theorem readItem (recognizes : Recognizes budget) :
    ItemsRead (Separated SpellsValue) chars (Json.readItem depth (budget + 1) chars) := by
  rw [Json.readItem]
  split
  next => exact .of_none
  next node behind found =>
    obtain ⟨item, front, own, denotesItem, blanks, spells, rfl⟩ :=
      recognizes.value depth chars node behind found
    exact (recognizes.moreItems depth behind).separated blanks spells
      (fun _ _ => Node.values_cons denotesItem)

theorem readMember (recognizes : Recognizes budget) :
    MembersRead (Separated SpellsMember) chars (Json.readMember depth (budget + 1) chars) := by
  unfold Json.readMember
  split
  next afterQuote =>
    split
    next => exact .of_none
    next name afterName readsName =>
      rcases spellsChars_of_readString readsName with ⟨inside, spellsName, rfl⟩
      obtain ⟨gap, gapBlanks, text⟩ := exists_blanks afterName
      split
      next afterColon found =>
        rw [found] at text
        subst text
        split
        next => exact .of_none
        next node behind found =>
          obtain ⟨content, front, own, denotesContent, frontBlanks, spells, rfl⟩ :=
            recognizes.value depth afterColon node behind found
          have member := @SpellsMember.named _ content _ gap front own (.quoted spellsName)
            gapBlanks frontBlanks spells
          have text := (recognizes.moreMembers depth behind).separated (List.forall_mem_nil _)
            member (fun _ _ => Node.memberValues_cons denotesContent)
          simpa only [List.append_assoc, List.cons_append, List.nil_append] using text
      next => exact .of_none
      next => exact .of_none
  next => exact .of_none

theorem readArray (recognizes : Recognizes budget) {items : List Node} {ending : ArrayEnd}
    {rest? : Option (List Char)}
    (read : readItems depth budget true chars = (items, ending, rest?)) :
    ValueRead ('[' :: chars) (.array items ending, rest?) := by
  intro node rest same
  cases same
  have listRead := recognizes.items depth chars
  rw [read] at listRead
  obtain ⟨closes, values, inside, denotes, listed, rfl⟩ := listRead _ _ rest rfl
  refine ⟨.array values, [], _, ?_, List.forall_mem_nil _, .array listed, ?_⟩
  · simp only [Node.value, denotes, closes, brackets_closed, ArrayEnd.error?]
  · simp only [brackets_char, List.cons_append, List.nil_append, List.append_assoc]

theorem readObject (recognizes : Recognizes budget) {members : List (String × Node)}
    {ending : ObjectEnd} {rest? : Option (List Char)}
    (read : readMembers depth budget true chars = (members, ending, rest?)) :
    ValueRead ('\x7b' :: chars) (.object members ending, rest?) := by
  intro node rest same
  cases same
  have listRead := recognizes.members depth chars
  rw [read] at listRead
  obtain ⟨closes, values, inside, denotes, listed, rfl⟩ := listRead _ _ rest rfl
  refine ⟨.object (OrderedMap.ofList values), [], _, ?_, List.forall_mem_nil _, .object listed, ?_⟩
  · simp only [Node.value, denotes, closes, braces_closed, ObjectEnd.error?]
  · simp only [braces_char, List.cons_append, List.nil_append, List.append_assoc]

theorem readValue (recognizes : Recognizes budget) :
    ValueRead chars (Json.readValue depth (budget + 1) chars) := by
  obtain ⟨gap, blanks, text⟩ := exists_blanks chars
  rw [Json.readValue]
  split
  next => exact .of_none
  next c behind found =>
    rw [found] at text
    subst text
    refine .of_blanks blanks ?_
    split
    next quote =>
      subst quote
      split
      next => exact .of_none
      next spelled rest read =>
        rcases spellsChars_of_readString read with ⟨inside, spells, rfl⟩
        rw [List.append_cons, ← List.cons_append]
        exact .of_spells rfl (.string (.quoted spells))
    split
    next bracket =>
      subst bracket
      cases depth with
      | zero => exact .of_none
      | succ depth => exact recognizes.readArray rfl
    split
    next brace =>
      subst brace
      cases depth with
      | zero => exact .of_none
      | succ depth => exact recognizes.readObject rfl
    split
    next letter => exact letter ▸ .word .null rfl
    split
    next letter => exact letter ▸ .word .true rfl
    split
    next letter => exact letter ▸ .word .false rfl
    split
    next => exact .number
    next => exact .of_none

theorem succ (recognizes : Recognizes budget) : Recognizes (budget + 1) where
  value _ _ := recognizes.readValue
  items depth _ := readItems_succ ▸ .readList_first rfl (recognizes.item depth)
  moreItems depth _ := readItems_succ ▸ .readList_more rfl (recognizes.item depth)
  item _ _ := recognizes.readItem
  members depth _ := readMembers_succ ▸ .readList_first rfl (recognizes.member depth)
  moreMembers depth _ := readMembers_succ ▸ .readList_more rfl (recognizes.member depth)
  member _ _ := recognizes.readMember

end Recognizes

theorem recognizes (budget : Nat) : Recognizes budget := by
  induction budget with
  | zero => exact .zero
  | succ budget ih => exact ih.succ

/-- A text that is read as a value is this value in the grammar, with nothing but blanks around it.
-/
theorem Value.spelledBy_of_read {text : String} {value : Value}
    (found : Value.read text = .ok value) : value.SpelledBy text := by
  obtain ⟨node, rest, read, denotes, ends⟩ := exists_readText_of_read found
  obtain ⟨spelled, front, own, denotesSpelled, blanks, spells, text⟩ :=
    (recognizes _).value depthLimit _ node rest read
  obtain ⟨behind, behindBlanks, allBlank⟩ := exists_blanks rest
  rw [denotes] at denotesSpelled
  cases denotesSpelled
  rw [ends, List.append_nil] at allBlank
  exact ⟨front, own, behind, allBlank ▸ text, blanks, behindBlanks, spells⟩

end UsbDescriptors.Json
