import UsbDescriptors.Expression
import UsbDescriptors.Proofs.OrderedMaps
import UsbDescriptors.Text.Writing

/-!
# References of expressions

What an expression refers to depends on its text alone: a value that is put in place of a reference
is never searched for references. So an expression has a text in every context that defines what it
refers to, whatever the values are, and in any other context it fails at the first reference that
is not defined.

Long expressions are put together from texts without dollar signs and references in braces. The
references of such an expression can be read off the way it is put together.
-/

namespace UsbDescriptors

/-- The key of a reference. -/
def Piece.key? : Piece → Option String
  | .literal _ => none
  | .reference key => some (String.ofList key)

theorem Piece.key?_reference {key : List Char} :
    (Piece.reference key).key? = some (String.ofList key) := rfl

namespace Context

variable {context : Context}

theorem fill_literal_ok {c : Char} {rest : List Piece} {filled : List Char}
    (run : context.fill (.literal c :: rest) = .ok filled) :
    ∃ others, context.fill rest = .ok others ∧ filled = c :: others := by
  cases later : context.fill rest with
  | error key => simp [fill, later] at run
  | ok others =>
      simp only [fill, later, Except.ok.injEq] at run
      exact ⟨others, rfl, run.symm⟩

theorem fill_reference_ok {key : List Char} {rest : List Piece} {filled : List Char}
    (run : context.fill (.reference key :: rest) = .ok filled) :
    ∃ value others, context.get? (String.ofList key) = some value ∧
      context.fill rest = .ok others ∧ filled = value.toList ++ others := by
  cases found : context.get? (String.ofList key) with
  | none => simp [fill, found] at run
  | some value =>
      cases later : context.fill rest with
      | error key => simp [fill, found, later] at run
      | ok others =>
          simp only [fill, found, later, Except.ok.injEq] at run
          exact ⟨value, others, rfl, rfl, run.symm⟩

/-- Filling stops at the first reference that is not defined. -/
theorem fill_error_iff {pieces : List Piece} {key : String} :
    context.fill pieces = .error key ↔
      (pieces.filterMap Piece.key?).find? (fun key => !context.contains key) = some key := by
  induction pieces with
  | nil => simp [fill]
  | cons piece rest ih =>
      cases piece with
      | literal c =>
          rw [fill, List.filterMap_cons_none rfl, ← ih]
          cases context.fill rest <;> simp
      | reference written =>
          rw [fill, List.filterMap_cons_some Piece.key?_reference, List.find?_cons, OrderedMap.contains]
          cases context.get? (String.ofList written) with
          | none => simp
          | some value =>
              rw [Option.isSome_some, Bool.not_true, ← ih]
              cases context.fill rest <;> simp

theorem fill_ok_iff {pieces : List Piece} : (∃ filled, context.fill pieces = .ok filled) ↔
    ∀ key ∈ pieces.filterMap Piece.key?, key ∈ context.keys := by
  have complete : (pieces.filterMap Piece.key?).find? (fun key => !context.contains key) = none ↔
      ∀ key ∈ pieces.filterMap Piece.key?, key ∈ context.keys := by
    simp only [List.find?_eq_none, Bool.not_eq_true', Bool.not_eq_false,
      OrderedMap.contains_iff_mem_keys]
  rw [← complete, Option.eq_none_iff_forall_ne_some]
  simp only [ne_eq, ← fill_error_iff]
  cases context.fill pieces <;> simp

end Context

namespace Expression

def keysOf (chars : List Char) : List String :=
  (pieces chars).filterMap Piece.key?

/-- The keys that an expression refers to, in their order. -/
def keys (expression : String) : List String :=
  keysOf expression.toList

def DefinedBy (names : List String) (expression : String) : Prop :=
  ∀ key ∈ keys expression, key ∈ names

instance (names : List String) (expression : String) : Decidable (DefinedBy names expression) :=
  inferInstanceAs (Decidable (∀ key ∈ keys expression, key ∈ names))

end Expression

/-- A substitution succeeds if the context defines everything that the expression refers to. -/
theorem substitute_ok_iff {context : Context} {expression : String} :
    (∃ text, substitute context expression = .ok text) ↔
      Expression.DefinedBy context.keys expression := by
  refine Iff.trans ?_ Context.fill_ok_iff
  unfold substitute
  cases context.fill (Expression.pieces expression.toList) <;> simp

namespace Expression

section Scanning

/-- The longest run in front of a text is known by what it is made of and where it ends. -/
theorem takeWhile_append_of_ends {α : Type} {kind : α → Bool} {front behind : List α}
    (inside : ∀ item ∈ front, kind item = true) (ends : ∀ item ∈ behind.head?, kind item = false) :
    (front ++ behind).takeWhile kind = front := by
  have stops : behind.takeWhile kind = [] := by
    cases behind with
    | nil => rfl
    | cons item rest => simp [ends item rfl]
  rw [List.takeWhile_append_of_pos inside, stops, List.append_nil]

theorem dropWhile_append_of_ends {α : Type} {kind : α → Bool} {front behind : List α}
    (inside : ∀ item ∈ front, kind item = true) (ends : ∀ item ∈ behind.head?, kind item = false) :
    (front ++ behind).dropWhile kind = behind := by
  have split := @List.takeWhile_append_dropWhile _ kind (front ++ behind)
  rw [takeWhile_append_of_ends inside ends] at split
  exact List.append_cancel_left split

theorem length_of_bracedKey? {chars key behind : List Char}
    (found : bracedKey? chars = some (key, behind)) : behind.length ≤ chars.length := by
  induction chars generalizing key with
  | nil => cases found
  | cons c rest ih =>
      unfold bracedKey? at found
      split at found
      next =>
        cases found
        exact Nat.le_succ _
      next =>
        rcases Option.map_eq_some_iff.mp found with ⟨⟨more, left⟩, later, same⟩
        cases same
        exact Nat.le_succ_of_le (ih later)

theorem length_dollarPiece {chars : List Char} : (dollarPiece chars).2.length ≤ chars.length := by
  unfold dollarPiece
  split
  · exact Nat.le_refl _
  · split
    · exact Nat.le_succ _
    · split
      · split
        · next key behind found =>
          split
          · exact Nat.le_refl _
          · exact Nat.le_succ_of_le (length_of_bracedKey? found)
        · exact Nat.le_refl _
      · dsimp only
        split
        · exact Nat.le_refl _
        · rw [List.length_drop]
          exact Nat.sub_le _ _

/-- A budget of the length of a text is enough, and more of it changes nothing. -/
theorem scan_of_le {budget : Nat} {chars : List Char} (enough : chars.length ≤ budget) :
    scan budget chars = pieces chars := by
  have step : ∀ {first second : Nat} {chars : List Char}, chars.length ≤ first →
      chars.length ≤ second → scan first chars = scan second chars := by
    intro first
    induction first with
    | zero =>
        intro second chars firstEnough _
        rcases List.length_eq_zero_iff.mp (Nat.le_zero.mp firstEnough) with rfl
        cases second <;> rfl
    | succ first ih =>
        intro second chars firstEnough secondEnough
        cases chars with
        | nil => cases second <;> rfl
        | cons c rest =>
            cases second with
            | zero => cases secondEnough
            | succ second =>
                have firstRest := Nat.le_of_succ_le_succ firstEnough
                have secondRest := Nat.le_of_succ_le_succ secondEnough
                have shorter := @length_dollarPiece rest
                simp only [scan]
                split
                · rw [ih (Nat.le_trans shorter firstRest) (Nat.le_trans shorter secondRest)]
                · rw [ih firstRest secondRest]
  exact step enough (Nat.le_refl _)

theorem pieces_cons_of_ne {c : Char} {rest : List Char} (plain : c ≠ '$') :
    pieces (c :: rest) = .literal c :: pieces rest := by
  simp only [pieces, List.length_cons, scan, if_neg plain]

theorem pieces_cons_dollar {rest : List Char} :
    pieces ('$' :: rest) = (dollarPiece rest).1 :: pieces (dollarPiece rest).2 := by
  rw [← scan_of_le (@length_dollarPiece rest)]
  simp only [pieces, List.length_cons, scan, if_true]

theorem bracedKey?_append {key behind : List Char} (free : '\x7d' ∉ key) :
    bracedKey? (key ++ '\x7d' :: behind) = some (key, behind) := by
  induction key with
  | nil => rfl
  | cons c rest ih =>
      rw [List.mem_cons, not_or] at free
      rw [List.cons_append, bracedKey?, if_neg (Ne.symm free.1), ih free.2]
      rfl

theorem pieces_append_of_free {chars rest : List Char} (free : '$' ∉ chars) :
    pieces (chars ++ rest) = chars.map .literal ++ pieces rest := by
  induction chars with
  | nil => rfl
  | cons c more ih =>
      rw [List.mem_cons, not_or] at free
      rw [List.cons_append, pieces_cons_of_ne (Ne.symm free.1), ih free.2]
      rfl

theorem keysOf_append_of_free {chars rest : List Char} (free : '$' ∉ chars) :
    keysOf (chars ++ rest) = keysOf rest := by
  have none : (chars.map Piece.literal).filterMap Piece.key? = [] := by
    simp [List.filterMap_map, Piece.key?]
  rw [keysOf, keysOf, pieces_append_of_free free, List.filterMap_append, none, List.nil_append]

/-- A name that can stand between the braces of a reference. -/
def IsKey (name : String) : Prop :=
  name.toList ≠ [] ∧ '\x7d' ∉ name.toList

instance (name : String) : Decidable (IsKey name) :=
  inferInstanceAs (Decidable (_ ∧ _))

theorem toList_referTo {key : String} :
    (referTo key).toList = '$' :: '\x7b' :: (key.toList ++ ['\x7d']) := by
  simp [referTo]

theorem dollarPiece_braced {key rest : List Char} (nonempty : key ≠ []) (free : '\x7d' ∉ key) :
    dollarPiece ('\x7b' :: (key ++ '\x7d' :: rest)) = (.reference key, rest) := by
  simp [dollarPiece, bracedKey?_append free, nonempty]

theorem pieces_referTo_append {key : String} {rest : List Char} (isKey : IsKey key) :
    pieces ((referTo key).toList ++ rest) = .reference key.toList :: pieces rest := by
  have piece := @dollarPiece_braced key.toList rest isKey.1 isKey.2
  have text : (referTo key).toList ++ rest =
      '$' :: '\x7b' :: (key.toList ++ '\x7d' :: rest) := by
    simp [toList_referTo]
  rw [text, pieces_cons_dollar, piece]

theorem keysOf_referTo_append {key : String} {rest : List Char} (isKey : IsKey key) :
    keysOf ((referTo key).toList ++ rest) = key :: keysOf rest := by
  rw [keysOf, pieces_referTo_append isKey, List.filterMap_cons_some Piece.key?_reference,
    String.ofList_toList]
  rfl

end Scanning

/-- A text that is put together from texts without dollar signs and references to some names. -/
inductive WrittenWith (names : List String) : String → Prop
  | reference {key : String} (known : key ∈ names) : WrittenWith names (referTo key)
  | append {first second : String} (before : WrittenWith names first)
      (behind : WrittenWith names second) : WrittenWith names (first ++ second)
  | noLines : WrittenWith names (unlines [])
  | lines {line : String} {rest : List String} (first : WrittenWith names line)
      (others : WrittenWith names (unlines rest)) : WrittenWith names (unlines (line :: rest))
  | plain {chars : List Char} (free : '$' ∉ chars) : WrittenWith names (String.ofList chars)

theorem toList_unlines_cons {line : String} {rest : List String} :
    (unlines (line :: rest)).toList = line.toList ++ '\n' :: (unlines rest).toList := by
  simp [unlines, String.join_cons]

namespace WrittenWith

variable {names : List String} {text : String}

/-- Whatever stands behind the text, the references of the text come first. -/
theorem keysOf_append (written : WrittenWith names text) (areKeys : ∀ name ∈ names, IsKey name)
    (rest : List Char) :
    ∃ own, (∀ key ∈ own, key ∈ names) ∧ keysOf (text.toList ++ rest) = own ++ keysOf rest := by
  induction written generalizing rest with
  | @reference key known =>
      refine ⟨[key], ?_, keysOf_referTo_append (areKeys key known)⟩
      intro other mem
      rcases List.mem_singleton.mp mem with rfl
      exact known
  | @append first second _ _ firstIh secondIh =>
      rcases firstIh (second.toList ++ rest) with ⟨before, beforeKnown, split⟩
      rcases secondIh rest with ⟨behind, behindKnown, splitRest⟩
      refine ⟨before ++ behind, List.forall_mem_append.mpr ⟨beforeKnown, behindKnown⟩, ?_⟩
      rw [String.toList_append, List.append_assoc, split, splitRest, List.append_assoc]
  | noLines => exact ⟨[], by simp, rfl⟩
  | @lines line more _ _ lineIh moreIh =>
      rcases lineIh ('\n' :: ((unlines more).toList ++ rest)) with ⟨before, beforeKnown, split⟩
      rcases moreIh rest with ⟨behind, behindKnown, splitRest⟩
      refine ⟨before ++ behind, List.forall_mem_append.mpr ⟨beforeKnown, behindKnown⟩, ?_⟩
      have lineFeed : keysOf ('\n' :: ((unlines more).toList ++ rest)) =
          keysOf ((unlines more).toList ++ rest) :=
        @keysOf_append_of_free ['\n'] _ (by decide)
      rw [toList_unlines_cons, List.append_assoc, List.cons_append, split, lineFeed, splitRest,
        List.append_assoc]
  | @plain chars free =>
      refine ⟨[], by simp, ?_⟩
      rw [String.toList_ofList]
      exact keysOf_append_of_free free

theorem definedBy (written : WrittenWith names text) (areKeys : ∀ name ∈ names, IsKey name) :
    DefinedBy names text := by
  rcases written.keysOf_append areKeys [] with ⟨own, known, split⟩
  intro key mem
  rw [keys, ← List.append_nil text.toList, split] at mem
  have nothing : keysOf [] = [] := rfl
  rw [nothing, List.append_nil] at mem
  exact known key mem

end WrittenWith

end Expression

end UsbDescriptors
