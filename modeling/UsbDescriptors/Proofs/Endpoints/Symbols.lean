import UsbDescriptors.Interface.Evaluated

/-!
# Endings of endpoint symbols

The direction of an endpoint is spelled by the last word of the name of its field, and the symbol
of the endpoint ends in the identifier of this name. A symbol therefore ends in the name of the
direction behind an underscore, and in that of no other direction.
-/

namespace UsbDescriptors

/-- A character whose upper case is an upper-case letter stands for this letter in an
identifier. -/
theorem identifierChar_of_isUpper {c : Char} (upper : c.toUpper.isUpper = true) :
    identifierChar c = c.toUpper := by
  have classes : c.isAlphanum = ((c.isUpper || c.isLower) || c.isDigit) := rfl
  have range : c.isLower = (decide (c.val ≥ 'a'.val) && decide (c.val ≤ 'z'.val)) := rfl
  have letter : c.isAlphanum = true := by
    by_cases lower : c.isLower = true
    · simp [classes, lower]
    · have same : c.toUpper = c := by
        rw [range, Bool.and_eq_true, decide_eq_true_eq, decide_eq_true_eq] at lower
        unfold Char.toUpper
        split
        next inRange => exact absurd inRange lower
        next => rfl
      rw [same] at upper
      simp [classes, upper]
  simp [identifierChar, letter]

namespace Direction

/-- The last word of a name stands behind an underscore or is the whole name. -/
theorem lastWord_suffix (name : List Char) : '_' :: lastWord name <:+ '_' :: name := by
  have parts := List.takeWhile_append_dropWhile (p := fun c => decide (c ≠ '_'))
    (l := name.reverse)
  have split : name = (name.reverse.dropWhile (fun c => decide (c ≠ '_'))).reverse ++
      lastWord name := by
    rw [lastWord, ← List.reverse_append, parts, List.reverse_reverse]
  cases behind : name.reverse.dropWhile (fun c => decide (c ≠ '_')) with
  | nil =>
      rw [behind] at split
      have whole : lastWord name = name := by simpa using split.symm
      exact ⟨[], by rw [List.nil_append, whole]⟩
  | cons first rest =>
      have underscore : first = '_' := by
        have stopped := List.head?_dropWhile_not (fun c => decide (c ≠ '_')) name.reverse
        rw [behind] at stopped
        simpa using stopped
      rw [behind, underscore] at split
      refine ⟨'_' :: rest.reverse, congrArg ('_' :: ·) ?_⟩
      simpa using split.symm

theorem map_toUpper_lastWord {name : String} {direction : Direction}
    (named : ofFieldName? name = some direction) :
    (lastWord name.toList).map Char.toUpper = direction.name.toList := by
  simp only [ofFieldName?] at named
  split at named
  next spelled =>
    cases named
    exact spelled
  next =>
    split at named
    next spelled =>
      cases named
      exact spelled
    next => cases named

theorem map_identifierChar_lastWord {name : String} {direction : Direction}
    (named : ofFieldName? name = some direction) :
    (lastWord name.toList).map identifierChar = direction.name.toList := by
  have spelled := map_toUpper_lastWord named
  rw [← spelled]
  apply List.map_congr_left
  intro c mem
  apply identifierChar_of_isUpper
  have letters : direction.name.toList.all Char.isUpper = true := by
    cases direction <;> decide
  apply List.all_eq_true.mp letters
  rw [← spelled]
  exact List.mem_map_of_mem mem

end Direction

/-- The symbol of an endpoint ends in the name of its direction behind an underscore. -/
theorem name_suffix_endpointSymbol (tag : String) {field : String} {direction : Direction}
    (named : Direction.ofFieldName? field = some direction) :
    '_' :: direction.name.toList <:+ (ResolvedInterface.endpointSymbol tag field).toList := by
  rcases Direction.lastWord_suffix field.toList with ⟨front, split⟩
  have ending := congrArg (List.map identifierChar) split
  simp only [List.map_append, List.map_cons, Direction.map_identifierChar_lastWord named] at ending
  rw [show identifierChar '_' = '_' by decide] at ending
  refine ⟨"EPNUM_".toList ++ (identifier tag).toList ++ front.map identifierChar, ?_⟩
  rw [List.append_assoc, ending]
  simp [ResolvedInterface.endpointSymbol]

/-- A symbol ends in the name of one direction only. -/
theorem eq_iff_name_suffix {symbol : List Char} {direction : Direction}
    (ending : '_' :: direction.name.toList <:+ symbol) (other : Direction) :
    direction = other ↔ '_' :: other.name.toList <:+ symbol := by
  constructor
  · rintro rfl
    exact ending
  · intro otherEnding
    rcases ending with ⟨front, rfl⟩
    rcases otherEnding with ⟨otherFront, same⟩
    -- The names differ in their last letter already.
    have last := congrArg List.getLast? same
    cases direction <;> cases other <;> first | rfl | simp [Direction.name] at last

end UsbDescriptors
