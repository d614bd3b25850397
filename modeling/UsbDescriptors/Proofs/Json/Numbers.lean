import UsbDescriptors.Json.Value

/-!
# Characters of numbers

The text of a number is written with digits, a point, signs and the letter of the exponent, whether
it is an integer or the shortest decimal of a double.
-/

namespace UsbDescriptors

/-- A character that a number is written with. -/
def isNumberChar (c : Char) : Bool :=
  c.isDigit || c = '.' || c = '-' || c = '+' || c = 'e'

theorem isDigit_toDigits {number : Nat} {c : Char} (mem : c ∈ Nat.toDigits 10 number) :
    c.isDigit = true :=
  Nat.isDigit_of_mem_toDigits (by omega) (by omega) mem

namespace Decimal

variable {decimal : Decimal}

theorem isNumberChar_firstOnGrid {interval : Rounding} {point : Int} {tries count : Nat} {c : Char}
    (mem : c ∈ (firstOnGrid interval point tries count).digits) : isNumberChar c = true := by
  induction tries generalizing count with
  | zero => cases mem
  | succ tries ih =>
      rw [firstOnGrid] at mem
      split at mem
      next multiple found =>
        simp only [trimmed, List.mem_reverse] at mem
        have digit := isDigit_toDigits (List.mem_reverse.mp ((List.dropWhile_sublist _).mem mem))
        simp [isNumberChar, digit]
      next absent => exact ih mem

theorem isNumberChar_positional (digits : ∀ c ∈ decimal.digits, isNumberChar c = true) :
    ∀ c ∈ decimal.positional, isNumberChar c = true := by
  have start : ∀ c ∈ ['0', '.'], isNumberChar c = true := List.all_eq_true.mp (by decide)
  have zeros : ∀ count, ∀ c ∈ List.replicate count '0', isNumberChar c = true := by
    intro count c mem
    rw [List.eq_of_mem_replicate mem]
    decide
  unfold positional
  split
  · exact List.forall_mem_append.mpr ⟨List.forall_mem_append.mpr ⟨start, zeros _⟩, digits⟩
  · exact List.forall_mem_append.mpr ⟨start, digits⟩
  · split
    · exact List.forall_mem_append.mpr
        ⟨List.forall_mem_append.mpr ⟨digits, zeros _⟩, List.all_eq_true.mp (by decide)⟩
    · refine List.forall_mem_append.mpr ⟨fun c mem => digits c (List.mem_of_mem_take mem), ?_⟩
      exact List.forall_mem_cons.mpr
        ⟨by decide, fun c mem => digits c (List.mem_of_mem_drop mem)⟩

theorem isNumberChar_scientific (digits : ∀ c ∈ decimal.digits, isNumberChar c = true) :
    ∀ c ∈ decimal.scientific, isNumberChar c = true := by
  have sign : isNumberChar (if decimal.point - 1 < 0 then '-' else '+') = true := by
    split <;> decide
  unfold scientific
  refine List.forall_mem_append.mpr ⟨List.forall_mem_append.mpr
    ⟨fun c mem => digits c (List.mem_of_mem_take mem), ?_⟩, ?_⟩
  · split
    · exact List.forall_mem_nil _
    · exact List.forall_mem_cons.mpr
        ⟨by decide, fun c mem => digits c (List.mem_of_mem_drop mem)⟩
  · refine List.forall_mem_cons.mpr ⟨by decide, List.forall_mem_cons.mpr ⟨sign, ?_⟩⟩
    intro c mem
    simp [isNumberChar, isDigit_toDigits mem]

theorem isNumberChar_write (digits : ∀ c ∈ decimal.digits, isNumberChar c = true) :
    ∀ c ∈ decimal.write, isNumberChar c = true := by
  unfold write
  split
  · exact isNumberChar_positional digits
  · exact isNumberChar_scientific digits

/-- A decimal is written with a point or with the letter of the exponent. -/
theorem write_ne_nil : decimal.write ≠ [] := by
  unfold write
  split
  · unfold positional
    split
    · simp
    · simp
    · split <;> simp
  · simp [scientific]

end Decimal

theorem Binary64.write_ne_nil (value : Binary64) : value.write ≠ [] := by
  unfold write
  dsimp only
  split
  · exact List.cons_ne_nil _ _
  · split
    · exact List.cons_ne_nil _ _
    · exact Decimal.write_ne_nil

theorem Binary64.isNumberChar_write (value : Binary64) :
    ∀ c ∈ value.write, isNumberChar c = true := by
  have magnitude : ∀ c ∈ (if value.units = 0 then ['0', '.', '0']
      else (Decimal.shortest value.units).write), isNumberChar c = true := by
    split
    · exact List.all_eq_true.mp (by decide)
    · exact Decimal.isNumberChar_write fun c => Decimal.isNumberChar_firstOnGrid
  unfold write
  dsimp only
  split
  · exact List.forall_mem_cons.mpr ⟨by decide, magnitude⟩
  · exact magnitude

theorem Json.Number.write_ofNat (value : Nat) :
    (Json.Number.integer (.ofNat value)).write = Nat.toDigits 10 value := by
  change (toString value).toList = _
  rw [Nat.toString_eq_repr, Nat.toList_repr]

theorem Json.Number.write_negSucc (value : Nat) :
    (Json.Number.integer (.negSucc value)).write = '-' :: Nat.toDigits 10 (value + 1) := by
  change (toString (Int.negSucc value)).toList = _
  rw [Int.toString_eq_repr, Int.repr]
  simp

theorem Json.Number.write_ne_nil (number : Json.Number) : number.write ≠ [] := by
  cases number with
  | double value => exact value.write_ne_nil
  | integer value =>
      cases value with
      | ofNat value =>
          rw [write_ofNat]
          exact Nat.toDigits_ne_nil
      | negSucc value =>
          rw [write_negSucc]
          exact List.cons_ne_nil _ _

theorem Json.Number.isNumberChar_write (number : Json.Number) :
    ∀ c ∈ number.write, isNumberChar c = true := by
  have natural : ∀ value : Nat, ∀ c ∈ Nat.toDigits 10 value, isNumberChar c = true := by
    intro value c mem
    simp [isNumberChar, isDigit_toDigits mem]
  cases number with
  | double value => exact value.isNumberChar_write
  | integer value =>
      cases value with
      | ofNat value =>
          rw [write_ofNat]
          exact natural value
      | negSucc value =>
          rw [write_negSucc]
          exact List.forall_mem_cons.mpr ⟨by decide, natural _⟩

end UsbDescriptors
