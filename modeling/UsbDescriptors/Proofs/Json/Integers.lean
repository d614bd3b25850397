import UsbDescriptors.Json.Reader
import UsbDescriptors.Proofs.Expressions.References
import UsbDescriptors.Proofs.Json.Numbers

/-!
# Integers read back

An integer of 64 bits is written with the digits of its magnitude, behind a minus sign if it is
negative, and reading takes exactly these characters and gives the integer back. The digits of a
number other than zero do not start with a zero, and no front of them is beyond 64 bits, so nothing
of them is left over for a power of ten. Behind the digits there has to stand something that does
not go on with a number.
-/

namespace UsbDescriptors.Json

/-- What follows a value inside an array or an object, or at the end of a text. -/
def Delimits (rest : List Char) : Prop :=
  ∀ c ∈ rest.head?, c = ',' ∨ c = ']' ∨ c = '\x7d'

section Digits

variable {number : Nat} {rest : List Char}

theorem head?_toDigits (positive : 0 < number) : (Nat.toDigits 10 number).head? ≠ some '0' := by
  induction number using Nat.strongRecOn with
  | _ number ih =>
      rw [Nat.toDigits_eq_if (by omega)]
      split
      next small =>
        have nonzero : ∀ digit < 10, 0 < digit → Nat.digitChar digit ≠ '0' := by decide
        simpa using nonzero number small positive
      next large =>
        -- The first digit is that of the number without its last digit.
        have front := ih (number / 10) (by omega) (by omega)
        rwa [List.head?_append_of_ne_nil _ Nat.toDigits_ne_nil]

/-- The significand takes all digits of a number of 64 bits. -/
theorem takeDigits_of_lt {digits : List Char} {start : Nat}
    (fits : Nat.ofDigitChars 10 digits start < Nat.pow 2 64) :
    takeDigits start digits = (Nat.ofDigitChars 10 digits start, 0) := by
  induction digits generalizing start with
  | nil => rfl
  | cons digit more ih =>
      have grows : ∀ (digits : List Char) (start : Nat),
          start ≤ Nat.ofDigitChars 10 digits start := by
        intro digits
        induction digits with
        | nil => exact fun start => Nat.le_refl _
        | cons digit more ih =>
            intro start
            rw [Nat.ofDigitChars_cons]
            exact Nat.le_trans (by omega) (ih _)
      rw [Nat.ofDigitChars_cons] at fits ⊢
      have next := Nat.lt_of_le_of_lt (grows more _) fits
      rw [takeDigits, Nat.mul_comm start 10]
      simp only [if_pos next]
      exact ih fits

theorem takeDigits_toDigits (fits : number < Nat.pow 2 64) :
    takeDigits 0 (Nat.toDigits 10 number) = (number, 0) := by
  have whole : Nat.ofDigitChars 10 (Nat.toDigits 10 number) 0 = number :=
    Nat.ofDigitChars_ten_toDigits
  rw [takeDigits_of_lt (by rwa [whole]), whole]

theorem readDigits_toDigits (ends : ∀ c ∈ rest.head?, c.isDigit = false) :
    readDigits (Nat.toDigits 10 number ++ rest) = .ok (Nat.toDigits 10 number, rest) := by
  have digits : ∀ c ∈ Nat.toDigits 10 number, c.isDigit = true :=
    fun c mem => Nat.isDigit_of_mem_toDigits (by omega) (by omega) mem
  rw [readDigits, Expression.takeWhile_append_of_ends digits ends,
    Expression.dropWhile_append_of_ends digits ends]
  cases written : Nat.toDigits 10 number with
  | nil => exact absurd written Nat.toDigits_ne_nil
  | cons first more => rfl

/-- Only zero itself starts with a zero. -/
theorem readWhole_toDigits (ends : ∀ c ∈ rest.head?, c.isDigit = false) :
    readWhole (Nat.toDigits 10 number ++ rest) = .ok (Nat.toDigits 10 number, rest) := by
  -- A zero in front of further digits is the one thing that is refused.
  have single : ∀ second more, Nat.toDigits 10 number ≠ '0' :: second :: more := by
    intro second more written
    rcases Nat.eq_zero_or_pos number with rfl | positive
    · simp at written
    · exact head?_toDigits positive (by rw [written]; rfl)
  rw [readWhole, readDigits_toDigits ends]
  generalize Nat.toDigits 10 number = digits at single
  split
  next second more zeroFirst =>
    cases zeroFirst
    exact absurd rfl (single _ _)
  next => rfl

end Digits

section Delimited

variable {rest : List Char}

theorem Delimits.isDigit_eq_false (delimits : Delimits rest) :
    ∀ c ∈ rest.head?, c.isDigit = false := by
  intro c head
  rcases delimits c head with rfl | rfl | rfl <;> decide

theorem Delimits.readFraction (delimits : Delimits rest) :
    readFraction rest = .ok (none, rest) := by
  cases rest with
  | nil => rfl
  | cons c more => rcases delimits c rfl with rfl | rfl | rfl <;> rfl

theorem Delimits.readOptionalExponent (delimits : Delimits rest) :
    readOptionalExponent rest = .ok (none, rest) := by
  cases rest with
  | nil => rfl
  | cons c more => rcases delimits c rfl with rfl | rfl | rfl <;> rfl

/-- The literal of an integer with a sign and a magnitude. -/
def integerLiteral (negative : Bool) (magnitude : Nat) : Literal :=
  { negative, whole := Nat.toDigits 10 magnitude, fraction := [], exponent := 0, plain := true }

theorem readLiteral_natural (delimits : Delimits rest) (magnitude : Nat) :
    readLiteral (Nat.toDigits 10 magnitude ++ rest) =
      .ok (integerLiteral false magnitude, rest) := by
  have whole := @readWhole_toDigits magnitude rest delimits.isDigit_eq_false
  have unsigned : ∀ more, Nat.toDigits 10 magnitude ++ rest ≠ '-' :: more := by
    intro more written
    have digit : (Nat.toDigits 10 magnitude ++ rest).head? = some '-' := by rw [written]; rfl
    rw [List.head?_append_of_ne_nil _ Nat.toDigits_ne_nil] at digit
    have isDigit := isDigit_toDigits (List.mem_of_mem_head? digit)
    exact absurd isDigit (by decide)
  rw [readLiteral]
  · simp only [whole, delimits.readFraction, delimits.readOptionalExponent, bind, Except.bind]
    rfl
  · exact unsigned

theorem readLiteral_negative (delimits : Delimits rest) (magnitude : Nat) :
    readLiteral ('-' :: (Nat.toDigits 10 magnitude ++ rest)) =
      .ok (integerLiteral true magnitude, rest) := by
  have whole := @readWhole_toDigits magnitude rest delimits.isDigit_eq_false
  simp only [readLiteral, whole, delimits.readFraction, delimits.readOptionalExponent, bind,
    Except.bind]
  rfl

theorem number?_natural {magnitude : Nat} (fits : magnitude < Nat.pow 2 64) :
    (integerLiteral false magnitude).number? = some (.integer magnitude) := by
  simp [integerLiteral, Literal.number?, takeDigits_toDigits fits, takeDigits]

theorem number?_negative {magnitude : Nat} (positive : 0 < magnitude)
    (fits : magnitude ≤ Nat.pow 2 63) :
    (integerLiteral true magnitude).number? = some (.integer (-magnitude)) := by
  have wide : magnitude < Nat.pow 2 64 := Nat.lt_of_le_of_lt fits (by decide)
  simp [integerLiteral, Literal.number?, takeDigits_toDigits wide, takeDigits, positive, fits]

end Delimited

/-- An integer of 64 bits, with or without a sign. -/
def Number.IsInteger64 : Number → Prop
  | .integer value =>
      -((Nat.pow 2 63 : Nat) : Int) ≤ value ∧ value < ((Nat.pow 2 64 : Nat) : Int)
  | .double _ => False

theorem readNumber_write {number : Number} {rest : List Char} (exact64 : number.IsInteger64)
    (delimits : Delimits rest) :
    readNumber (number.write ++ rest) = (.number number, some rest) := by
  cases number with
  | double value => cases exact64
  | integer value =>
      rcases exact64 with ⟨least, greatest⟩
      cases value with
      | ofNat magnitude =>
          have fits : magnitude < Nat.pow 2 64 := Int.ofNat_lt.mp greatest
          rw [Number.write_ofNat, readNumber, readLiteral_natural delimits]
          simp only [number?_natural fits]
          rfl
      | negSucc predecessor =>
          have fits : predecessor + 1 ≤ Nat.pow 2 63 :=
            Int.ofNat_le.mp (Int.neg_le_neg_iff.mp least)
          rw [Number.write_negSucc, List.cons_append, readNumber, readLiteral_negative delimits]
          simp only [number?_negative (Nat.succ_pos _) fits]
          rfl

/-- An integer starts with a minus sign or a digit. -/
theorem Number.exists_write_of_isInteger64 {number : Number} (exact64 : number.IsInteger64) :
    ∃ first more, number.write = first :: more ∧ (first = '-' ∨ first.isDigit = true) := by
  cases number with
  | double value => cases exact64
  | integer value =>
      cases value with
      | negSucc predecessor => exact ⟨_, _, Number.write_negSucc predecessor, Or.inl rfl⟩
      | ofNat magnitude =>
          rcases List.exists_cons_of_ne_nil (@Nat.toDigits_ne_nil magnitude 10) with
            ⟨first, more, written⟩
          refine ⟨first, more, (Number.write_ofNat magnitude).trans written, Or.inr ?_⟩
          exact isDigit_toDigits (by rw [written]; exact List.mem_cons_self)

/-- A value that starts with a minus sign or a digit is a number. -/
theorem readValue_number {depth budget : Nat} {first : Char} {rest : List Char}
    (starts : first = '-' ∨ first.isDigit = true) :
    readValue depth (budget + 1) (first :: rest) = readNumber (first :: rest) := by
  have others : ∀ c ∈ ['"', '[', '\x7b', 'n', 't', 'f', ' ', '\t', '\n', '\r'], first ≠ c := by
    intro c mem same
    subst same
    rcases starts with rfl | digit
    · revert mem
      decide
    · have none : ['"', '[', '\x7b', 'n', 't', 'f', ' ', '\t', '\n', '\r'].any Char.isDigit =
          false := by decide
      exact List.any_eq_false.mp none _ mem digit
  simp only [List.mem_cons, List.not_mem_nil, or_false, forall_eq_or_imp, forall_eq] at others
  have shown : skipBlanks (first :: rest) = first :: rest := by
    rw [skipBlanks, List.dropWhile_cons_of_neg]
    simp [isBlank, others]
  rw [readValue, shown]
  simp only [others, if_false, if_pos starts]

end UsbDescriptors.Json
