import UsbDescriptors.Json.Reader
import UsbDescriptors.Text.Utf16

/-!
# Reading UTF-16

The bytes of a text can be read back: two bytes are a code unit, low byte first, and a unit is a
character unless it is a surrogate, which is half of a character. The units of a character never
look like those of another one, so the units of a text are read from the front without a look ahead,
and reading gives back every text.
-/

namespace UsbDescriptors.Utf16

open Json (isLeadingSurrogate isTrailingSurrogate)

/-- The code units of bytes, low byte first, if their number is even. -/
def readUnits? : List UInt8 → Option (List UInt16)
  | [] => some []
  | [_] => none
  | low :: high :: rest =>
      (readUnits? rest).map (UInt16.ofNat (low.toNat + 256 * high.toNat) :: ·)

/-- The characters of code units, if every surrogate stands in a pair. -/
def readChars? : List UInt16 → Option (List Char)
  | [] => some []
  | unit :: rest =>
      if isLeadingSurrogate unit.toNat then
        match rest with
        | [] => none
        | second :: behind =>
            if isTrailingSurrogate second.toNat then
              (readChars? behind).map
                (Char.ofNat (0x10000 + (unit.toNat - 0xD800) * 0x400 + (second.toNat - 0xDC00)) :: ·)
            else none
      else if isTrailingSurrogate unit.toNat then none
      else (readChars? rest).map (Char.ofNat unit.toNat :: ·)

/-- The text whose UTF-16 bytes these are. -/
def read? (bytes : List UInt8) : Option String :=
  ((readUnits? bytes).bind readChars?).map String.ofList

theorem readUnits?_unitBytes_append (unit : UInt16) (rest : List UInt8) :
    readUnits? (unitBytes unit ++ rest) = (readUnits? rest).map (unit :: ·) := by
  have halves : unit.toUInt8.toNat + 256 * (unit >>> 8).toUInt8.toNat = unit.toNat := by
    have bound := unit.toNat_lt
    simp [Nat.shiftRight_eq_div_pow]
    omega
  rw [unitBytes, List.cons_append, List.singleton_append, readUnits?, halves, UInt16.ofNat_toNat]

theorem readUnits?_bytes (text : String) : readUnits? (bytes text) = some (units text) := by
  have each (units : List UInt16) : readUnits? (units.flatMap unitBytes) = some units := by
    induction units with
    | nil => rfl
    | cons unit rest ih => rw [List.flatMap_cons, readUnits?_unitBytes_append, ih]; rfl
  exact each (units text)

/-- The code points of characters are below 0x110000, and none of them is a surrogate. -/
theorem toNat_bounds (c : Char) :
    c.toNat < 0xD800 ∨ 0xDFFF < c.toNat ∧ c.toNat < 0x110000 :=
  c.valid

theorem readChars?_charUnits_append (c : Char) (rest : List UInt16) :
    readChars? (charUnits c ++ rest) = (readChars? rest).map (c :: ·) := by
  have bounds := toNat_bounds c
  unfold charUnits
  split
  next single =>
    have unit : (UInt16.ofNat c.toNat).toNat = c.toNat := UInt16.toNat_ofNat_of_lt single
    have notLeading : isLeadingSurrogate c.toNat = false := by
      simp only [isLeadingSurrogate, Bool.and_eq_false_iff, decide_eq_false_iff_not]
      omega
    have notTrailing : isTrailingSurrogate c.toNat = false := by
      simp only [isTrailingSurrogate, Bool.and_eq_false_iff, decide_eq_false_iff_not]
      omega
    rw [List.singleton_append, readChars?.eq_def]
    simp only [unit, notLeading, notTrailing, Bool.false_eq_true, if_false, Char.ofNat_toNat]
  next pair =>
    have size : UInt16.size = 0x10000 := rfl
    have first : (UInt16.ofNat (0xD800 + (c.toNat - 0x10000) / 0x400)).toNat =
        0xD800 + (c.toNat - 0x10000) / 0x400 := UInt16.toNat_ofNat_of_lt (by omega)
    have second : (UInt16.ofNat (0xDC00 + (c.toNat - 0x10000) % 0x400)).toNat =
        0xDC00 + (c.toNat - 0x10000) % 0x400 := UInt16.toNat_ofNat_of_lt (by omega)
    have leading : isLeadingSurrogate (0xD800 + (c.toNat - 0x10000) / 0x400) = true := by
      simp only [isLeadingSurrogate, Bool.and_eq_true, decide_eq_true_eq]
      omega
    have trailing : isTrailingSurrogate (0xDC00 + (c.toNat - 0x10000) % 0x400) = true := by
      simp only [isTrailingSurrogate, Bool.and_eq_true, decide_eq_true_eq]
      omega
    have whole : 0x10000 + (0xD800 + (c.toNat - 0x10000) / 0x400 - 0xD800) * 0x400 +
        (0xDC00 + (c.toNat - 0x10000) % 0x400 - 0xDC00) = c.toNat := by
      omega
    rw [List.cons_append, List.singleton_append, readChars?]
    simp only [first, second, leading, trailing, whole, if_true, Char.ofNat_toNat]

theorem readChars?_units (text : String) : readChars? (units text) = some text.toList := by
  have each (chars : List Char) : readChars? (chars.flatMap charUnits) = some chars := by
    induction chars with
    | nil => rfl
    | cons c rest ih => rw [List.flatMap_cons, readChars?_charUnits_append, ih]; rfl
  exact each text.toList

/-- Every text is read back from its bytes. -/
theorem read?_bytes (text : String) : read? (bytes text) = some text := by
  simp [read?, readUnits?_bytes, readChars?_units]

theorem unitsOfBytes_of_readUnits? {bytes : List UInt8} {units : List UInt16}
    (read : readUnits? bytes = some units) : unitsOfBytes bytes = units := by
  induction bytes using readUnits?.induct generalizing units with
  | case1 =>
      cases read
      rfl
  | case2 => cases read
  | case3 low high rest ih =>
      rw [readUnits?, Option.map_eq_some_iff] at read
      rcases read with ⟨others, more, rfl⟩
      rw [unitsOfBytes, ih more]

/-- Code units that are a text are decoded as its characters, without a gap. -/
theorem decoded_of_readChars? {units : List UInt16} {chars : List Char}
    (read : readChars? units = some chars) : decoded units = chars.map some := by
  induction units using readChars?.induct generalizing chars with
  | case1 =>
      cases read
      rfl
  | case2 unit leading => simp [readChars?, leading] at read
  | case3 unit leading second behind trailing ih =>
      simp only [readChars?, leading, trailing, if_true, Option.map_eq_some_iff] at read
      rcases read with ⟨others, more, rfl⟩
      have first : isLeading unit = true := leading
      have other : isTrailing second = true := trailing
      simp only [decoded, first, other, if_true, ih more, List.map_cons, pairChar]
  | case4 unit leading second behind single => simp [readChars?, leading, single] at read
  | case5 unit rest single trailing => simp [readChars?.eq_def, single, trailing] at read
  | case6 unit rest single alone ih =>
      simp only [readChars?.eq_def (unit :: rest), single, alone, Bool.false_eq_true, if_false,
        Option.map_eq_some_iff] at read
      rcases read with ⟨others, more, rfl⟩
      have notFirst : isLeading unit = false := Bool.eq_false_iff.mpr single
      have notOther : isTrailing unit = false := Bool.eq_false_iff.mpr alone
      simp only [decoded.eq_def (unit :: rest), notFirst, notOther, Bool.false_eq_true, if_false,
        ih more, List.map_cons]

/-- A character outside the basic plane has a surrogate pair. -/
example : bytes "a😀" = [0x61, 0, 0x3D, 0xD8, 0x00, 0xDE] ∧
    read? [0x61, 0, 0x3D, 0xD8, 0x00, 0xDE] = some "a😀" := by
  decide +kernel

end UsbDescriptors.Utf16
