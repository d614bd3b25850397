/-!
# UTF-16

Texts as sequences of 16-bit code units, and the units as bytes with the low byte first, the
encoding that string descriptors carry. Bytes are read back as far as they are UTF-16.
-/

namespace UsbDescriptors.Utf16

/-- The code units of a character: one, or a surrogate pair above U+FFFF. -/
def charUnits (c : Char) : List UInt16 :=
  if c.toNat < 0x10000 then
    [UInt16.ofNat c.toNat]
  else
    [UInt16.ofNat (0xD800 + (c.toNat - 0x10000) / 0x400),
      UInt16.ofNat (0xDC00 + (c.toNat - 0x10000) % 0x400)]

def units (text : String) : List UInt16 :=
  text.toList.flatMap charUnits

/-- The two bytes of a code unit, low byte first. -/
def unitBytes (unit : UInt16) : List UInt8 :=
  [unit.toUInt8, (unit >>> 8).toUInt8]

/-- A text as UTF-16 bytes, low byte of each unit first. -/
def bytes (text : String) : List UInt8 :=
  (units text).flatMap unitBytes

/-- The number of bytes that a text takes in UTF-16. -/
def byteCount (text : String) : Nat :=
  2 * (units text).length

/-- The code units of bytes, low byte first. A byte that is left over at the end does not count. -/
def unitsOfBytes : List UInt8 → List UInt16
  | low :: high :: rest => UInt16.ofNat (low.toNat + 256 * high.toNat) :: unitsOfBytes rest
  | _ => []

/-- Whether a code unit is the first of a surrogate pair. -/
def isLeading (unit : UInt16) : Bool :=
  0xD800 ≤ unit.toNat && unit.toNat ≤ 0xDBFF

/-- Whether a code unit is the second of a surrogate pair. -/
def isTrailing (unit : UInt16) : Bool :=
  0xDC00 ≤ unit.toNat && unit.toNat ≤ 0xDFFF

/-- The character above U+FFFF that a surrogate pair stands for. -/
def pairChar (leading trailing : UInt16) : Char :=
  Char.ofNat (0x10000 + (leading.toNat - 0xD800) * 0x400 + (trailing.toNat - 0xDC00))

/-- The characters of code units, with a gap for every surrogate that stands in no pair. -/
def decoded : List UInt16 → List (Option Char)
  | [] => []
  | unit :: rest =>
      if isLeading unit then
        match rest with
        | [] => [none]
        | second :: behind =>
            if isTrailing second then some (pairChar unit second) :: decoded behind
            else none :: decoded (second :: behind)
      else if isTrailing unit then none :: decoded rest
      else some (Char.ofNat unit.toNat) :: decoded rest

end UsbDescriptors.Utf16
