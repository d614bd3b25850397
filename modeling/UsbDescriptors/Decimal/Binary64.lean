/-!
# Finite double-precision numbers

A finite double is a sign and a whole number of units of 2⁻¹⁰⁷⁴, the spacing of the smallest
doubles. In these units every operation is exact arithmetic on natural numbers followed by one
rounding to the nearest number of at most 53 significant bits, ties to the even neighbour.
-/

namespace UsbDescriptors

/-- A finite double: `± units · 2⁻¹⁰⁷⁴`. -/
structure Binary64 where
  /-- Whether the number carries a minus sign; zero may carry one too. -/
  negative : Bool
  /-- The magnitude in units of 2⁻¹⁰⁷⁴. -/
  units : Nat
deriving DecidableEq, Repr

namespace Binary64

def oneUnits : Nat := Nat.pow 2 1074

/-- The first magnitude beyond the finite doubles. -/
def infiniteUnits : Nat := Nat.pow 2 2098

/-- The whole number nearest to a quotient; of two equally near ones the even one. -/
def roundHalfEven (numerator denominator : Nat) : Nat :=
  let quotient := numerator / denominator
  let remainder := numerator % denominator
  if 2 * remainder < denominator then quotient
  else if denominator < 2 * remainder then quotient + 1
  else if quotient % 2 = 0 then quotient
  else quotient + 1

/-- The distance between neighbouring doubles at a magnitude. -/
def spacing (units : Nat) : Nat :=
  Nat.pow 2 (units.log2 - 52)

/-- The magnitude of the double nearest to `numerator / denominator` units. -/
def nearestUnits (numerator denominator : Nat) : Nat :=
  let step := spacing (numerator / denominator)
  roundHalfEven numerator (denominator * step) * step

/-- A magnitude with a sign, if it is finite. -/
def ofUnits? (negative : Bool) (units : Nat) : Option Binary64 :=
  if units < infiniteUnits then some ⟨negative, units⟩ else none

/-- The double nearest to a natural number that is far from the end of the range. -/
def ofNat (value : Nat) : Binary64 :=
  ⟨false, nearestUnits (value * oneUnits) 1⟩

/-- The double nearest to an integer that is far from the end of the range. -/
def ofInt (value : Int) : Binary64 :=
  ⟨decide (value < 0), nearestUnits (value.natAbs * oneUnits) 1⟩

/-- The magnitude of a product, rounded once. -/
def mulUnits (left right : Nat) : Nat :=
  nearestUnits (left * right) oneUnits

/-- The magnitude of a quotient, rounded once. -/
def divUnits (left right : Nat) : Nat :=
  nearestUnits (left * oneUnits) right

/-- The double nearest to a power of ten. -/
def powerOfTenUnits (exponent : Nat) : Nat :=
  (ofNat (Nat.pow 10 exponent)).units

/-- A magnitude times a power of ten: the power is rounded, then the product is. -/
def scaleUp (units exponent : Nat) : Nat :=
  mulUnits units (powerOfTenUnits exponent)

/-- A magnitude divided by a power of ten in steps of at most 10³⁰⁸. A magnitude that stems from
64 bits is zero after two steps. -/
def scaleDown (units exponent : Nat) : Nat :=
  if exponent ≤ 308 then divUnits units (powerOfTenUnits exponent)
  else if exponent ≤ 616 then
    divUnits (divUnits units (powerOfTenUnits 308)) (powerOfTenUnits (exponent - 308))
  else 0

/-- The double that a significand of at most 64 bits and a power of ten stand for, `none` beyond
the finite range. The significand is rounded before it is scaled. -/
def ofDecimal? (negative : Bool) (significand : Nat) (exponent : Int) : Option Binary64 :=
  let units := (ofNat significand).units
  match exponent with
  | .negSucc below => some ⟨negative, scaleDown units (below + 1)⟩
  | .ofNat above =>
      if units = 0 then some ⟨negative, 0⟩
      else if above ≤ 308 then ofUnits? negative (scaleUp units above)
      else none

end Binary64

end UsbDescriptors
