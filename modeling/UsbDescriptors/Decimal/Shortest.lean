import UsbDescriptors.Decimal.Binary64

/-!
# Shortest decimals

The decimal text of a double has the fewest digits that still round to this double, and of the
decimals with that many digits it is the nearest one. Decimals with a given number of digits
form a grid; if any point of the grid rounds to the double, then one of the two neighbours of
the double on the grid does, so only these are tried.
-/

namespace UsbDescriptors

/-- A positive decimal `0.d₁d₂… · 10 ^ point`, by its digits. -/
structure Decimal where
  /-- The significant digits; the first and the last are not zero. -/
  digits : List Char
  /-- The place of the decimal point, counted from the front of the digits. -/
  point : Int
deriving DecidableEq, Repr

namespace Decimal

/-- Digits without the zeros at their end. -/
def trimmed (digits : List Char) : List Char :=
  (digits.reverse.dropWhile (· = '0')).reverse

/-- The reals that round to a magnitude, in quarters of a unit of 2⁻¹⁰⁷⁴. -/
structure Rounding where
  /-- The magnitude itself. -/
  centre : Nat
  /-- The lower end. -/
  lower : Nat
  /-- The upper end. -/
  upper : Nat
  /-- Whether the two ends round to the magnitude as well. -/
  closed : Bool

/-- The interval around a magnitude: half a spacing to each side, and only a quarter downwards
where the spacing halves below a power of two. -/
def Rounding.ofUnits (units : Nat) : Rounding :=
  let step := Binary64.spacing units
  let below := if units = Nat.pow 2 52 * step ∧ 1 < step then step else 2 * step
  { centre := 4 * units
    lower := 4 * units - below
    upper := 4 * units + 2 * step
    closed := units / step % 2 = 0 }

/-- The quarters of a unit of 2⁻¹⁰⁷⁴ in the number one. -/
def quartersOfOne : Nat := 4 * Binary64.oneUnits

/-- The multiple of `10 ^ exponent` that is nearest to the centre of an interval among its
neighbours inside the interval; of two equally near ones the even one. -/
def onGrid? (interval : Rounding) (exponent : Int) : Option Nat :=
  let up := match exponent with
    | .ofNat _ => 1
    | .negSucc below => Nat.pow 10 (below + 1)
  let step := match exponent with
    | .ofNat above => quartersOfOne * Nat.pow 10 above
    | .negSucc _ => quartersOfOne
  let centre := interval.centre * up
  let floor := centre / step
  let floorInside :=
    interval.lower * up < floor * step || (interval.closed && interval.lower * up = floor * step)
  let ceiling := floor + 1
  let ceilingInside :=
    ceiling * step < interval.upper * up
      || (interval.closed && ceiling * step = interval.upper * up)
  let downward := centre - floor * step
  let upward := ceiling * step - centre
  if floorInside && ceilingInside then
    if downward < upward then some floor
    else if upward < downward then some ceiling
    else some (if floor % 2 = 0 then floor else ceiling)
  else if floorInside then some floor
  else if ceilingInside then some ceiling
  else none

/-- The place of the decimal point of a positive magnitude: the number of digits of its whole
part, or minus the number of zeros that follow the point. -/
def pointOf (interval : Rounding) : Int :=
  (Nat.toDigits 10 (interval.centre * Nat.pow 10 400 / quartersOfOne)).length - 400

/-- The first grid with a point in the interval, from `count` digits on. -/
def firstOnGrid (interval : Rounding) (point : Int) : (tries count : Nat) → Decimal
  | 0, _ => { digits := [], point }
  | tries + 1, count =>
      match onGrid? interval (point - count) with
      | some multiple =>
          let digits := Nat.toDigits 10 multiple
          { digits := trimmed digits, point := point + digits.length - count }
      | none => firstOnGrid interval point tries (count + 1)

/-- The shortest decimal that rounds to a positive magnitude. Seventeen digits always do. -/
def shortest (units : Nat) : Decimal :=
  let interval := Rounding.ofUnits units
  firstOnGrid interval (pointOf interval) 17 1

/-- A decimal written with a decimal point and at least one digit on each side of it. -/
def positional (decimal : Decimal) : List Char :=
  match decimal.point with
  | .negSucc below => ['0', '.'] ++ List.replicate (below + 1) '0' ++ decimal.digits
  | .ofNat 0 => ['0', '.'] ++ decimal.digits
  | .ofNat point =>
      if decimal.digits.length ≤ point then
        decimal.digits ++ List.replicate (point - decimal.digits.length) '0' ++ ['.', '0']
      else
        decimal.digits.take point ++ '.' :: decimal.digits.drop point

/-- A decimal written with one digit in front of the point and a signed power of ten. -/
def scientific (decimal : Decimal) : List Char :=
  let exponent := decimal.point - 1
  let sign := if exponent < 0 then '-' else '+'
  let fraction := match decimal.digits.drop 1 with
    | [] => []
    | digits => '.' :: digits
  decimal.digits.take 1 ++ fraction ++ 'e' :: sign :: Nat.toDigits 10 exponent.natAbs

/-- A decimal from 10⁻⁵ up to 10¹⁶ is written positionally, any other with a power of ten. -/
def write (decimal : Decimal) : List Char :=
  if -5 < decimal.point ∧ decimal.point ≤ 16 then decimal.positional else decimal.scientific

end Decimal

/-- The text of a double: its shortest decimal, behind a minus sign if it carries one. -/
def Binary64.write (value : Binary64) : List Char :=
  let magnitude := if value.units = 0 then ['0', '.', '0'] else (Decimal.shortest value.units).write
  if value.negative then '-' :: magnitude else magnitude

end UsbDescriptors
