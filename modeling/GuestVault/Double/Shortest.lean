import GuestVault.Double

/-!
# The shortest text of a floating-point number

A number is written with the fewest digits that read back as itself; of two such decimals the nearer
one is taken. There is never an exponent, and a whole number has no point.
-/

namespace GuestVault.Double

/-- Numbers in units of a quarter of the last place: the number itself, and the ends of the interval
of all that is rounded to it. -/
structure Interval where
  low : Nat
  value : Nat
  high : Nat
  /-- The ends are rounded to the number too. -/
  closed : Bool
  /-- The unit is `unitNum / unitDen`. -/
  unitNum : Nat
  unitDen : Nat
deriving Repr

/-- The interval around a positive number. Below a power of two the numbers are twice as dense. -/
def intervalOf (m : Nat) (e : Int) : Interval where
  low := if m = Nat.pow 2 (precision - 1) ∧ minExponent < e then 4 * m - 1 else 4 * m - 2
  value := 4 * m
  high := 4 * m + 2
  closed := m % 2 = 0
  unitNum := Nat.pow 2 (e - 2).toNat
  unitDen := Nat.pow 2 (2 - e).toNat

/-- The number of digits of a natural number. -/
def digitCount (n : Nat) : Nat := (toString n).length

/-- The power of ten of the first digit of a positive quotient. -/
def leadingPower (num den : Nat) : Int :=
  if den ≤ num then (digitCount (num / den) : Int) - 1
  else -(digitCount ((den + num - 1) / num - 1) : Int)

/-- A decimal `digits * 10 ^ power`. -/
structure Decimal where
  digits : Nat
  power : Int
deriving Repr, DecidableEq

/-- The sizes of a decimal and of a number of units, over a common denominator. -/
def compareParts (i : Interval) (d : Decimal) (units : Nat) : Nat × Nat :=
  (d.digits * Nat.pow 10 d.power.toNat * i.unitDen,
    units * i.unitNum * Nat.pow 10 (-d.power).toNat)

/-- The decimal reads back as the number of the interval. -/
def Interval.holds (i : Interval) (d : Decimal) : Bool :=
  let (x, low) := compareParts i d i.low
  let (_, high) := compareParts i d i.high
  if i.closed then low ≤ x && x ≤ high else low < x && x < high

/-- The distance of a decimal from the number of the interval, over a common denominator. -/
def Interval.distance (i : Interval) (d : Decimal) : Nat :=
  let (x, v) := compareParts i d i.value
  (x - v) + (v - x)

/-- The best decimal whose last digit stands for `10 ^ power`, if one reads back. -/
def onGrid? (i : Interval) (power : Int) : Option Decimal :=
  let num := i.value * i.unitNum * Nat.pow 10 (-power).toNat
  let den := i.unitDen * Nat.pow 10 power.toNat
  let below : Decimal := { digits := num / den, power }
  let above : Decimal := { digits := num / den + 1, power }
  match i.holds below, i.holds above with
  | true, true => some (if i.distance above < i.distance below then above else below)
  | true, false => some below
  | false, true => some above
  | false, false => none

/-- The first decimal that reads back on ever finer grids. -/
def search (i : Interval) : Nat → Int → Decimal
  | 0, power => { digits := i.value * i.unitNum / i.unitDen, power }
  | fuel + 1, power =>
    match onGrid? i power with
    | some d => d
    | none => search i fuel (power - 1)

/-- The same decimal without the zero that rounding up to a power of ten leaves at its end. -/
def Decimal.reduce (d : Decimal) : Decimal :=
  if d.digits % 10 = 0 ∧ d.power < 0 then { digits := d.digits / 10, power := d.power + 1 } else d

/-- The digits of a decimal, without an exponent. -/
def Decimal.text (d : Decimal) : String :=
  let ds := (toString d.digits).toList
  if 0 ≤ d.power then String.ofList (ds ++ List.replicate d.power.toNat '0')
  else
    let places := (-d.power).toNat
    let padded := List.replicate (places + 1 - ds.length) '0' ++ ds
    let whole := padded.take (padded.length - places)
    String.ofList (whole ++ '.' :: padded.drop (padded.length - places))

/-- The text of a number. -/
def text : Double → String
  | nan => "NaN"
  | infinite negative => if negative then "-inf" else "inf"
  | finite negative m e =>
    let sign := if negative then "-" else ""
    if m = 0 then sign ++ "0"
    else
      let i := intervalOf m e
      sign ++ (search i 20 (leadingPower (i.value * i.unitNum) i.unitDen)).reduce.text

end GuestVault.Double
