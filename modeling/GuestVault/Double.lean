/-!
# Binary floating-point numbers

Numbers with 53 significant bits and a bounded exponent, in exact arithmetic. A decimal number is
rounded to the nearest of them, and a tie goes to the even one.
-/

namespace GuestVault

/-- A floating-point number; a finite one is `mantissa * 2 ^ exponent`. -/
inductive Double where
  | nan
  | infinite (negative : Bool)
  | finite (negative : Bool) (mantissa : Nat) (exponent : Int)
deriving Repr, DecidableEq

namespace Double

/-- The number of significant bits. -/
def precision : Nat := 53

/-- The exponent of the smallest numbers. -/
def minExponent : Int := -1074

/-- The exponent of the largest numbers. -/
def maxExponent : Int := 971

/-- The quotient to the nearest whole number; a tie goes to the even one. -/
def roundDiv (num den : Nat) : Nat :=
  let q := num / den
  let r := num % den
  if den < 2 * r ∨ (2 * r = den ∧ q % 2 = 1) then q + 1 else q

/-- Two numbers whose quotient is `num / den * 2 ^ (-e)`. -/
def scale (num den : Nat) (e : Int) : Nat × Nat :=
  (num * Nat.pow 2 (-e).toNat, den * Nat.pow 2 e.toNat)

/-- The exponent at which a positive quotient has the wanted number of bits. -/
def exponentOf (num den : Nat) : Int :=
  let low : Int := (num.log2 : Int) - den.log2 - precision
  let (n, d) := scale num den low
  max minExponent (if Nat.pow 2 precision ≤ n / d then low + 1 else low)

/-- The number nearest to a quotient. -/
def ofQuotient (negative : Bool) (num den : Nat) : Double :=
  if num = 0 then finite negative 0 0
  else
    let e := exponentOf num den
    let (n, d) := scale num den e
    let m := roundDiv n d
    let (m, e) :=
      if m = Nat.pow 2 precision then (Nat.pow 2 (precision - 1), e + 1) else (m, e)
    if m = 0 then finite negative 0 0
    else if maxExponent < e then infinite negative
    else finite negative m e

/-- Beyond this power of ten every number is too large, and below its inverse every number is
zero. -/
def powerLimit : Int := 400

/-- The number nearest to `digits * 10 ^ power`, where `digits` is the value of `count` digits. -/
def ofDecimal (negative : Bool) (digits count : Nat) (power : Int) : Double :=
  if digits = 0 then finite negative 0 0
  else if powerLimit < count + power then infinite negative
  else if count + power < -powerLimit then finite negative 0 0
  else ofQuotient negative (digits * Nat.pow 10 power.toNat) (Nat.pow 10 (-power).toNat)

/-- Everything but zero. -/
def isNonzero : Double → Bool
  | finite _ m _ => m ≠ 0
  | _ => true

/-- The nearest natural number up to `bound`; halves are rounded up, and what is negative or no
number counts as zero. -/
def toNat (bound : Nat) : Double → Nat
  | nan => 0
  | infinite negative => if negative then 0 else bound
  | finite negative m e =>
    if negative then 0
    else
      let n :=
        if 0 ≤ e then m * Nat.pow 2 e.toNat
        else (m + Nat.pow 2 ((-e).toNat - 1)) / Nat.pow 2 (-e).toNat
      min n bound

end Double

end GuestVault
