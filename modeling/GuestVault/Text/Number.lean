/-!
# Decimal numbers in text

Writing natural numbers with a fixed number of places, and reading unsigned numbers that must not
exceed a bound. Reading goes from left to right and reports the first thing that is wrong: of an
over-long number that also holds a foreign character, whichever comes first.
-/

namespace GuestVault.Text

/-- Why a text is no unsigned number of the wanted size. -/
inductive NumberFault where
  | empty
  | invalidDigit
  | tooLarge
deriving Repr, DecidableEq

/-- The wording of a fault. -/
def NumberFault.message : NumberFault → String
  | .empty => "cannot parse integer from empty string"
  | .invalidDigit => "invalid digit found in string"
  | .tooLarge => "number too large to fit in target type"

/-- The largest 32-bit number. -/
def maxWord32 : Nat := Nat.pow 2 32 - 1

/-- The largest 64-bit number. -/
def maxWord64 : Nat := Nat.pow 2 64 - 1

/-- The value of an ASCII digit. -/
def digit? (c : Char) : Option Nat :=
  if '0' ≤ c && c ≤ '9' then some (c.toNat - '0'.toNat) else none

/-- Reads further digits onto `acc`, as long as the value stays within `bound`. -/
def readDigits (bound : Nat) : Nat → List Char → Except NumberFault Nat
  | acc, [] => .ok acc
  | acc, c :: r =>
    match digit? c with
    | none => .error .invalidDigit
    | some d => if acc * 10 + d ≤ bound then readDigits bound (acc * 10 + d) r else .error .tooLarge

/-- Reads an unsigned number of at most `bound`; one plus sign may precede the digits. -/
def readNumber (bound : Nat) : List Char → Except NumberFault Nat
  | [] => .error .empty
  | ['+'] => .error .invalidDigit
  | '+' :: r => readDigits bound 0 r
  | s => readDigits bound 0 s

/-- The value of a digit run without any bound; other characters count as zero digits. -/
def digitsValue (s : List Char) : Nat :=
  s.foldl (fun acc c => acc * 10 + (digit? c).getD 0) 0

/-- A number with at least `places` digits, zeros first. -/
def padNat (places n : Nat) : String :=
  let s := toString n
  String.ofList (List.replicate (places - s.length) '0') ++ s

/-- A number with at least `places` digits and a minus sign when negative. -/
def padInt (places : Nat) (n : Int) : String :=
  if n < 0 then "-" ++ padNat places n.natAbs else padNat places n.natAbs

end GuestVault.Text
