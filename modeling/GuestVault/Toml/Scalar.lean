import GuestVault.Json.Reader
import GuestVault.Time.Rfc3339
import GuestVault.Toml.Value

/-!
# TOML scalars

Numbers, truth values, dates and times: everything that is written without quotes. Integers have 64
bits, and no number has zeros in front.
-/

namespace GuestVault.Toml

open GuestVault.Text GuestVault.Time

/-! ## Numbers -/

/-- A run of digits in which single underscores may stand between two of them. -/
def digitRun? (value? : Char → Option Nat) : List Char → Option (List Nat)
  | [] => none
  | [c] => (value? c).map ([·])
  | c :: '_' :: r => do
    let d ← value? c
    (digitRun? value? r).map (d :: ·)
  | c :: d :: r => do
    let x ← value? c
    (digitRun? value? (d :: r)).map (x :: ·)

/-- The value of digits in a base. -/
def baseValue (base : Nat) (ds : List Nat) : Nat :=
  ds.foldl (fun acc d => acc * base + d) 0

/-- The value of a digit below a base of at most ten. -/
def digitBelow? (base : Nat) (c : Char) : Option Nat :=
  (digit? c).filter (· < base)

/-- Decimal digits without zeros in front. -/
def wholeRun? (s : List Char) : Option (List Nat) :=
  match digitRun? digit? s with
  | some (0 :: _ :: _) => none
  | ds => ds

/-- The sign in front: whether it is a minus, and the rest. -/
def takeSign : List Char → Bool × List Char
  | '-' :: r => (true, r)
  | '+' :: r => (false, r)
  | s => (false, s)

/-- An integer, with its base in front of the digits unless it is ten. -/
def wholeNumber? (s : List Char) : Option Int :=
  match s with
  | '0' :: 'x' :: r => (digitRun? Json.hexValue? r).map fun ds => baseValue 16 ds
  | '0' :: 'o' :: r => (digitRun? (digitBelow? 8) r).map fun ds => baseValue 8 ds
  | '0' :: 'b' :: r => (digitRun? (digitBelow? 2) r).map fun ds => baseValue 2 ds
  | s =>
    let (negative, r) := takeSign s
    (wholeRun? r).map fun ds =>
      if negative then -(baseValue 10 ds : Int) else baseValue 10 ds

/-- An integer of 64 bits. -/
def integer? (s : List Char) : Option Int :=
  (wholeNumber? s).filter fun n => -(Int.pow 2 63) ≤ n ∧ n < Int.pow 2 63

/-- An exponent with its sign. -/
def exponent? (s : List Char) : Option Int :=
  let (negative, r) := takeSign s
  (digitRun? digit? r).map fun ds =>
    if negative then -(baseValue 10 ds : Int) else baseValue 10 ds

/-- A number with a fraction, an exponent, or both; it must not be too large. -/
def decimal? (s : List Char) : Option Double := do
  let (negative, r) := takeSign s
  let isMark (c : Char) : Bool := c = 'e' || c = 'E'
  let digits := r.takeWhile fun c => !isMark c
  let power ← match r.dropWhile fun c => !isMark c with
    | [] => some 0
    | _ :: e => exponent? e
  let whole ← wholeRun? (digits.takeWhile (· ≠ '.'))
  let fraction ← match digits.dropWhile (· ≠ '.') with
    | [] => if digits.length = r.length then none else some []
    | _ :: f => digitRun? digit? f
  let ds := whole ++ fraction
  match Double.ofDecimal negative (baseValue 10 ds) ds.length (power - fraction.length) with
  | .infinite _ => none
  | x => some x

/-- The words for what is no decimal. -/
def special? (s : List Char) : Option Double :=
  let (negative, r) := takeSign s
  if r = ['i', 'n', 'f'] then some (.infinite negative)
  else if r = ['n', 'a', 'n'] then some .nan
  else none

/-! ## Dates and times -/

/-- A date, its text, and what follows it. -/
def date? (s : List Char) : Option (String × List Char) := do
  let (year, s) ← takeDigits? 4 s
  let s ← takeChar? '-' s
  let (month, s) ← takeDigits? 2 s
  let s ← takeChar? '-' s
  let (day, s) ← takeDigits? 2 s
  if ({ year, month, day : Date }).isValid then
    some (padNat 4 year ++ "-" ++ padNat 2 month ++ "-" ++ padNat 2 day, s)
  else none

/-- The normal text of a fraction of a second; one that is written stays. -/
def fractionOf (s rest : List Char) (nanos : Nat) : String :=
  if s.length = rest.length then ""
  else
    match dropTrailing '0' (padNat 9 nanos).toList with
    | [] => ".0"
    | ds => "." ++ String.ofList ds

/-- The seconds of a time, which may be missing. -/
def seconds? (s : List Char) : Option (String × List Char) :=
  match s with
  | ':' :: s => do
    let (second, s) ← takeDigits? 2 s
    let (nanos, rest) ← takeFraction? s
    if second ≤ 60 then some (":" ++ padNat 2 second ++ fractionOf s rest nanos, rest) else none
  | s => some ("", s)

/-- A time of day, its text, and what follows it. -/
def time? (s : List Char) : Option (String × List Char) := do
  let (hour, s) ← takeDigits? 2 s
  let s ← takeChar? ':' s
  let (minute, s) ← takeDigits? 2 s
  let (seconds, s) ← seconds? s
  if hour ≤ 23 ∧ minute ≤ 59 then some (padNat 2 hour ++ ":" ++ padNat 2 minute ++ seconds, s)
  else none

/-- The text of an offset, which may be missing. -/
def zone? : List Char → Option String
  | [] => some ""
  | s => do
    let offset ← takeOffset? s
    if s.length = 1 then some "Z"
    else if offset = 0 then some "+00:00"
    else some (offsetText offset)

/-- A date, a time, or both. -/
def moment? (s : List Char) : Option String :=
  match date? s with
  | some (date, []) => some date
  | some (date, mark :: s) => do
    if mark = 'T' ∨ mark = 't' ∨ mark = ' ' then
      let (time, s) ← time? s
      some (date ++ "T" ++ time ++ (← zone? s))
    else none
  | none =>
    match time? s with
    | some (time, []) => some time
    | _ => none

/-! ## Scalars -/

/-- The value of a text without quotes. -/
def scalar? (s : List Char) : Option Toml :=
  if s = ['t', 'r', 'u', 'e'] then some (boolean true)
  else if s = ['f', 'a', 'l', 's', 'e'] then some (boolean false)
  else
    ((integer? s).map integer) <|> ((decimal? s).map real) <|> ((special? s).map real) <|>
      ((moment? s).map moment)

/-- The character can be part of a scalar. -/
def isScalarChar (c : Char) : Bool :=
  ('a' ≤ c && c ≤ 'z') || ('A' ≤ c && c ≤ 'Z') || ('0' ≤ c && c ≤ '9') ||
    c = '+' || c = '-' || c = '_' || c = '.' || c = ':'

/-- The scalar in front, and what follows it. A blank between a date and a time belongs to it. -/
def takeScalar (s : List Char) : List Char × List Char :=
  let front := s.takeWhile isScalarChar
  let rest := s.dropWhile isScalarChar
  match date? front, rest with
  | some (_, []), ' ' :: c :: r =>
    if (digit? c).isSome then
      (front ++ ' ' :: (c :: r).takeWhile isScalarChar, (c :: r).dropWhile isScalarChar)
    else (front, rest)
  | _, _ => (front, rest)

end GuestVault.Toml
