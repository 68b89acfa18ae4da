import GuestVault.Time.Moment

/-!
# RFC 3339

The date-time text of a moment. Writing is possible for the years 0 to 9999 and for offsets of
whole minutes below 24 hours; the fraction has no trailing zeros and offset zero is `Z`. Reading
also takes a small `z`, any one-byte separator between date and time, fractions beyond the
nanosecond (cut off), and a 60th second that stands for the last nanosecond of a month in UTC.
-/

namespace GuestVault.Time

open GuestVault.Text

/-- The part of a moment that RFC 3339 has no place for. -/
inductive Rfc3339Fault where
  | year
  | offsetHour
  | offsetSecond
deriving Repr, DecidableEq

/-- The name of the part, as it stands in messages. -/
def Rfc3339Fault.component : Rfc3339Fault → String
  | .year => "year"
  | .offsetHour => "offset_hour"
  | .offsetSecond => "offset_second"

/-- The wording of a fault. -/
def Rfc3339Fault.message (f : Rfc3339Fault) : String :=
  "The " ++ f.component ++ " component cannot be formatted into the requested format."

/-- A list without the elements equal to `x` at its end. -/
def dropTrailing (x : Char) (s : List Char) : List Char :=
  (s.reverse.dropWhile (· == x)).reverse

/-- A fraction of a second: a point and at most nine digits, or nothing. -/
def fractionText (nanos : Nat) : String :=
  if nanos = 0 then "" else "." ++ String.ofList (dropTrailing '0' (padNat 9 nanos).toList)

/-- An offset in hours and minutes. -/
def offsetText (offset : Int) : String :=
  if offset = 0 then "Z"
  else (if offset < 0 then "-" else "+") ++ padNat 2 (offset.natAbs / 3600) ++ ":" ++
    padNat 2 (offset.natAbs / 60 % 60)

/-- The RFC 3339 text of a moment. -/
def Moment.toRfc3339 (m : Moment) : Except Rfc3339Fault String :=
  let d := m.date
  if d.year < 0 || 9999 < d.year then .error .year
  else if 24 ≤ m.offset.natAbs / 3600 then .error .offsetHour
  else if m.offset.natAbs % 60 ≠ 0 then .error .offsetSecond
  else .ok (padInt 4 d.year ++ "-" ++ padNat 2 d.month ++ "-" ++ padNat 2 d.day ++ "T" ++
    padNat 2 m.hour ++ ":" ++ padNat 2 m.minute ++ ":" ++ padNat 2 m.second ++
    fractionText m.nanos ++ offsetText m.offset)

/-! ## Reading -/

/-- Exactly `n` digits, and what follows them. -/
def takeDigits? : Nat → List Char → Option (Nat × List Char)
  | n, s =>
    let ds := s.take n
    if ds.length = n ∧ ds.all (fun c => (digit? c).isSome) then some (digitsValue ds, s.drop n)
    else none

/-- The given character, and what follows it. -/
def takeChar? (c : Char) : List Char → Option (List Char)
  | x :: r => if x = c then some r else none
  | [] => none

/-- An optional fraction, in nanoseconds; a point needs a digit after it. -/
def takeFraction? : List Char → Option (Nat × List Char)
  | '.' :: r =>
    let ds := r.takeWhile fun c => (digit? c).isSome
    if ds.isEmpty then none
    else
      let nine := (ds ++ List.replicate 9 '0').take 9
      some (digitsValue nine, r.drop ds.length)
  | s => some (0, s)

/-- The offset that ends the text, in seconds east of UTC. -/
def takeOffset? : List Char → Option Int
  | ['Z'] => some 0
  | ['z'] => some 0
  | sign :: r => do
    let negative ← if sign = '-' then some true else if sign = '+' then some false else none
    let (h, r) ← takeDigits? 2 r
    let r ← takeChar? ':' r
    let (m, r) ← takeDigits? 2 r
    if r.isEmpty && h ≤ 23 && m ≤ 59 then
      let seconds : Int := (h * 3600 + m * 60 : Nat)
      some (if negative then -seconds else seconds)
    else none
  | [] => none

/-- One character that takes a single byte. -/
def takeSeparator? : List Char → Option (List Char)
  | c :: r => if c.toNat < 128 then some r else none
  | [] => none

/-- The moment is the last nanosecond of a month in UTC, the only one a leap second may follow. -/
def Moment.precedesLeapSecond (m : Moment) : Bool :=
  let utc : Moment := { m with offset := 0 }
  let d := utc.date
  m.nanos == 999999999 && utc.secondOfDay == 86399 && d.day == daysInMonth d.year d.month

/-- The moment that an RFC 3339 text names. -/
def Moment.ofRfc3339? (text : String) : Option Moment := do
  let (year, s) ← takeDigits? 4 text.toList
  let s ← takeChar? '-' s
  let (month, s) ← takeDigits? 2 s
  let s ← takeChar? '-' s
  let (day, s) ← takeDigits? 2 s
  let s ← takeSeparator? s
  let (hour, s) ← takeDigits? 2 s
  let s ← takeChar? ':' s
  let (minute, s) ← takeDigits? 2 s
  let s ← takeChar? ':' s
  let (second, s) ← takeDigits? 2 s
  let (nanos, s) ← takeFraction? s
  let offset ← takeOffset? s
  let date : Date := { year, month, day }
  let leap := second == 60
  let second := if leap then 59 else second
  let nanos := if leap then 999999999 else nanos
  if date.isValid && hour ≤ 23 && minute ≤ 59 && second ≤ 59 then
    let seconds : Int := (hour * 3600 + minute * 60 + second : Nat)
    let m : Moment := { unix := date.toDays * 86400 + seconds - offset, nanos, offset }
    if leap && !m.precedesLeapSecond then none else some m
  else none

end GuestVault.Time
