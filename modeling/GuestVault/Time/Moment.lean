import GuestVault.Text.Number
import GuestVault.Time.Calendar

/-!
# Moments

An instant with the offset of the clock that showed it, the date and time of day on that clock,
and the stamp that archive names carry.
-/

namespace GuestVault.Time

open GuestVault.Text

/-- An instant, to the nanosecond, as shown by a clock that runs `offset` seconds ahead of UTC. -/
structure Moment where
  /-- Whole seconds since 1970-01-01T00:00:00 UTC. -/
  unix : Int
  nanos : Nat
  /-- Seconds east of UTC. -/
  offset : Int
deriving Repr, DecidableEq

/-- What stands in the way of a moment. -/
inductive MomentFault where
  /-- The second lies outside the years that can be written. -/
  | unix
  /-- There are at most 999999999 nanoseconds to a second. -/
  | nanos
  /-- Clocks differ from UTC by less than 26 hours. -/
  | offset
  /-- The local date lies outside the years that can be written. -/
  | range
deriving Repr, DecidableEq

/-- The first second of the year -9999. -/
def minSecond : Int := -377705116800

/-- The last second of the year 9999. -/
def maxSecond : Int := 253402300799

/-- The moment with the given parts, if there is one. -/
def Moment.ofParts (unix : Int) (nanos : Nat) (offset : Int) : Except MomentFault Moment :=
  if unix < minSecond || maxSecond < unix then .error .unix
  else if 999999999 < nanos then .error .nanos
  else if 93599 < offset.natAbs then .error .offset
  else if unix + offset < minSecond || maxSecond < unix + offset then .error .range
  else .ok { unix, nanos, offset }

/-- Two moments are the same instant, whatever clocks showed them. -/
def Moment.sameInstant (a b : Moment) : Bool :=
  a.unix == b.unix && a.nanos == b.nanos

/-- Seconds since 1970-01-01T00:00:00 on the local clock. -/
def Moment.localSecond (m : Moment) : Int := m.unix + m.offset

/-- The local date. -/
def Moment.date (m : Moment) : Date := .ofDays (m.localSecond / 86400)

/-- Seconds since local midnight. -/
def Moment.secondOfDay (m : Moment) : Nat := (m.localSecond % 86400).toNat

/-- The hour of the local clock. -/
def Moment.hour (m : Moment) : Nat := m.secondOfDay / 3600

/-- The minute of the local clock. -/
def Moment.minute (m : Moment) : Nat := m.secondOfDay / 60 % 60

/-- The second of the local clock. -/
def Moment.second (m : Moment) : Nat := m.secondOfDay % 60

/-- The stamp of an archive name: local year, month, day, hour, minute and second, the year with
at least four digits and a minus sign before negative ones. -/
def Moment.stamp (m : Moment) : String :=
  padInt 4 m.date.year ++ "_" ++ padNat 2 m.date.month ++ "_" ++ padNat 2 m.date.day ++ "-" ++
    padNat 2 m.hour ++ "_" ++ padNat 2 m.minute ++ "_" ++ padNat 2 m.second

end GuestVault.Time
