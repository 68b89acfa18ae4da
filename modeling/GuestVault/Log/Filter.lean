import GuestVault.Log
import GuestVault.Text.Blank
import GuestVault.Text.Number
import GuestVault.Text.Part

/-!
# Log filters

Which messages are shown. A filter is a list of directives between commas: a level, a target with a
level, or a target alone. A message has the name of the program as its target; of the directives
whose target its own begins with, the one with the longest target decides, and of those the last.
-/

namespace GuestVault

open GuestVault.Text

/-- One directive of a filter. -/
structure LogDirective where
  /-- What the targets of messages begin with. -/
  target : Option String
  /-- The directive is about a part of a job only, which no message belongs to. -/
  partOnly : Bool := false
  /-- The rank up to which messages are shown. -/
  rank : Nat
deriving Repr, DecidableEq

namespace LogFilter

/-- The rank of the least important level. -/
def all : Nat := LogLevel.trace.rank

/-- Names of levels, and their ranks. -/
def levelNames : List (String × Nat) :=
  [("off", 0), ("error", 1), ("warn", 2), ("info", 3), ("debug", 4), ("trace", 5), ("", 1)]

/-- The rank that a level stands for: by number or by name, in any case. -/
def rank? (s : String) : Option Nat :=
  match readNumber all s.toList with
  | .ok n => some n
  | .error _ => levelNames.lookup (String.ofList (s.toList.map Char.toLower))

/-- The rank after an equals sign; nothing there means everything. -/
def rankAfter? (s : List Char) : Option Nat :=
  if s.isEmpty then some all else rank? (String.ofList s)

/-- The character can begin a directive. -/
def canBegin (c : Char) : Bool :=
  c.isAlphanum || c = '-' || c = ':' || c = '_' || c = '[' || c.toNat ≥ 0x80

/-- Reads a directive. -/
def directive? (s : String) : Option LogDirective :=
  match (trim s).toList with
  | [] => none
  | c :: _ =>
    if canBegin c then
      let front := s.toList.takeWhile fun c => c ≠ '=' && c ≠ '['
      let target := String.ofList front
      match s.toList.drop front.length with
      | '=' :: level => (rankAfter? level).map fun rank => { target := some target, rank }
      | '[' :: rest =>
        match (rest.dropWhile (· ≠ ']')) with
        | [']'] => some { target := some target, partOnly := true, rank := all }
        | ']' :: '=' :: level =>
          (rankAfter? level).map fun rank => { target := some target, partOnly := true, rank }
        | _ => none
      | _ =>
        match rank? s with
        | some rank => some { target := none, rank }
        | none => some { target := some s, rank := all }
    else none

/-- The directives of a filter. -/
def directives? (s : String) : Option (List LogDirective) :=
  ((segments (· = ',') s.toList).filter (· ≠ [])).mapM fun d => directive? (String.ofList d)

/-- How long the target of a directive is, if it applies to the messages of a program. -/
def weight? (program : String) (d : LogDirective) : Option Nat :=
  match d.target with
  | none => some 0
  | some t =>
    if d.partOnly = false ∧ (dropFront? t.toList program.toList).isSome then some (t.length + 1)
    else none

/-- The rank that the directives lead to; the best weight so far decides. -/
def settle (program : String) : (weight rank : Nat) → List LogDirective → Nat
  | _, rank, [] => rank
  | weight, rank, d :: ds =>
    match weight? program d with
    | some w => if weight ≤ w then settle program w d.rank ds else settle program weight rank ds
    | none => settle program weight rank ds

/-- The rank up to which a filter shows the messages of a program. A filter without directives shows
errors only; none at all, or one that cannot be read, leaves the usual rank. -/
def rankFor (program : String) (usual : Nat) (filter : Option String) : Nat :=
  match filter.bind directives? with
  | none => usual
  | some [] => LogLevel.error.rank
  | some ds => settle program 0 0 ds

end LogFilter

end GuestVault
