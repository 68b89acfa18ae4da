import GuestVault.Shell.Pattern

/-!
# Fields

A word becomes any number of fields. What an expansion gives is split at separators unless it was
quoted; a quoted part makes a field even when it is empty.
-/

namespace GuestVault.Shell

/-- What a part of a word gives. -/
inductive Piece where
  /-- A text that stays together. -/
  | text (marked : List Marked)
  /-- A text that is split at separators. -/
  | split (text : Octets)
  /-- The end of a field. -/
  | next
deriving Repr, DecidableEq

/-- The fields so far, the last one first, and the one that is being made, its last octet first. -/
structure Fields where
  complete : List (List Marked) := []
  current : Option (List Marked) := none
  /-- A blank separator ended the last field, and another separator may still belong to it. -/
  afterBlank : Bool := false
deriving Repr

namespace Fields

/-- Ends the field that is being made. -/
def close (f : Fields) (blank : Bool) : Fields :=
  match f.current with
  | some field => { complete := field.reverse :: f.complete, afterBlank := blank }
  | none => f

/-- Adds to the field that is being made. -/
def add (f : Fields) (text : List Marked) : Fields :=
  { f with current := some (text.reverse ++ f.current.getD []), afterBlank := false }

/-- The separator is a blank: it never makes an empty field. -/
def isBlankSeparator (c : Char) : Bool :=
  c = ' ' || c = '\t' || c = '\n'

/-- Adds a text that is split. -/
def addSplit (separators : Octets) (f : Fields) (text : Octets) : Fields :=
  text.foldl (fun f c =>
    if c ∈ separators then
      if isBlankSeparator c then f.close true
      else if f.current.isSome then f.close false
      else if f.afterBlank then { f with afterBlank := false }
      else { f with complete := [] :: f.complete }
    else f.add [(c, false)]) f

/-- The fields that pieces make. -/
def ofPieces (separators : Octets) (pieces : List Piece) : List (List Marked) :=
  let f := pieces.foldl (fun f p =>
    match p with
    | .text text => f.add text
    | .split text => f.addSplit separators text
    | .next => f.close false) ({} : Fields)
  (f.close false).complete.reverse

/-- The pieces as one text, with a blank between fields. -/
def joined (pieces : List Piece) : List Marked :=
  pieces.flatMap fun
    | .text text => text
    | .split text => mark false text
    | .next => [(' ', false)]

end Fields

end GuestVault.Shell
