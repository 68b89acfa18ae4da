/-!
# Joining pairs

Two kinds of halves arrive in any order, each under a key. The first half of a key waits; the
other kind of half completes it, and a second one of the same kind is handed back. The waiting
halves are kept in ascending order of their keys.
-/

namespace GuestVault

/-- A half of either kind. -/
inductive Side (α β : Type) where
  | left (a : α)
  | right (b : β)
deriving Repr, DecidableEq

/-- What becomes of a half that is offered. -/
inductive Offer (α β : Type) where
  | waiting
  | complete (a : α) (b : β)
  | duplicate (half : Side α β)
deriving Repr, DecidableEq

/-- The halves that wait, in ascending order of their keys. -/
structure PairJoin (α β : Type) (κ : Type := String) where
  entries : List (κ × Side α β) := []
deriving Repr

namespace PairJoin

variable {α β κ : Type}

/-- The number of halves that wait. -/
def size (j : PairJoin α β κ) : Nat :=
  j.entries.length

/-- The halves that never found a partner, in ascending order of their keys. -/
def orphans (j : PairJoin α β κ) : List (κ × Side α β) :=
  j.entries

variable [DecidableEq κ]

/-- The half that waits under a key. -/
def get? (j : PairJoin α β κ) (key : κ) : Option (Side α β) :=
  j.entries.lookup key

/-- Removes what waits under a key. -/
def erase (j : PairJoin α β κ) (key : κ) : PairJoin α β κ :=
  { entries := j.entries.filter (·.1 ≠ key) }

/-- Removes and returns what waits under a key. -/
def take (j : PairJoin α β κ) (key : κ) : Option (Side α β) × PairJoin α β κ :=
  (j.get? key, j.erase key)

variable [LT κ] [DecidableLT κ]

/-- The entries with one more, in order. -/
def insertEntry (key : κ) (half : Side α β) : List (κ × Side α β) → List (κ × Side α β)
  | [] => [(key, half)]
  | (k, h) :: r =>
    if key < k then (key, half) :: (k, h) :: r
    else if key = k then (key, half) :: r
    else (k, h) :: insertEntry key half r

/-- Lets a half wait under a key. -/
def insert (j : PairJoin α β κ) (key : κ) (half : Side α β) : PairJoin α β κ :=
  { entries := insertEntry key half j.entries }

/-- Offers a half under a key. -/
def offer (j : PairJoin α β κ) (key : κ) (half : Side α β) : Offer α β × PairJoin α β κ :=
  match j.get? key, half with
  | none, half => (.waiting, j.insert key half)
  | some (.left a), .right b => (.complete a b, j.erase key)
  | some (.right b), .left a => (.complete a b, j.erase key)
  | some (.left _), .left a => (.duplicate (.left a), j)
  | some (.right _), .right b => (.duplicate (.right b), j)

end PairJoin

end GuestVault
