import GuestVault.Archive.Kind
import GuestVault.Log

/-!
# Outcomes of a restore

What happened to each record that a restore was fed with.
-/

namespace GuestVault

/-- What happened to one record. -/
inductive Outcome where
  /-- The guest was restored from the staged file; removing that file afterwards may have
  failed. -/
  | restored (kind : Kind) (vmid : Nat) (staged : String) (cleanup : Option Error)
  /-- The record belongs to another guest than the one asked for. -/
  | skipped
  /-- The record is neither an archive nor the metadata of one. -/
  | ignored
  | failed (error : Error)
deriving Repr, DecidableEq

namespace Outcome

/-- The record is to blame, or its guest could not be restored. -/
def isFailure : Outcome → Bool
  | .failed _ => true
  | _ => false

/-- The wording of an outcome. -/
def text : Outcome → String
  | .restored kind vmid _ none => "restored " ++ kind.name ++ " " ++ toString vmid
  | .restored kind vmid _ (some e) =>
    "restored " ++ kind.name ++ " " ++ toString vmid ++ " (cleanup failed: " ++ e.message ++ ")"
  | .skipped => "skipped"
  | .ignored => "ignored"
  | .failed e => "failed: " ++ e.message

end Outcome

/-- A record and what happened to it. -/
structure Resolution where
  pathname : String
  outcome : Outcome
deriving Repr, DecidableEq

/-- The message about a resolution. -/
def Resolution.report (r : Resolution) : LogEntry :=
  match r.outcome with
  | .failed e => { level := .warn, message := "[restore] " ++ r.pathname ++ ": " ++ e.message }
  | o => { level := .info, message := "[restore] " ++ r.pathname ++ ": " ++ o.text }

end GuestVault
