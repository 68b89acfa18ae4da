import GuestVault.Restore.Correlator
import GuestVault.Store.Directory

/-!
# Restore jobs

All records of a directory store are fed to a correlator, in the order of their names, and each is
opened only when its turn comes. In the end every half without a partner fails.
-/

namespace GuestVault.Restore

variable {σ κ : Type} (host : Host σ κ) (guest : Guest σ) (settings : RestoreSettings)
  (tree : σ → FileTree) (store : DirectoryStore)

/-- Leaves a message. -/
def say (e : LogEntry) : StateM σ Unit :=
  host.note e.level e.message

/-- Leaves several messages, in order. -/
def sayAll : List LogEntry → StateM σ Unit
  | [] => pure ()
  | e :: rest => do
    say host e
    sayAll rest

/-- Feeds the records of the given names. -/
def feedNames : List String → Correlator Script →
    Action σ Failure (List Resolution × Correlator Script)
  | [], c => pure ([], c)
  | name :: rest, c => do
    let record ← Action.ofExcept (inContext "read store record" (store.record name (tree (← get))))
    say host { level := .debug, message := "[restore] record " ++ record.pathname }
    let (resolved, c) ← c.feed host guest settings record
    sayAll host (resolved.map Resolution.report)
    say host { level := .debug
               message := "[restore] " ++ toString c.pending ++ " record(s) waiting for a partner" }
    let (more, c) ← feedNames rest c
    return (resolved ++ more, c)

/-- Ends the job. -/
def finish (c : Correlator Script) : StateM σ (List Resolution) := do
  sayAll host (c.join.orphans.map Correlator.orphanReport)
  sayAll host (c.finish.map Resolution.report)
  return c.finish

/-- Restores all that a store holds; gives one resolution for each record. -/
def run : Action σ Failure (List Resolution) := do
  let names ← Action.ofExcept (store.names (tree (← get)))
  let (resolved, c) ← feedNames host guest settings tree store names {}
  return resolved ++ (← finish host c)

end GuestVault.Restore
