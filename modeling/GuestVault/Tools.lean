import GuestVault.Backup.Capture
import GuestVault.Cluster.Api
import GuestVault.Guest

/-!
# Tools

The programs that a job needs on its host. One command asks for all of them at once, before the
job starts.
-/

namespace GuestVault

open GuestVault.Text

/-- What a job is going to do. -/
inductive Need where
  | inventory
  | backup
  | restore
deriving Repr, DecidableEq

/-- The programs for it, in ascending order. -/
def Need.programs (n : Need) : List String :=
  (ClusterApi.programs ++ match n with
    | .inventory => []
    | .backup => Capture.programs
    | .restore => Guest.programs).mergeSort (· ≤ ·)

namespace Tools

/-- Prints those of its arguments that are no programs. -/
def probeScript : String :=
  "for b in \"$@\"; do command -v \"$b\" >/dev/null 2>&1 || echo \"$b\"; done"

/-- The command that prints those of the programs that are missing. -/
def probe (programs : List String) : Command :=
  { program := "sh", args := ["-c", probeScript, "sh"] ++ programs }

/-- The programs that the probe printed. -/
def missing (stdout : String) : List String :=
  ((lines stdout).map trim).filter (· ≠ "")

variable {σ κ : Type} (host : Host σ κ)

/-- Fails unless all the programs are there. -/
def ensure (programs : List String) : Action σ Failure Unit := do
  let output ← (host.run (probe programs)).mapError fun e =>
    .context "probe required binaries" (.error e)
  match missing output.stdout with
  | [] => pure ()
  | names =>
    throw (.text ("missing required binaries in PATH: " ++ ", ".intercalate names))

end Tools

end GuestVault
