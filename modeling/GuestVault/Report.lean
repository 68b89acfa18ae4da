import GuestVault.Backup.Job
import GuestVault.Report.Table
import GuestVault.Restore.Outcome

/-!
# Reports

The tables that a job ends with. An empty list of guests or records has no table.
-/

namespace GuestVault

namespace Report

/-- The guests of a cluster. -/
def machines (ms : List Machine) : Option Table :=
  if ms = [] then none
  else some {
    head := ["VMID", "Type", "Node"]
    rows := ms.map fun m => [toString m.vmid, m.kind.name, m.node.getD "-"] }

/-- What became of each guest in a backup. -/
def backup (stored : List Stored) : Table :=
  { head := ["Guest", "Archive", "Bytes"]
    rows := stored.map fun s =>
      match s.outcome with
      | .ok (archive, count) => [s.machine.label, archive, toString count]
      | .error f => [s.machine.label, "FAILED: " ++ f.message, "-"] }

/-- What became of each record in a restore. -/
def restore (resolutions : List Resolution) : Option Table :=
  if resolutions = [] then none
  else some {
    head := ["Record", "Result", "Staged as"]
    rows := resolutions.map fun r =>
      let staged := match r.outcome with
        | .restored _ _ staged _ => staged
        | _ => "-"
      [r.pathname, r.outcome.text, staged] }

end Report

end GuestVault
