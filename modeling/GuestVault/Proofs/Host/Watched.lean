import GuestVault.Proofs.Restore.Conduct

/-!
# Watching the commands of a restore

`Host.watched` writes down every command that is started, and what the file that it restores holds at
that time. A restore does the same on a host that is watched (`Restore.run_watched`), so
`Restore.commands` is what a restore starts on any host.
-/

namespace GuestVault

variable {σ τ κ : Type}

/-- The file that a command restores a guest from. -/
def Guest.restoredFile? (command : Command) : Option String :=
  match command.program, command.args with
  | "qmrestore", archive :: _ => some archive
  | "pct", "restore" :: _ :: archive :: _ => some archive
  | _, _ => none

/-- A command that was started, and the data of the file that it restores a guest from, if any. -/
abbrev Started := Command × Option Bytes

/-- The start of a command, when the files of the host are as given. -/
def Started.of (files : String → Option Bytes) (command : Command) : Started :=
  (command, (Guest.restoredFile? command).bind files)

/-- The same host; every command that is started is written down. -/
def Host.watched (files : σ → String → Option Bytes) (host : Host σ κ) :
    Host (σ × List Started) κ :=
  { host.within Prod.fst (fun s t => (s, t.2)) with
    openStream := fun command => fun t =>
      let (result, s) := host.openStream command t.1
      (result, (s, t.2 ++ [.of (files t.1) command])) }

namespace Restore

open Correlator

variable {R : σ → τ → Prop} {host : Host σ κ} {host' : Host τ κ} {guest : Guest σ}
  {guest' : Guest τ} {tree : σ → FileTree} {tree' : τ → FileTree}

variable (settings : RestoreSettings) (store : DirectoryStore)

/-- The commands that a restore starts. -/
def commands (files : σ → String → Option Bytes) (host : Host σ κ) (settings : RestoreSettings)
    (tree : σ → FileTree) (store : DirectoryStore) (s : σ) : List Started :=
  ((run (host.watched files) (Guest.ofHost (host.watched files)) settings (fun t => tree t.1)
    store).run (s, [])).2.2

end Restore

end GuestVault
