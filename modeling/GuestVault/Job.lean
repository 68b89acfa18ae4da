import GuestVault.Cluster.Selection
import GuestVault.Remote.Unreachable
import GuestVault.Report
import GuestVault.Restore.Job
import GuestVault.Tools

/-!
# Jobs

What the program can be asked to do. A job works on the host of its settings, with a directory store
on the machine that the program runs on, and ends with a table. The host is released whatever the
result; a job some of whose guests or records failed shows its table and fails after it.
-/

namespace GuestVault

/-- What the program is asked to do. -/
inductive Job where
  /-- Captures guests into a store. -/
  | backup (target : String) (vmid : Option Nat) (pool : Option String) (all : Bool)
  /-- Restores the guests of a store. -/
  | restore (source : String) (vmid : Option Nat)
  /-- Shows the guests of the cluster or of a pool. -/
  | list (pool : Option String)
  /-- Checks that the cluster answers. -/
  | ping
deriving Repr, DecidableEq

namespace Job

/-- A step of a job. -/
abbrev Step (α : Type) := Action LocalHost Failure α

/-- A step that never fails. -/
def always {α : Type} (act : StateM LocalHost α) : Step α :=
  fun h => ((.ok (act h).1), (act h).2)

/-- Changes the files of the machine. -/
def onTree {α : Type} (act : FileTree → Except Failure (α × FileTree)) : Step α := fun h =>
  match act h.tree with
  | .ok (a, tree) => (.ok a, { h with tree })
  | .error f => (.error f, h)

variable (settings : Settings)

/-- The host of the settings. -/
abbrev host : Host LocalHost OutputFile := settings.connection.host

/-- Does something on the host and releases it; gives the result. -/
def closing {α : Type} (act : Step α) : Step (Except Failure α) := do
  let result ← act.attempt
  match ← (host settings).close.attempt with
  | .ok () => pure ()
  | .error e => (host settings).note .debug ("close runner: " ++ e.message)
  return result

/-- A store as a sink that mentions what it stores. -/
def storeSink (store : DirectoryStore) : RecordSink LocalHost where
  put pathname reader := fun h =>
    let ((stored, reader), tree) := store.put pathname reader h.tree
    let h := { h with tree }
    match stored with
    | .ok count =>
      let target := store.path (Text.basename pathname)
      let ((), h) := LocalHost.note .debug
        ("stored " ++ target ++ " (" ++ toString count ++ " bytes)") h
      ((stored, reader), h)
    | .error _ => ((stored, reader), h)

/-- Shows a table, or a remark in place of one. -/
def showTable (remark : String) : Option Table → StateM LocalHost Unit
  | some table => LocalHost.print table.render
  | none => LocalHost.note .info remark

/-- Fails if something failed before. -/
def failIfAny (job what : String) (count : Nat) : Step Unit :=
  if count = 0 then pure ()
  else throw (.text (job ++ " finished with " ++ toString count ++ " failed " ++ what))

/-- An empty inventory of the cluster. -/
def inventory : Inventory := { node := settings.backup.node }

/-- The interface of the cluster. -/
def api : ClusterApi LocalHost := ClusterApi.ofHost (host settings)

/-- Captures guests into a store. -/
def runBackup (target : String) (vmid : Option Nat) (pool : Option String) (all : Bool) : Step Unit := do
  let selection ← Action.ofExcept (Selection.ofParts vmid pool all)
  let store ← onTree (DirectoryStore.open? target)
  let result ← closing settings do
    Tools.ensure (host settings) Need.backup.programs
    let (machines, _) ← always (selection.resolve (api settings) (inventory settings) 0)
    let machines ← Action.ofExcept machines
    (host settings).note .info
      ("[backup] " ++ toString machines.length ++ " guest(s) -> " ++ store.root)
    always (Backup.run (host settings) (storeSink store) settings machines)
  let stored ← Action.ofExcept result
  always (LocalHost.print (Report.backup stored).render)
  failIfAny "backup" "guest(s)" (stored.filter fun s => !s.outcome.isOk).length

/-- Restores the guests of a store. -/
def runRestore (source : String) (vmid : Option Nat) : Step Unit := do
  unless (← get).tree.isDirectory (.ofText source) do
    throw (.text ("store " ++ source ++ " is not a directory"))
  let store ← onTree (DirectoryStore.open? source)
  let wanted := { settings.restore with vmid := vmid <|> settings.restore.vmid }
  let result ← closing settings do
    Tools.ensure (host settings) Need.restore.programs
    (host settings).note .info
      ("[restore] from " ++ store.root ++ " via staging " ++ wanted.stagingDir)
    Restore.run (host settings) (Guest.ofHost (host settings)) wanted LocalHost.tree store
  let resolutions ← Action.ofExcept result
  always (showTable "<no records>" (Report.restore resolutions))
  failIfAny "restore" "record(s)" (resolutions.filter fun r => r.outcome.isFailure).length

/-- Shows guests. -/
def runList (pool : Option String) : Step Unit := do
  let result ← closing settings do
    Tools.ensure (host settings) Need.inventory.programs
    match pool with
    | some name => (inventory settings).listPool (api settings) name
    | none =>
      let (machines, _) ← always ((inventory settings).listAll (api settings) 0)
      Action.ofExcept machines
  let machines ← Action.ofExcept result
  always (showTable "<no guests>" (Report.machines machines))

/-- Asks the cluster for its version. The answer is only looked at if it is going to be shown. -/
def runPing : Step Unit := do
  let result ← closing settings do
    Tools.ensure (host settings) Need.inventory.programs
    (api settings).version
  if LogLevel.info.rank ≤ (← get).verbosity then
    let version ← Action.ofExcept result
    (host settings).note .info (settings.origin ++ ": Proxmox VE " ++ version)

/-- Does a job. -/
def run : Job → Step Unit
  | .backup target vmid pool all => runBackup settings target vmid pool all
  | .restore source vmid => runRestore settings source vmid
  | .list pool => runList settings pool
  | .ping => runPing settings

end Job

end GuestVault
