import GuestVault.Archive.Metadata
import GuestVault.Archive.Sidecar
import GuestVault.Backup.Capture
import GuestVault.Record

/-!
# Backup jobs

Every guest is captured into a store, one after the other, and its metadata is stored beside the
archive once all of the archive is safe and the dump tool has ended well. What fails for one guest
does not keep the others from being backed up.
-/

namespace GuestVault

/-- What became of one guest: the name and the size of its archive, or why there is none. -/
structure Stored where
  machine : Machine
  outcome : Except Failure (String × Nat)
deriving Repr

namespace Backup

variable {σ κ : Type} (host : Host σ κ) (sink : RecordSink σ) (settings : Settings)

/-- Stores a record; gives the reader back. -/
def put {ρ : Type} [ByteSource ρ] (pathname : String) (reader : ρ) :
    StateM σ (Except Failure Nat × ρ) :=
  sink.put pathname reader

/-- What becomes of an archive that the store has answered about: the dump tool is ended, that is,
waited for after a success and killed after a failure. Gives the number of stored bytes. -/
def account (machine : Machine) (archive : String) (stored : Except Failure Nat)
    (reader : ArchiveReader) : Action σ Failure Nat := do
  let (closed, reader) := match stored with
    | .ok _ => reader.close
    | .error _ => reader.abort
  host.noteOutcome reader.stream
  let count ← Action.ofExcept (inContext ("store " ++ archive) stored)
  Action.ofExcept (errorInContext ("vzdump for " ++ machine.label) closed)
  unless reader.diagnostic = "" do
    host.note .debug ("[backup] " ++ machine.label ++ ": vzdump said: " ++ reader.diagnostic)
  if count ≠ reader.count then
    throw (.text ("store acknowledged " ++ toString count ++ " bytes of " ++ archive ++ ", " ++
      toString reader.count ++ " were read"))
  return count

/-- Stores what the reader of an archive delivers. -/
def storeArchive (machine : Machine) (reader : ArchiveReader) : Action σ Failure Nat := do
  let archive := reader.name.render
  let (stored, reader) ← put sink ("/" ++ archive) reader
  account host machine archive stored reader

/-- Stores the metadata of an archive. -/
def storeMetadata (machine : Machine) (archive : String) (count : Nat) :
    Action σ Failure Unit := do
  let metadata := Metadata.ofArchive archive machine.vmid settings.backup settings.origin count
    (← host.now)
  let body ← Action.ofExcept (metadata.encode.mapError .error)
  let (stored, _) ← put sink ("/" ++ Sidecar.name archive) (Script.ofBytes (Text.utf8 body))
  let _ ← Action.ofExcept (inContext ("store metadata for " ++ archive) stored)

/-- Backs up one guest. -/
def guest (machine : Machine) : Action σ Failure (String × Nat) := do
  host.note .info ("[backup] " ++ machine.label ++ ": starting vzdump")
  let reader ← (Capture.start host settings.backup machine).mapError fun e =>
    .context ("start backup of " ++ machine.label) (.error e)
  let archive := reader.name.render
  let count ← storeArchive host sink machine reader
  storeMetadata host sink settings machine archive count
  return (archive, count)

/-- The message about a guest's outcome. -/
def report (machine : Machine) : Except Failure (String × Nat) → LogEntry
  | .ok (archive, count) =>
    { level := .info
      message := "[backup] " ++ machine.label ++ ": stored " ++ archive ++ " (" ++
        toString count ++ " bytes)" }
  | .error f =>
    { level := .warn, message := "[backup] " ++ machine.label ++ ": " ++ f.fullMessage }

/-- Backs up all guests, in order. -/
def run : List Machine → StateM σ (List Stored)
  | [] => pure []
  | machine :: rest => do
    let outcome ← (guest host sink settings machine).run
    let entry := report machine outcome
    host.note entry.level entry.message
    return { machine, outcome } :: (← run rest)

end Backup

end GuestVault
