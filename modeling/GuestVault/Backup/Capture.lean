import GuestVault.Archive.Name
import GuestVault.Host
import GuestVault.Settings

/-!
# Capturing archives

A dump is captured from the output of the dump tool. The first bytes are looked at to name the
archive after its compression, and handed out again in front of the rest, so the reader of the
archive sees the whole stream.
-/

namespace GuestVault

/-- An archive that is being captured. -/
structure ArchiveReader where
  name : ArchiveName
  /-- The bytes that were looked at and not yet handed out. -/
  header : Bytes
  stream : StreamHandle
  /-- The number of bytes handed out. -/
  count : Nat := 0
deriving Repr

namespace ArchiveReader

/-- The short description of a reader. -/
def summary (r : ArchiveReader) : String :=
  "ArchiveReader \x7b name: " ++ Text.quoted r.name.render ++ ", count: " ++ toString r.count ++
    " \x7d"

/-- Hands out the bytes that were looked at, and after them the rest of the stream. -/
def read (n : Nat) (r : ArchiveReader) : Except IoError Bytes × ArchiveReader :=
  match r.header.take n with
  | b :: bs =>
    (.ok (b :: bs), { r with header := r.header.drop n, count := r.count + (bs.length + 1) })
  | [] =>
    match r.stream.read n with
    | (.ok bytes, stream) => (.ok bytes, { r with stream, count := r.count + bytes.length })
    | (.error e, stream) => (.error e, { r with stream })

instance : ByteSource ArchiveReader where
  read := read
  bound r := r.header.length + ByteSource.bound r.stream

/-- Waits for the dump tool to end. -/
def close (r : ArchiveReader) : Except Error Unit × ArchiveReader :=
  let (result, stream) := r.stream.close
  (result, { r with stream })

/-- Kills the dump tool. -/
def abort (r : ArchiveReader) : Except Error Unit × ArchiveReader :=
  let (result, stream) := r.stream.abort
  (result, { r with stream })

/-- What the dump tool said beside. -/
def diagnostic (r : ArchiveReader) : String :=
  r.stream.diagnostic

end ArchiveReader

namespace Capture

/-- The programs that make dumps. -/
def programs : List String :=
  ["vzdump"]

/-- The command that dumps a guest to its output. -/
def command (backup : BackupSettings) (vmid : Nat) : Command :=
  { program := "vzdump"
    args := [toString vmid, "--stdout", "--mode", backup.mode.name, "--compress",
        backup.compress.name] ++
      match backup.node with
      | some node => ["--node", node]
      | none => [] }

/-- The name of an archive that begins with the given bytes. -/
def nameFor (backup : BackupSettings) (machine : Machine) (now : Time.Moment) (header : Bytes) :
    Except Error ArchiveName :=
  let name := ArchiveName.ofMoment machine.kind machine.vmid now (Compression.classify header)
  if backup.versionTag then name.withVersion ArchiveName.version else .ok name

/-- Looks at the first bytes of a stream; a command whose output cannot be read is killed. A stream
without any bytes is the failure of its command, even if that ended well. -/
def peek (stream : StreamHandle) : Except Error Bytes × StreamHandle :=
  match readUpTo Compression.headerLength stream with
  | (.error e, stream) => (.error (.ofIo e), stream.abort.2)
  | (.ok [], stream) =>
    (.error (.command stream.program "empty vzdump stream header" stream.diagnostic), stream)
  | (.ok (b :: bs), stream) => (.ok (b :: bs), stream)

variable {σ κ : Type} (host : Host σ κ)

/-- Starts to dump a guest. -/
def start (backup : BackupSettings) (machine : Machine) : Action σ Error ArchiveReader := do
  let stream ← host.openStream (command backup machine.vmid)
  let (header, stream) := peek stream
  host.noteOutcome stream
  let header ← Action.ofExcept header
  let name ← Action.ofExcept (nameFor backup machine (← host.now) header)
  host.note .debug ("[backup] " ++ machine.label ++ ": " ++ toString header.length ++
    " header bytes, compression " ++ name.compression.name.capitalize ++ ", archive " ++ name.render)
  return { name, header, stream }

end Capture

end GuestVault
