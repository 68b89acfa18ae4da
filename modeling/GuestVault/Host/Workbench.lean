import GuestVault.Host.Local

/-!
# Workbenches

A machine with several commands and files open on it at once. Each is known by its number; one that
could not be opened uses up a number, too.
-/

namespace GuestVault

/-- A machine, its open commands and its open files. -/
structure Workbench where
  host : LocalHost
  streams : Array (Option StreamHandle) := #[]
  files : Array (Option OutputFile) := #[]

namespace Workbench

/-- Does something on the machine. -/
def perform {α : Type} (act : Action LocalHost Error α) (b : Workbench) :
    Except Error α × Workbench :=
  let (result, host) := act b.host
  (result, { b with host })

/-- Starts a command; gives its number. -/
def start (command : Command) (b : Workbench) : Except Error Nat × Workbench :=
  let (opened, b) := b.perform (LocalHost.openStream command)
  (opened.map fun _ => b.streams.size, { b with streams := b.streams.push opened.toOption })

/-- Starts a file; gives its number. -/
def create (path : String) (b : Workbench) : Except Error Nat × Workbench :=
  let (opened, b) := b.perform (LocalHost.host.create path)
  (opened.map fun _ => b.files.size, { b with files := b.files.push opened.toOption })

/-- Does something with a command, which may be gone after it. -/
def withStream {α : Type} (i : Nat) (act : StreamHandle → α × Option StreamHandle)
    (b : Workbench) : Option α × Workbench :=
  match (b.streams[i]?).join with
  | none => (none, b)
  | some handle =>
    let (a, handle) := act handle
    (some a, { b with streams := b.streams.set! i handle })

/-- Writes data to a file at once. -/
def write (i : Nat) (data : Bytes) (b : Workbench) : Option (Except IoError Unit) × Workbench :=
  match (b.files[i]?).join with
  | none => (none, b)
  | some file =>
    let ((written, file), host) := LocalHost.putThrough file data b.host
    (some written, { b with host, files := b.files.set! i (some file) })

/-- Completes a file, which is gone after it. -/
def finish (i : Nat) (b : Workbench) : Option (Except Error Unit) × Workbench :=
  match (b.files[i]?).join with
  | none => (none, b)
  | some file =>
    let (finished, b) := b.perform (LocalHost.finish file)
    (some finished, { b with files := b.files.set! i none })

/-- Cancels all commands, also those to come. -/
def cancel (b : Workbench) : Workbench :=
  { b with
    host := { b.host with cancelled := true }
    streams := b.streams.map (·.map StreamHandle.cancel) }

end Workbench

end GuestVault
