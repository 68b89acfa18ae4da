import GuestVault.Command
import GuestVault.Failure
import GuestVault.Log
import GuestVault.Remote.Files
import GuestVault.Stream.Handle
import GuestVault.Time.Moment

/-!
# Hosts

A host is where commands run and files are staged. All that a job asks of it goes through the
operations of a `Host`, which act on a state; what they do with it is up to the host.
-/

namespace GuestVault

/-- An action on a state that may fail. -/
abbrev Action (σ ε α : Type) := ExceptT ε (StateM σ) α

/-- An action that never acts. -/
def Action.ofExcept {σ ε α : Type} : Except ε α → Action σ ε α
  | .ok a => pure a
  | .error e => throw e

/-- The same action, with its failure as a result. -/
def Action.attempt {σ ε ε' α : Type} (act : Action σ ε α) : Action σ ε' (Except ε α) :=
  fun s =>
    let (result, s) := act s
    (.ok result, s)

/-- The same action, with its error in other words. -/
def Action.mapError {σ ε ε' α : Type} (f : ε → ε') (act : Action σ ε α) : Action σ ε' α :=
  fun s =>
    match act s with
    | (.ok a, s) => (.ok a, s)
    | (.error e, s) => (.error (f e), s)

/-- The same action on a part of a larger state. -/
def Action.within {σ τ ε α : Type} (get : τ → σ) (set : σ → τ → τ) (act : Action σ ε α) :
    Action τ ε α :=
  fun t =>
    let (result, s) := act (get t)
    (result, set s t)

/-- The operations of a host with state `σ`, whose open files are written through a `κ`. -/
structure Host (σ κ : Type) where
  /-- Starts a command. -/
  openStream : Command → Action σ Error StreamHandle
  /-- Opens a file for reading. -/
  openFile : (path : String) → Action σ Error Script
  /-- Starts a file, in place of the one that may be there. -/
  create : (path : String) → Action σ Error κ
  /-- Writes all the bytes. -/
  writeAll : κ → Bytes → Action σ IoError κ
  /-- Completes a file. -/
  finish : κ → Action σ Error Unit
  stat : (path : String) → Action σ Error FileStat
  remove : (path : String) → Action σ Error Unit
  /-- Ends the use of the host. -/
  close : Action σ Error Unit
  now : StateM σ Time.Moment
  /-- Leaves a message. -/
  note : LogLevel → String → StateM σ Unit

namespace Host

/-- The same host as a part of a larger state. -/
def within {σ τ κ : Type} (get : τ → σ) (set : σ → τ → τ) (host : Host σ κ) : Host τ κ where
  openStream command := (host.openStream command).within get set
  openFile path := (host.openFile path).within get set
  create path := (host.create path).within get set
  writeAll sink data := (host.writeAll sink data).within get set
  finish sink := (host.finish sink).within get set
  stat path := (host.stat path).within get set
  remove path := (host.remove path).within get set
  close := host.close.within get set
  now := fun t =>
    let (moment, s) := host.now (get t)
    (moment, set s t)
  note level message := fun t =>
    let ((), s) := host.note level message (get t)
    ((), set s t)

variable {σ κ ρ : Type} [ByteSource ρ] (host : Host σ κ)

/-- Mentions the failure of a command that has ended. -/
def noteOutcome (handle : StreamHandle) : StateM σ Unit :=
  match handle.outcome with
  | some (.error e) =>
    host.note .debug (handle.program ++ " finished with error: " ++ e.message)
  | _ => pure ()

/-- Runs a command to its end. -/
def run (command : Command) : Action σ Error Output := do
  let handle ← host.openStream command
  let (output, handle) := handle.collect
  host.noteOutcome handle
  Action.ofExcept output

/-- Copies what a reader delivers in at most `fuel` reads, piece by piece; interruptions are
ignored. -/
def copyOn : Nat → ρ → κ → Action σ IoError (Nat × κ)
  | 0, _, sink => pure (0, sink)
  | fuel + 1, reader, sink =>
    match ByteSource.read pieceSize reader with
    | (.ok [], _) => pure (0, sink)
    | (.ok (b :: bs), reader) => do
      let sink ← host.writeAll sink (b :: bs)
      let (count, sink) ← copyOn fuel reader sink
      return (bs.length + 1 + count, sink)
    | (.error e, reader) => if e.isInterrupted then copyOn fuel reader sink else throw e

/-- Copies a reader into a file; gives the number of bytes. -/
def copy (reader : ρ) (sink : κ) : Action σ IoError (Nat × κ) :=
  host.copyOn (ByteSource.bound reader) reader sink

end Host

end GuestVault
