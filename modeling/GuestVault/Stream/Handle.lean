import GuestVault.Process
import GuestVault.Text.Blank
import GuestVault.Text.Quoted
import GuestVault.Text.Utf8

/-!
# Streams of running commands

A `StreamHandle` is a started command whose output is being read while its diagnostic output is
collected beside. The handle is finalized once, at the end of the output or on request: only then
is the process waited for, and the outcome stays the same from there on. A clean end is reported
only if the process ended well.
-/

namespace GuestVault

open GuestVault.Text

/-- A started command. -/
structure StreamHandle where
  program : String
  stdout : Script
  stderr : Script
  process : ProcessFate
  cancelled : Bool := false
  /-- The trimmed diagnostic output; complete once the handle is finalized. -/
  diagnostic : String := ""
  outcome : Option (Except Error Unit) := none
  /-- The calls made on the process, in order. -/
  calls : List ProcessCall := []
deriving Repr

namespace StreamHandle

/-- The outcome is known. -/
def isFinalized (h : StreamHandle) : Bool :=
  h.outcome.isSome

/-- The short description of a handle. -/
def summary (h : StreamHandle) : String :=
  "StreamHandle \x7b program: " ++ quoted h.program ++ ", finalized: " ++ toString h.isFinalized ++
    " \x7d"

/-- The trimmed text of all that a reader delivers before its end or its first error. -/
def diagnosticOf (stderr : Script) : String :=
  trim (lossy (readToEnd stderr).2.1)

/-- The outcome that a finished process leads to. Success counts even after a cancellation; after
it every failure is the cancellation. -/
def conclude (program diagnostic : String) (cancelled : Bool) :
    Except IoError Exit → Except Error Unit
  | .ok exit =>
    if exit.success then .ok ()
    else if cancelled then .error (.cancelled program diagnostic)
    else .error (.command program exit.text diagnostic)
  | .error e =>
    if cancelled then .error (.cancelled program diagnostic)
    else .error (.io ("wait for " ++ program) e)

/-- Waits for the process, once, and settles the outcome. -/
def finalize (h : StreamHandle) : Except Error Unit × StreamHandle :=
  match h.outcome with
  | some done => (done, h)
  | none =>
    let diagnostic := diagnosticOf h.stderr
    let done := conclude h.program diagnostic h.cancelled h.process.ended
    (done, { h with
      stdout := [], stderr := [], diagnostic, outcome := some done,
      calls := h.calls ++ [.wait] })

/-- Waits for the process to end on its own. -/
def close (h : StreamHandle) : Except Error Unit × StreamHandle :=
  h.finalize

/-- Kills the process unless it was waited for already. -/
def kill (h : StreamHandle) : StreamHandle :=
  if h.isFinalized then h
  else { h with process := h.process.afterAbort, calls := h.calls ++ [.abort] }

/-- Kills the process and settles the outcome. -/
def abort (h : StreamHandle) : Except Error Unit × StreamHandle :=
  h.kill.finalize

/-- The result of a read that comes after the outcome is settled, or that settled it. -/
def readOutcome : Except Error Unit → Except IoError Bytes
  | .ok () => .ok []
  | .error e => .error e.toIo

/-- Reads at most `n` bytes of the output. At its end the handle is finalized, and a failure takes
the place of the clean end. A read that fails after a cancellation reports the cancellation. -/
def read (n : Nat) (h : StreamHandle) : Except IoError Bytes × StreamHandle :=
  match h.outcome with
  | some done => (readOutcome done, h)
  | none =>
    match h.stdout.read n with
    | (.error e, stdout) =>
      let h := { h with stdout }
      if h.cancelled then
        match h.abort with
        | (.ok (), h) => (.error e, h)
        | (.error c, h) => (.error c.toIo, h)
      else (.error e, h)
    | (.ok bytes, stdout) =>
      let h := { h with stdout }
      if bytes = [] ∧ n ≠ 0 then
        let (done, h) := h.finalize
        (readOutcome done, h)
      else (.ok bytes, h)

instance : ByteSource StreamHandle where
  read := read
  bound h := h.stdout.bound + 2

/-- A command that failed without a diagnostic is described by its output. -/
def describeBy (stdout : String) : Error → Error
  | .command program status diagnostic =>
    if diagnostic = "" then .command program status (trim stdout)
    else .command program status diagnostic
  | e => e

/-- Reads the output to the end and settles the outcome. -/
def collect (h : StreamHandle) : Except Error Output × StreamHandle :=
  match readToEnd h.stdout with
  | (.error e, _, stdout) =>
    (.error (.io ("read " ++ h.program ++ " output") e), ({ h with stdout }.abort).2)
  | (.ok (), bytes, stdout) =>
    match { h with stdout }.finalize with
    | (.ok (), h) => (.ok { stdout := lossy bytes, stderr := h.diagnostic }, h)
    | (.error e, h) => (.error (describeBy (lossy bytes) e), h)

/-- Lets go of a handle; a process still running is killed. -/
def drop (h : StreamHandle) : StreamHandle :=
  if h.isFinalized then h else h.abort.2

/-- Cancels the work that the handle belongs to. -/
def cancel (h : StreamHandle) : StreamHandle :=
  if h.cancelled then h
  else { h with cancelled := true, process := h.process.afterCancel }

end StreamHandle

end GuestVault
