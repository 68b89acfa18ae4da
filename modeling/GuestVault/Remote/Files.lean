import GuestVault.Command
import GuestVault.Error
import GuestVault.Text.Blank
import GuestVault.Text.Number
import GuestVault.Text.Quoted

/-!
# Files of a remote host

Files of a remote host are reached by commands. What the host says of a file's size and time is
read by `FileStat.parse`.
-/

namespace GuestVault

open GuestVault.Text

/-- What is known of a file. The time is in seconds of the Unix epoch. -/
structure FileStat where
  size : Nat
  modified : Option Nat
deriving Repr, DecidableEq

namespace RemoteFile

/-- Prints a file. -/
def readCommand (path : String) : Command :=
  { program := "cat", args := ["--", path] }

/-- Writes a file from its input. -/
def writeLine (path : String) : String :=
  ({ program := "cat" } : Command).renderRedirect path

/-- Prints size and time of a file. -/
def statCommand (path : String) : Command :=
  { program := "stat", args := ["-c", "%s %Y", "--", path] }

/-- Removes a file. -/
def removeCommand (path : String) : Command :=
  { program := "rm", args := ["--", path] }

end RemoteFile

namespace FileStat

/-- Why a host's answer cannot be used. -/
inductive Fault where
  | error (e : Error)
  /-- The time is further away than clocks can show. -/
  | unrepresentable
deriving Repr, DecidableEq

/-- The last second that clocks can show. -/
def maxSecond : Nat := Nat.pow 2 63 - 1

/-- Size and time in a host's answer. A time that is no number is as good as none. -/
def parse (stdout : String) : Except Fault FileStat :=
  match words stdout with
  | size :: mtime :: _ =>
    match readNumber maxWord64 size.toList with
    | .error fault => .error (.error
        (.parse ("stat size " ++ quoted size ++ ": " ++ fault.message)))
    | .ok size =>
      match readNumber maxWord64 mtime.toList with
      | .error _ => .ok { size, modified := none }
      | .ok second =>
        if second ≤ maxSecond then .ok { size, modified := some second }
        else .error .unrepresentable
  | _ => .error (.error (.parse ("unexpected stat output: " ++ quoted (trim stdout))))

end FileStat

end GuestVault
