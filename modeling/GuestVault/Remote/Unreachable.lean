import GuestVault.Host.Local
import GuestVault.Settings

/-!
# Remote hosts out of reach

A remote host is reached over the network of the local one. Without a network every request fails
while the connection is being made, and a job that was cancelled does not even try.
-/

namespace GuestVault

open GuestVault.Text

namespace RemoteTarget

/-- The text is a number that fits into a byte. -/
def isByteText (s : List Char) : Bool :=
  s.length ≤ 3 && (readNumber 255 s).isOk && s.all Char.isDigit

/-- The name is an address, or one that is known without asking. -/
def isKnown (host : String) : Bool :=
  let parts := segments (· = '.') host.toList
  host = "localhost" || (parts.length = 4 && parts.all isByteText)

/-- Why no connection can be made. -/
def connectFault (target : RemoteTarget) : IoError :=
  if isKnown target.host then .os .networkUnreachable
  else .custom .other
    "failed to lookup address information: Temporary failure in name resolution"

/-- Tries to connect. -/
def connect {α : Type} (target : RemoteTarget) : Action LocalHost Error α := do
  if (← get).cancelled then throw (.cancelled "ssh" "")
  throw (.io ("connect " ++ target.host ++ ":" ++ toString target.port) target.connectFault)

/-- Tries to run a line. -/
def exec {α : Type} (target : RemoteTarget) (line : String) : Action LocalHost Error α := do
  LocalHost.note .debug ("exec on " ++ target.host ++ ": " ++ line)
  target.connect

/-- The operations. -/
def unreachable (target : RemoteTarget) : Host LocalHost OutputFile where
  openStream command := target.exec command.render
  openFile path := target.exec (RemoteFile.readCommand path).render
  create path := target.exec (RemoteFile.writeLine path)
  writeAll sink _ := pure sink
  finish _ := pure ()
  stat path := target.exec (RemoteFile.statCommand path).render
  remove path := target.exec (RemoteFile.removeCommand path).render
  close := pure ()
  now := fun h => (h.moment, h)
  note := LocalHost.note

end RemoteTarget

/-- The host that a connection leads to. -/
def Connection.host : Connection → Host LocalHost OutputFile
  | .here _ => LocalHost.host
  | .remote target => target.unreachable

end GuestVault
