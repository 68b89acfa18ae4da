import GuestVault.Error
import GuestVault.Stream.Reader

/-!
# Processes

What is known of a started process: how it ends when it is left alone, how it ends when it is
killed, and whether it can be killed at all.
-/

namespace GuestVault

/-- How a process ended: its code, unless something else ended it, and a description. -/
structure Exit where
  code : Option Int
  text : String
deriving Repr, DecidableEq

namespace Exit

/-- A process that ended by itself. -/
def ofCode (code : Int) : Exit :=
  { code := some code, text := "exit status: " ++ toString code }

/-- A process that was ended. -/
def terminated (text : String) : Exit :=
  { code := none, text }

/-- The code says that all went well. -/
def success (e : Exit) : Bool :=
  e.code = some 0

end Exit

/-- The future of a process. -/
structure ProcessFate where
  /-- What waiting finds when the process is left alone. -/
  ended : Except IoError Exit := .ok (.ofCode 0)
  /-- What waiting finds after the process was killed. -/
  killed : Except IoError Exit := .ok (.ofCode 137)
  /-- Whether killing works. -/
  abort : Except IoError Unit := .ok ()
  /-- Cancelling kills the process. -/
  killedByCancel : Bool := false
deriving Repr

namespace ProcessFate

/-- The process after an attempt to kill it. -/
def afterAbort (p : ProcessFate) : ProcessFate :=
  match p.abort with
  | .ok () => { p with ended := p.killed }
  | .error _ => p

/-- The process after its cancellation. -/
def afterCancel (p : ProcessFate) : ProcessFate :=
  if p.killedByCancel then p.afterAbort else p

end ProcessFate

/-- A call on a process. -/
inductive ProcessCall where
  | wait
  | abort
deriving Repr, DecidableEq

/-- What a command wrote. -/
structure Output where
  stdout : String
  stderr : String
deriving Repr, DecidableEq

end GuestVault
