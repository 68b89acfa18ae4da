import GuestVault.Host

/-!
# Scripted hosts

A host whose answers are all known beforehand: every command takes the next reply of its program,
and files live in memory. It keeps a list of all that it was asked.
-/

namespace GuestVault

/-- What a started command does. -/
inductive ScriptedReply where
  /-- The command cannot be started. -/
  | refuse (error : Error)
  | stream (stdout stderr : Script) (process : ProcessFate) (cancelled : Bool)
deriving Repr

/-- The answers to come, the files, and the questions so far. -/
structure ScriptedHost where
  replies : List (String × List ScriptedReply) := []
  files : List (String × Bytes) := []
  log : List String := []
  createFault : Option IoError := none
  statFault : Option IoError := none
  removeFault : Option IoError := none
  finishFault : Option IoError := none
  /-- The size that every file claims to have. -/
  statSize : Option Nat := none
  /-- No file may grow beyond this size. -/
  fullAfter : Option Nat := none
  /-- A write to a full file accepts nothing instead of failing. -/
  writeZero : Bool := false
  moment : Time.Moment
deriving Repr

namespace ScriptedHost

/-- A file that is being written. -/
structure Sink where
  path : String
  data : Bytes := []
deriving Repr

/-- Notes what was asked. -/
def ask (h : ScriptedHost) (question : String) : ScriptedHost :=
  { h with log := h.log ++ [question] }

/-- The next reply of a program; without one, it succeeds and says nothing. -/
def nextReply (h : ScriptedHost) (program : String) : ScriptedReply × ScriptedHost :=
  match h.replies.lookup program with
  | some (reply :: rest) =>
    (reply, { h with replies := (program, rest) :: h.replies.filter (·.1 ≠ program) })
  | _ => (.stream [] [] {} false, h)

/-- The handle of a command, or the refusal to start it. -/
def openReply (program : String) : ScriptedReply → Except Error StreamHandle
  | .refuse e => .error e
  | .stream stdout stderr process cancelled =>
    .ok { program, stdout, stderr, process, cancelled }

/-- Fails if there is a fault. -/
def check (what path : String) : Option IoError → Except Error Unit
  | some e => .error (.io (what ++ " " ++ path) e)
  | none => .ok ()

/-- Adds data to a file, or says why that cannot be. -/
def append (h : ScriptedHost) (sink : Sink) (data : Bytes) : Except IoError Sink :=
  let grown := { sink with data := sink.data ++ data }
  match h.fullAfter with
  | none => .ok grown
  | some n =>
    if grown.data.length ≤ n then .ok grown
    else if h.writeZero then .error (.custom .writeZero "failed to write whole buffer")
    else .error (.custom .other "no space left")

/-- Size of a file. -/
def statOf (h : ScriptedHost) (path : String) : Except Error FileStat := do
  check "stat" path h.statFault
  match h.files.lookup path with
  | some data => .ok { size := h.statSize.getD data.length, modified := none }
  | none => .error (.io "stat" (.plain .notFound))

/-- The operations. -/
def host : Host ScriptedHost Sink where
  openStream command := fun h =>
    let (reply, h) := (h.ask command.render).nextReply command.program
    (openReply command.program reply, h)
  openFile path := fun h =>
    let h := h.ask ("[open] " ++ path)
    match h.files.lookup path with
    | some data => (.ok (Script.ofBytes data), h)
    | none => (.error (.io "open" (.plain .notFound)), h)
  create path := fun h =>
    let h := h.ask ("[create] " ++ path)
    ((check "create" path h.createFault).map fun _ => { path }, h)
  writeAll sink data := fun h => (h.append sink data, h)
  finish sink := fun h =>
    let h := h.ask ("[finish] " ++ sink.path)
    match check "finish" sink.path h.finishFault with
    | .error e => (.error e, h)
    | .ok () =>
      (.ok (), { h with files := (sink.path, sink.data) :: h.files.filter (·.1 ≠ sink.path) })
  stat path := fun h =>
    let h := h.ask ("[stat] " ++ path)
    (h.statOf path, h)
  remove path := fun h =>
    let h := h.ask ("[remove] " ++ path)
    match check "remove" path h.removeFault with
    | .error e => (.error e, h)
    | .ok () => (.ok (), { h with files := h.files.filter (·.1 ≠ path) })
  close := fun h => (.ok (), h)
  now := fun h => (h.moment, h)
  note _ _ := fun h => ((), h)

end ScriptedHost

end GuestVault
