import GuestVault.Host
import GuestVault.Shell.Eval
import GuestVault.Text.Path

/-!
# The local host

Commands run on the machine that the program itself runs on, and its files are used directly.
Everything that a command does is done when it is started; what it wrote is read from its handle
afterwards. The machine also keeps what the program has shown so far.
-/

namespace GuestVault

open GuestVault.Text

/-- A machine with its files. -/
structure LocalHost where
  tree : FileTree
  environment : List (String × String) := []
  moment : Time.Moment
  cancelled : Bool := false
  /-- Messages up to this rank are shown. -/
  verbosity : Nat := 0
  /-- What was shown, the last text first. -/
  shown : List String := []
deriving Repr

/-- A file that is written through a buffer. -/
structure OutputFile where
  path : String
  file : OpenFile
  pending : Bytes := []
deriving Repr

namespace LocalHost

/-- Shows a text. -/
def print (text : String) : StateM LocalHost Unit :=
  modify fun h => { h with shown := text :: h.shown }

/-- Leaves a message, if it is important enough to be shown. -/
def note (level : LogLevel) (message : String) : StateM LocalHost Unit := fun h =>
  if level.rank ≤ h.verbosity then print (({ level, message : LogEntry }).line ++ "\n") h
  else ((), h)

/-- All that was shown. -/
def transcript (h : LocalHost) : String :=
  String.join h.shown.reverse

/-- The variables that commands see. -/
def exports (h : LocalHost) : List (Shell.Octets × Shell.Octets) :=
  h.environment.map fun (name, value) => (Shell.octets (utf8 name), Shell.octets (utf8 value))

/-- The fate of a process that is done as far as the program can see. One that would still be
running is there to be killed. -/
def fateOf (finished : Shell.Finished) : ProcessFate where
  ended := .ok finished.ending.exit
  killed := .ok (if finished.lingers then (Ending.signal Signal.kill).exit else finished.ending.exit)
  killedByCancel := true

/-- Starts a command. -/
def openStream (command : Command) : Action LocalHost Error StreamHandle := do
  note .debug ("exec: " ++ command.render)
  let h ← get
  if h.cancelled then throw (.cancelled command.program "")
  if command.words.any holdsNul then
    throw (.spawn command.program (.custom .invalidInput "nul byte found in provided data"))
  let octetsOf (s : String) : Shell.Octets := Shell.octets (utf8 s)
  match Shell.launch h.tree h.exports (octetsOf command.program) (command.args.map octetsOf) with
  | .error fault => throw (.spawn command.program (.os fault))
  | .ok finished =>
    set { h with tree := finished.tree }
    return {
      program := command.program
      stdout := Script.ofBytes finished.stdout
      stderr := Script.ofBytes finished.stderr
      process := fateOf finished }

/-- Does something with a path; a fault is described by the operation and the path. -/
def withPath {α : Type} (what path : String)
    (act : Route → FileTree → Except OsFault (α × FileTree)) : Action LocalHost Error α := fun h =>
  let context := what ++ " " ++ path
  if holdsNul path then
    (.error (.io context .nulInPath), h)
  else
    match act (.ofText path) h.tree with
    | .error fault => (.error (.io context (.os fault)), h)
    | .ok (a, tree) => (.ok a, { h with tree })

/-- How much a file holds back before it is written. -/
def bufferSize : Nat := 8192

/-- Writes to the file itself. -/
def writeNow (sink : OutputFile) (data : Bytes) (h : LocalHost) :
    (Except IoError Unit × OutputFile) × LocalHost :=
  match h.tree.write sink.file data with
  | .error fault => ((.error (.os fault), sink), h)
  | .ok (file, tree) => ((.ok (), { sink with file }), { h with tree })

/-- Writes what was held back. -/
def flush (sink : OutputFile) (h : LocalHost) : (Except IoError Unit × OutputFile) × LocalHost :=
  match writeNow sink sink.pending h with
  | ((.ok (), sink), h) => ((.ok (), { sink with pending := [] }), h)
  | refused => refused

/-- Takes data; small pieces are held back. -/
def put (sink : OutputFile) (data : Bytes) (h : LocalHost) :
    (Except IoError Unit × OutputFile) × LocalHost :=
  if sink.pending.length + data.length < bufferSize then
    ((.ok (), { sink with pending := sink.pending ++ data }), h)
  else
    match flush sink h with
    | ((.error e, sink), h) => ((.error e, sink), h)
    | ((.ok (), sink), h) =>
      if data.length < bufferSize then ((.ok (), { sink with pending := data }), h)
      else writeNow sink data h

/-- Takes data and holds nothing back. -/
def putThrough (sink : OutputFile) (data : Bytes) (h : LocalHost) :
    (Except IoError Unit × OutputFile) × LocalHost :=
  match put sink data h with
  | ((.ok (), sink), h) => flush sink h
  | refused => refused

/-- Completes a file. -/
def finish (sink : OutputFile) : Action LocalHost Error Unit := fun h =>
  match flush sink h with
  | ((.error e, _), h) => (.error (.io ("flush " ++ sink.path) e), h)
  | ((.ok (), sink), h) =>
    match h.tree.sync sink.file with
    | .error fault => (.error (.io ("sync " ++ sink.path) (.os fault)), h)
    | .ok () => (.ok (), h)

/-- The operations. -/
def host : Host LocalHost OutputFile where
  openStream := openStream
  openFile path := withPath "open" path fun route t => (t.openInput route).map (·, t)
  create path := withPath "create" path fun route t =>
    (t.create route).map fun (file, t) => ({ path, file }, t)
  writeAll sink data := fun h =>
    match put sink data h with
    | ((.ok (), sink), h) => (.ok sink, h)
    | ((.error e, _), h) => (.error e, h)
  finish := finish
  stat path := do
    let size ← withPath "stat" path fun route t => (t.size route).map (·, t)
    return { size, modified := some (← get).moment.unix.toNat }
  remove path := withPath "remove" path fun route t => (t.removeFile route).map ((), ·)
  close := pure ()
  now := fun h => (h.moment, h)
  note := note

end LocalHost

end GuestVault
