import GuestVault.FileTree.Edit
import GuestVault.Host
import GuestVault.Shell.Syntax

/-!
# The state of a running script

What a script works on: the files of its machine, its variables, and its file descriptors. A
descriptor leads to a channel, and several descriptors may lead to the same one.
-/

namespace GuestVault.Shell

open GuestVault.Text

/-- What a file descriptor can lead to. -/
inductive Channel where
  /-- Data that is still to be read. -/
  | source (data : Octets)
  /-- Pieces that were written, the last one first. -/
  | sink (pieces : List Octets)
  | file (file : OpenFile)
deriving Repr

/-- Why a script does not go on. -/
inductive Stop where
  | exit (code : Nat)
  /-- A signal ended the shell. -/
  | signal (number : Nat)
  | break (levels : Nat)
  | continue (levels : Nat)
  | return (code : Nat)
deriving Repr, DecidableEq

/-- A variable: its value, and whether programs see it. -/
structure Variable where
  value : Octets
  exported : Bool := false
deriving Repr

/-- The state of a shell. -/
structure State where
  tree : FileTree
  channels : Array Channel
  /-- The channels of the open descriptors. -/
  descriptors : List (Nat × Nat)
  bindings : List (Octets × Variable) := []
  functions : List (Octets × Command) := []
  /-- The name of the script. -/
  name : Octets := []
  arguments : List Octets := []
  status : Nat := 0
  line : Nat := 1
  /-- The status of the last command substitution in the present command. -/
  captured : Option Nat := none
  /-- The number of the process. -/
  process : Nat := 1000
  /-- A failing command ends the script. -/
  strict : Bool := false
  /-- A parameter that is not there ends the script. -/
  demanding : Bool := false
  /-- How many loops are being run. -/
  loops : Nat := 0
  /-- What to do when a signal comes or, under number zero, at the end. -/
  traps : List (Nat × Octets) := []
  /-- Variables that a function made its own, with what they were before, the last one first. -/
  locals : List (Octets × Option Variable) := []
  /-- A program is still running when the commands so far have been carried out. -/
  lingers : Bool := false

instance : Inhabited State := ⟨{ tree := {}, channels := #[], descriptors := [] }⟩

/-- A step of a script. -/
abbrev Act (α : Type) := Action State Stop α

namespace State

/-- The value of a variable. -/
def value? (s : State) (name : Octets) : Option Octets :=
  (s.bindings.lookup name).map Variable.value

/-- The state with another value of a variable. -/
def assign (s : State) (name value : Octets) (exported : Bool) : State :=
  let exported := exported || ((s.bindings.lookup name).map Variable.exported).getD false
  { s with bindings := (name, { value, exported }) :: s.bindings.filter (·.1 ≠ name) }

/-- The state without a variable. -/
def unassign (s : State) (name : Octets) : State :=
  { s with bindings := s.bindings.filter (·.1 ≠ name) }

/-- The state with a variable as it was before. -/
def restore (s : State) (name : Octets) : Option Variable → State
  | some v => { s with bindings := (name, v) :: s.bindings.filter (·.1 ≠ name) }
  | none => s.unassign name

/-- The octets between which fields are split. -/
def separators (s : State) : Octets :=
  (s.value? "IFS".toList).getD [' ', '\t', '\n']

/-- The channel of a descriptor. -/
def channel? (s : State) (descriptor : Nat) : Option (Nat × Channel) := do
  let i ← s.descriptors.lookup descriptor
  return (i, ← s.channels[i]?)

/-- The state with a new channel behind a descriptor. -/
def connect (s : State) (descriptor : Nat) (c : Channel) : State :=
  { s with
    channels := s.channels.push c
    descriptors := (descriptor, s.channels.size) :: s.descriptors.filter (·.1 ≠ descriptor) }

/-- The pieces that were written to a channel, in order. -/
def written (s : State) (i : Nat) : Octets :=
  match s.channels[i]? with
  | some (.sink pieces) => pieces.reverse.flatten
  | _ => []

/-- Writes to a descriptor. -/
def write (s : State) (descriptor : Nat) (text : Octets) : Except OsFault State :=
  match s.channel? descriptor with
  | some (i, .sink pieces) =>
    .ok { s with channels := s.channels.set! i (.sink (text :: pieces)) }
  | some (i, .file f) => do
    let (f, tree) ← s.tree.write f (bytesOf text)
    .ok { s with tree, channels := s.channels.set! i (.file f) }
  | _ => .error .badDescriptor

/-- Takes what `cut` splits off from the data behind a descriptor. -/
def take (s : State) (descriptor : Nat) (cut : Octets → Octets × Octets) : Octets × State :=
  match s.channel? descriptor with
  | some (i, .source data) =>
    let (front, rest) := cut data
    (front, { s with channels := s.channels.set! i (.source rest) })
  | some (i, .file f) =>
    let data := match s.tree.get? f.location with
      | some (.file data _) => octets (data.drop f.position)
      | _ => []
    let (front, rest) := cut data
    let position := f.position + (data.length - rest.length)
    (front, { s with channels := s.channels.set! i (.file { f with position }) })
  | _ => ([], s)

end State

/-- Writes to a descriptor; what cannot be written is lost. -/
def put (descriptor : Nat) (text : Octets) : Act Unit :=
  modify fun s => (s.write descriptor text).toOption.getD s

/-- Writes a text to the standard output. -/
def say (text : Octets) : Act Unit := put 1 text

/-- Writes a line of text to the standard error output. -/
def complain (text : String) : Act Unit := put 2 (octets (utf8 text) ++ ['\n'])

/-- A complaint of the shell, with the place in the script. -/
def blame (text : String) : Act Unit := do
  let s ← get
  complain (lossy (bytesOf s.name) ++ ": " ++ toString s.line ++ ": " ++ text)

/-- A complaint that ends the script. -/
def refuse {α : Type} (text : String) : Act α := do
  blame text
  throw (.exit 2)

/-- Takes all that is left of the standard input. -/
def takeInput : Act Octets := modifyGet fun s => s.take 0 fun data => (data, [])

/-- The path that octets name. -/
def routeOf (path : Octets) : Route := Route.ofBytes (bytesOf path)

/-- Octets as text. -/
def shown (s : Octets) : String := lossy (bytesOf s)

end GuestVault.Shell
