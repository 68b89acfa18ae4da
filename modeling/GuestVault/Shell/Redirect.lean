import GuestVault.Shell.State
import GuestVault.Text.Number

/-!
# Redirections

What happens to the descriptors of a shell when one of them is led elsewhere.
-/

namespace GuestVault.Shell

open GuestVault.Text

/-- Nothing stands at a path, or something that it cannot lead through. -/
def isAbsence : OsFault → Bool
  | .noEntry | .notDirectory => true
  | _ => false

/-- The message when a file cannot be opened. -/
def openFault (verb absence : String) (path : Octets) (fault : OsFault) : String :=
  "cannot " ++ verb ++ " " ++ shown path ++ ": " ++
    if isAbsence fault then absence else fault.description

namespace State

/-- The state with a descriptor that leads where another one leads. -/
def duplicate (s : State) (descriptor other : Nat) : Except String State :=
  match s.descriptors.lookup other with
  | some i =>
    .ok { s with descriptors := (descriptor, i) :: s.descriptors.filter (·.1 ≠ descriptor) }
  | none => .error (toString other ++ ": Bad file descriptor")

/-- The state without a descriptor. -/
def closeDescriptor (s : State) (descriptor : Nat) : State :=
  { s with descriptors := s.descriptors.filter (·.1 ≠ descriptor) }

/-- The descriptor that a special file stands for. -/
def ownDescriptor? (path : Octets) : Option Nat :=
  match String.ofList path with
  | "/dev/stdin" => some 0
  | "/dev/stdout" => some 1
  | "/dev/stderr" => some 2
  | _ => none

/-- The state with a descriptor that reads a file. -/
def openForReading (s : State) (descriptor : Nat) (path : Octets) : Except String State :=
  match s.tree.find true (routeOf path) with
  | .ok (l, _) => .ok (s.connect descriptor (.file { location := l }))
  | .error fault => .error (openFault "open" "No such file" path fault)

/-- The state with a descriptor that writes a file. -/
def openForWriting (s : State) (descriptor : Nat) (truncate append : Bool) (path : Octets) :
    Except String State :=
  match s.tree.openOutput (routeOf path) truncate append with
  | .ok (file, tree) => .ok ({ s with tree }.connect descriptor (.file file))
  | .error fault => .error (openFault "create" "Directory nonexistent" path fault)

/-- The state after a redirection, or why it cannot be. -/
def redirect (s : State) (descriptor : Nat) (op : RedirectOp) (target : Octets) :
    Except String State :=
  match op, ownDescriptor? target with
  | .here, _ => .ok (s.connect descriptor (.source target))
  | .duplicate, _ =>
    if target = ['-'] then .ok (s.closeDescriptor descriptor)
    else if !target.isEmpty && target.all (fun c => '0' ≤ c && c ≤ '9') then
      s.duplicate descriptor (digitsValue target)
    else .error "Syntax error: Bad fd number"
  | _, some other => s.duplicate descriptor other
  | .read, none => s.openForReading descriptor target
  | .write, none => s.openForWriting descriptor true false target
  | .append, none => s.openForWriting descriptor false true target
  | .readWrite, none => s.openForWriting descriptor false false target

end State

end GuestVault.Shell
