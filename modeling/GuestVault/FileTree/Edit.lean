import GuestVault.FileTree.Walk
import GuestVault.Stream.Reader

/-!
# Changing a file tree

Making, writing, moving and removing files and directories, with the refusals of an operating
system. A file is written through an `OpenFile`, which remembers how far it came.
-/

namespace GuestVault

/-- A file open for writing. -/
structure OpenFile where
  location : Location
  position : Nat := 0
  /-- Every write goes to the end of the file. -/
  append : Bool := false
deriving Repr, DecidableEq

/-- The data with `piece` written from `position` on; a gap is filled with zeros. -/
def overwrite (data : Bytes) (position : Nat) (piece : Bytes) : Bytes :=
  data.take position ++ List.replicate (position - data.length) 0 ++ piece ++
    data.drop (position + piece.length)

@[simp] theorem overwrite_length (data piece : Bytes) :
    overwrite data data.length piece = data ++ piece := by
  simp [overwrite]

namespace FileTree

/-- Opens a file for writing, making it if there is none. -/
def openOutput (t : FileTree) (route : Route) (truncate append : Bool) :
    Except OsFault (OpenFile × FileTree) := do
  let l ← t.locate true { route with toDirectory := false }
  match t.get? l with
  | some .directory => throw .isDirectory
  | some (.file data executable) =>
    if route.toDirectory then throw .notDirectory
    return ({ location := l, append }, t.put l (.file (if truncate then [] else data) executable))
  | some _ =>
    if route.toDirectory then throw .notDirectory
    return ({ location := l, append }, t)
  | none =>
    if route.toDirectory then throw .isDirectory
    return ({ location := l, append }, t.put l (.file [] false))

/-- Opens a file for reading. A directory can be opened, but not read. -/
def openInput (t : FileTree) (route : Route) : Except OsFault Script := do
  match ← t.find true route with
  | (_, .directory) => return [.fail (.os .isDirectory)]
  | (_, .file data _) => return .ofBytes data
  | _ => return []

/-- Starts a file afresh. -/
def create (t : FileTree) (route : Route) : Except OsFault (OpenFile × FileTree) :=
  t.openOutput route true false

/-- Writes to an open file. What is written to a file that is gone is lost. -/
def write (t : FileTree) (f : OpenFile) (piece : Bytes) : Except OsFault (OpenFile × FileTree) :=
  match t.get? f.location with
  | some (.file data executable) =>
    let position := if f.append then data.length else f.position
    .ok ({ f with position := position + piece.length },
      t.put f.location (.file (overwrite data position piece) executable))
  | some (.device .full) => if piece = [] then .ok (f, t) else .error .noSpace
  | _ => .ok ({ f with position := f.position + piece.length }, t)

/-- Makes sure that what was written is kept. Devices keep nothing. -/
def sync (t : FileTree) (f : OpenFile) : Except OsFault Unit :=
  match t.get? f.location with
  | some (.device _) => .error .invalidArgument
  | _ => .ok ()

/-- Makes a directory. -/
def makeDirectory (t : FileTree) (route : Route) : Except OsFault FileTree := do
  let l ← t.locate false { route with toDirectory := false }
  match t.get? l with
  | some _ => throw .exists
  | none => return t.put l .directory

/-- Makes the directory with the given names, last one first, and those above that are missing. -/
def makeAll (t : FileTree) (absolute : Bool) : List FileName → Except OsFault FileTree
  | [] => .ok t
  | name :: up =>
    let route : Route :=
      { absolute, names := (name :: up).reverse, toDirectory := false }
    let orElse (t : FileTree) (fault : OsFault) : Except OsFault FileTree :=
      if t.isDirectory route then .ok t else .error fault
    match t.makeDirectory route with
    | .ok t => .ok t
    | .error .noEntry =>
      match makeAll t absolute up with
      | .error fault => .error fault
      | .ok t =>
        match t.makeDirectory route with
        | .ok t => .ok t
        | .error fault => orElse t fault
    | .error fault => orElse t fault

/-- Makes a directory and all that are missing above it. -/
def makeDirectories (t : FileTree) (route : Route) : Except OsFault FileTree :=
  t.makeAll route.absolute (route.names.filter (· ≠ Route.here)).reverse

/-- Makes a link. -/
def makeLink (t : FileTree) (target : Bytes) (route : Route) : Except OsFault FileTree := do
  let l ← t.locate false route
  match t.get? l with
  | some _ => throw .exists
  | none => return t.put l (.link target)

/-- Removes a file or a link. -/
def removeFile (t : FileTree) (route : Route) : Except OsFault FileTree := do
  match ← t.find false route with
  | (_, .directory) => throw .isDirectory
  | (l, _) => return t.erase l

/-- Removes an empty directory. -/
def removeDirectory (t : FileTree) (route : Route) : Except OsFault FileTree := do
  match ← t.find false route with
  | (l, .directory) =>
    if (t.children l).isEmpty then return t.erase l else throw .notEmpty
  | _ => throw .notDirectory

/-- Removes a file, a link, or a directory with all that is in it. -/
def removeTree (t : FileTree) (route : Route) : Except OsFault FileTree := do
  let (l, _) ← t.find false route
  return (t.eraseBelow l).erase l

/-- The tree with all that is at a location and below it moved elsewhere. -/
def moveTree (t : FileTree) (source target : Location) : FileTree :=
  let moved := t.entries.filterMap fun (l, e) =>
    if source.isPrefixOf l then some (target ++ l.drop source.length, e) else none
  let rest := ((t.eraseBelow source).erase source).erase target
  { rest with entries := moved ++ rest.entries }

/-- What stands at the new place must not be in the way. -/
def mayReplace (t : FileTree) (source target : Location) (e : Entry) : Except OsFault Unit :=
  match e, t.get? target with
  | .directory, some .directory =>
    if isBelow source target then .error .invalidArgument
    else if (t.children target).isEmpty then .ok () else .error .notEmpty
  | .directory, some _ => .error .notDirectory
  | .directory, none => if isBelow source target then .error .invalidArgument else .ok ()
  | _, some .directory => .error .isDirectory
  | _, _ => .ok ()

/-- Gives a file or directory another name, in place of what has that name. -/
def rename (t : FileTree) (old new : Route) : Except OsFault FileTree := do
  let (source, e) ← t.find false old
  let target ← t.locate false { new with toDirectory := new.toDirectory && e != .directory }
  if source = target then return t
  t.mayReplace source target e
  return t.moveTree source target

/-- Adds a file with its data, making the directories above it. -/
def addFile (t : FileTree) (route : Route) (data : Bytes) (executable : Bool) :
    Except OsFault FileTree := do
  let t ← t.makeAll route.absolute (route.names.dropLast.filter (· ≠ Route.here)).reverse
  let l ← t.locate true route
  match t.get? l with
  | some .directory => throw .isDirectory
  | _ => return t.put l (.file data executable)

end FileTree

end GuestVault
