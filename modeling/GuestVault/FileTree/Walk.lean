import GuestVault.Error
import GuestVault.FileTree
import GuestVault.Text.Utf8

/-!
# Paths in a file tree

A path is walked name by name. `.` and `..` lead to the directory itself and to the one above,
links are followed, and all but the last name must lead to directories.
-/

namespace GuestVault

/-- A path as the steps that it takes. -/
structure Route where
  absolute : Bool
  names : List FileName
  /-- The path ends in a slash: it can only mean a directory. -/
  toDirectory : Bool
deriving Repr, DecidableEq

namespace Route

/-- The byte between names. -/
def slash : UInt8 := 0x2F

/-- The name of the directory itself. -/
def here : FileName := [0x2E]

/-- The name of the directory above. -/
def above : FileName := [0x2E, 0x2E]

/-- The pieces between slashes. -/
def pieces : Bytes → List FileName
  | [] => [[]]
  | b :: r =>
    if b = slash then [] :: pieces r
    else
      match pieces r with
      | [] => [[b]]
      | p :: ps => (b :: p) :: ps

/-- The steps of a path. -/
def ofBytes (path : Bytes) : Route where
  absolute := path.head? = some slash
  names := (pieces path).filter (· ≠ [])
  toDirectory := path.getLast? = some slash

/-- The steps of a path. -/
def ofText (path : String) : Route :=
  ofBytes (Text.utf8 path)

/-- The steps of the empty path lead nowhere. -/
def isEmpty (r : Route) : Bool :=
  !r.absolute && r.names.isEmpty

/-- The steps, with one that only a directory allows where the path asks for one. -/
def steps (r : Route) : List FileName :=
  if r.toDirectory then r.names ++ [here] else r.names

end Route

namespace FileTree

open Route

/-- The longest name that a directory can hold. -/
def maxNameLength : Nat := 255

/-- How many links one path may lead through. -/
def maxLinks : Nat := 40

/-- Walks from a location along the names. What to do at a link is up to `onLink`. The last name
may be one that does not exist; `follow` says whether a link that it names is followed. -/
def walkNames (t : FileTree) (follow : Bool)
    (onLink : Location → List FileName → Except OsFault Location) :
    Location → List FileName → Except OsFault Location
  | at_, [] => .ok at_
  | at_, name :: rest =>
    match t.get? at_ with
    | none => .error .noEntry
    | some .directory =>
      if name = here then walkNames t follow onLink at_ rest
      else if name = above then walkNames t follow onLink at_.dropLast rest
      else if name.length > maxNameLength then .error .nameTooLong
      else
        match t.get? (at_ ++ [name]) with
        | none => if rest = [] then .ok (at_ ++ [name]) else .error .noEntry
        | some (.link target) =>
          if rest = [] ∧ follow = false then .ok (at_ ++ [name])
          else
            let route := ofBytes target
            onLink (if route.absolute then [] else at_) (route.steps ++ rest)
        | some _ => walkNames t follow onLink (at_ ++ [name]) rest
    | some _ => .error .notDirectory

/-- Walks along the names and through so many links. -/
def walk (t : FileTree) (follow : Bool) : Nat → Location → List FileName → Except OsFault Location
  | 0 => t.walkNames follow fun _ _ => .error .linkLoop
  | links + 1 => t.walkNames follow (t.walk follow links)

/-- The location that a path leads to. -/
def locate (t : FileTree) (follow : Bool) (route : Route) : Except OsFault Location :=
  if route.isEmpty then .error .noEntry
  else t.walk follow maxLinks (if route.absolute then [] else t.workingDirectory) route.steps

/-- The location that a path leads to, and what stands there. -/
def find (t : FileTree) (follow : Bool) (route : Route) : Except OsFault (Location × Entry) := do
  let l ← t.locate follow route
  match t.get? l with
  | none => throw .noEntry
  | some e => return (l, e)

/-- The path leads to a directory. -/
def isDirectory (t : FileTree) (route : Route) : Bool :=
  match t.find true route with
  | .ok (_, .directory) => true
  | _ => false

/-- The path leads to a file with data. -/
def isFile (t : FileTree) (route : Route) : Bool :=
  match t.find true route with
  | .ok (_, .file ..) | .ok (_, .program _) => true
  | _ => false

/-- The data of a file. -/
def read (t : FileTree) (route : Route) : Except OsFault Bytes := do
  match ← t.find true route with
  | (_, .file data _) => return data
  | (_, .directory) => throw .isDirectory
  | _ => return []

/-- The size that is reported for a directory. -/
def directorySize : Nat := 4096

/-- The size of a file. -/
def size (t : FileTree) (route : Route) : Except OsFault Nat := do
  match ← t.find true route with
  | (_, .file data _) => return data.length
  | (_, .directory) => return directorySize
  | _ => return 0

end FileTree

end GuestVault
