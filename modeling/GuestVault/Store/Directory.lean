import GuestVault.FileTree.Edit
import GuestVault.Record
import GuestVault.Text.Path

/-!
# Directory stores

A store that is a flat directory with one file for each record. A record is written under a
temporary name first and gets its own name when it is complete, so no file with the name of a record
is ever incomplete. Temporary names are skipped when the records are listed.
-/

namespace GuestVault

open GuestVault.Text

/-- A directory of records. -/
structure DirectoryStore where
  root : String
deriving Repr, DecidableEq

/-- Failures of the operating system in a job. -/
def osFailure {α : Type} (context : String) : Except OsFault α → Except Failure α
  | .ok a => .ok a
  | .error fault => .error (.context context (.io (.os fault)))

namespace DirectoryStore

/-- What temporary names begin with. -/
def temporaryPrefix : String := ".tmp-"

/-- Opens a store; its directory is made if need be. No NUL gets into a path of the store but with
a name, because one in the path of the directory is refused here. -/
def open? (root : String) (t : FileTree) : Except Failure (DirectoryStore × FileTree) :=
  let context := "create store " ++ root
  if holdsNul root then .error (.context context (.io .nulInPath))
  else (osFailure context (t.makeDirectories (.ofText root))).map fun t => ({ root }, t)

/-- The path of a file in the store. -/
def path (s : DirectoryStore) (name : String) : String :=
  joinPath s.root name

/-- The name that a record is stored under. -/
def nameOf (pathname : String) : Except Failure String :=
  let name := basename pathname
  if name = "" ∨ name = "." ∨ name = ".." then
    .error (.text ("invalid record name: " ++ quoted pathname))
  else .ok name

/-- The tree without a file, if it can be removed. -/
def discard (path : String) (t : FileTree) : FileTree :=
  match t.removeFile (.ofText path) with
  | .ok t => t
  | .error _ => t

/-- Where the refusal of a write is noticed: small data is held back until the end. -/
def writeContext (pathname temporary : String) (data : Bytes) : String :=
  if data.length < pieceSize then "flush " ++ temporary else "store " ++ pathname

/-- Writes a temporary file; gives the number of bytes. -/
def fill {ρ : Type} [ByteSource ρ] (pathname temporary : String) (reader : ρ) (t : FileTree) :
    (Except Failure Nat × ρ) × FileTree :=
  match t.create (.ofText temporary) with
  | .error fault => ((osFailure ("create " ++ temporary) (.error fault), reader), t)
  | .ok (file, t) =>
    let (result, data, reader) := readToEnd reader
    match t.write file data with
    | .error fault =>
      ((osFailure (writeContext pathname temporary data) (.error fault), reader), t)
    | .ok (file, t) =>
      match result with
      | .error e => ((.error (.context ("store " ++ pathname) (.io e)), reader), t)
      | .ok () =>
        ((osFailure ("sync " ++ temporary) ((t.sync file).map fun () => data.length), reader), t)

/-- Stores a record. -/
def put {ρ : Type} [ByteSource ρ] (s : DirectoryStore) (pathname : String) (reader : ρ)
    (t : FileTree) : (Except Failure Nat × ρ) × FileTree :=
  match nameOf pathname with
  | .error f => ((.error f, reader), t)
  | .ok name =>
    let temporary := s.path (temporaryPrefix ++ name)
    let target := s.path name
    if holdsNul name then
      ((.error (.context ("create " ++ temporary) (.io .nulInPath)), reader), t)
    else
      match fill pathname temporary reader t with
      | ((.error f, reader), t) => ((.error f, reader), discard temporary t)
      | ((.ok count, reader), t) =>
        match t.rename (.ofText temporary) (.ofText target) with
        | .ok t => ((.ok count, reader), t)
        | .error fault =>
          ((osFailure ("rename " ++ temporary ++ " -> " ++ target) (.error fault), reader), t)

/-- The store as a sink. -/
def sink (s : DirectoryStore) : RecordSink FileTree where
  put := s.put

/-- The entry is a file with data of its own. -/
def isRegular : Entry → Bool
  | .file .. | .program _ => true
  | _ => false

/-- The names of all records, in order. Bytes that are no text are replaced. -/
def names (s : DirectoryStore) (t : FileTree) : Except Failure (List String) := do
  let dir ← osFailure ("read store " ++ s.root) (t.find true (.ofText s.root))
  match dir with
  | (l, .directory) =>
    let found := (t.children l).filterMap fun (name, e) =>
      if isRegular e then some (lossy name) else none
    return (found.filter fun name =>
        (dropFront? temporaryPrefix.toList name.toList).isNone).mergeSort
  | _ => osFailure ("read store " ++ s.root) (.error .notDirectory)

/-- Opens the record of a name. -/
def record (s : DirectoryStore) (name : String) (t : FileTree) : Except Failure (Record Script) :=
  (osFailure ("open " ++ s.path name) (t.openInput (.ofText (s.path name)))).map fun reader =>
    { pathname := "/" ++ name, reader }

end DirectoryStore

end GuestVault
