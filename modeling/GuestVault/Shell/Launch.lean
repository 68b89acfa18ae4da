import GuestVault.Shell.State

/-!
# Starting programs

Which program a command name stands for. A name with a slash is a path; any other name is looked for
in the directories of the search path. A file that begins with `#!` names the program that runs it.
-/

namespace GuestVault.Shell

/-- A program that is to be started. -/
structure Image where
  program : String
  /-- The name that it is started under. -/
  name : Octets
  arguments : List Octets
deriving Repr, DecidableEq

/-- The octets without blanks in front and at the end. -/
def trimBlanks (s : Octets) : Octets :=
  let isBlank (c : Char) : Bool := c = ' ' || c = '\t'
  ((s.dropWhile isBlank).reverse.dropWhile isBlank).reverse

/-- What starts when the file at a path is run. -/
def Image.ofFile (t : FileTree) (path : Octets) (args : List Octets) : Except OsFault Image := do
  match ← t.find true (routeOf path) with
  | (_, .program program) => return { program, name := path, arguments := args }
  | (_, .file data true) =>
    match octets data with
    | '#' :: '!' :: r =>
      let line := trimBlanks (r.takeWhile (· ≠ '\n'))
      let runner := line.takeWhile fun c => c ≠ ' ' && c ≠ '\t'
      let option := trimBlanks (line.drop runner.length)
      let options := if option.isEmpty then [] else [option]
      match ← t.find true (routeOf runner) with
      | (_, .program program) =>
        return { program, name := runner, arguments := options ++ path :: args }
      | _ => throw .accessDenied
    | _ => throw .execFormat
  | _ => throw .accessDenied

/-- The directories of a search path; an empty one is the working directory. -/
def searchDirectories (path : Octets) : List Octets :=
  path.splitOnP (· = ':')

/-- Tries the directories one after the other. A file that may not be run is passed over, and only
mentioned if no other is found. -/
def searchIn (t : FileTree) (name : Octets) (args : List Octets) :
    (refusal : OsFault) → List Octets → Except OsFault Image
  | refusal, [] => .error refusal
  | refusal, dir :: dirs =>
    let path := if dir.isEmpty then name else dir ++ '/' :: name
    match Image.ofFile t path args with
    | .ok image => .ok { image with name }
    | .error .noEntry | .error .notDirectory => searchIn t name args refusal dirs
    | .error .accessDenied => searchIn t name args .accessDenied dirs
    | .error fault => .error fault

/-- What a command name starts. -/
def Image.search (t : FileTree) (path name : Octets) (args : List Octets) : Except OsFault Image :=
  if name.isEmpty then .error .noEntry
  else if name.contains '/' then Image.ofFile t name args
  else searchIn t name args .noEntry (searchDirectories path)

end GuestVault.Shell
