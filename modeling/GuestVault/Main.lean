import GuestVault.Program
import GuestVault.Shell.Usual

/-!
# The executable

Reads the working directory, runs the program on what was read, shows what it shows, and writes back
the files that are new or different. Everything else is decided by `Program.run`.
-/

namespace GuestVault.Executable

/-- How deep directories are followed. -/
def maxDepth : Nat := 64

/-- Where the working directory stands while the program runs. -/
def place : Location := Shell.locationOf ["work"]

/-- The names below the working directory as a path. -/
def pathOf (names : List String) : String :=
  "/".intercalate ("." :: names)

/-- The names of a directory's entries. -/
def entryNames (path : String) : IO (List String) := do
  let dir ← IO.FS.realPath path
  return ((← dir.readDir).map fun e => e.fileName).toList

/-- The path leads to a directory. -/
def isDirectory (path : String) : IO Bool := do
  return ← (← IO.FS.realPath path).isDir

/-- Adds what stands below some names to a tree. The files in the directory `bin` can be run. -/
def snapshot : Nat → List String → FileTree → IO FileTree
  | 0, _, t => pure t
  | depth + 1, names, t => do
    (← entryNames (pathOf names)).foldlM (fun t name => do
      let here := names ++ [name]
      let l := place ++ Shell.locationOf here
      if ← isDirectory (pathOf here) then snapshot depth here (t.put l .directory)
      else
        let data ← IO.FS.readBinFile (pathOf here)
        return t.put l (.file data.toList (names = ["bin"]))) t

/-- Writes back what is different, directories before what is in them. -/
def writeBack (before after : FileTree) : IO Unit := do
  let pathTo (l : Location) : String := pathOf ((l.drop place.length).map Text.lossy)
  for (l, e) in before.entries do
    if let .file .. := e then
      if (after.get? l).isNone then IO.FS.removeFile (pathTo l)
  for (l, e) in after.entries.mergeSort (fun a b => a.1.length ≤ b.1.length) do
    if l.take place.length = place ∧ before.get? l ≠ some e then
      let path := pathTo l
      match e with
      | .file data _ => IO.FS.writeBinFile path ⟨data.toArray⟩
      | .directory => IO.FS.createDirAll path
      | _ => pure ()

/-- The variables of the environment that the program looks at. -/
def environment : IO (List (String × String)) := do
  let names := ["PATH", "HOME", Program.filterVariable]
  return (← names.mapM fun name => do
    return (← IO.getEnv name).map fun value => (name, value)).filterMap id

/-- The present moment: the time at which this process began to be listed. -/
def now : IO Time.Moment := do
  let modified := (← (← IO.FS.realPath "/proc/self").metadata).modified
  return { unix := modified.sec, nanos := modified.nsec.toNat, offset := 0 }

end GuestVault.Executable

open GuestVault GuestVault.Executable in
/-- Runs the program. -/
def main (args : List String) : IO UInt32 := do
  let before ← snapshot maxDepth [] (Shell.usualTree place)
  let outcome := Program.run args (← environment) (← now) before
  (← IO.getStdout).putStr outcome.stdout
  (← IO.getStderr).putStr outcome.stderr
  writeBack before outcome.tree
  return outcome.exit.toUInt32
