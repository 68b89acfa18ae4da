import GuestVault.FileTree.Walk
import GuestVault.Settings.Check
import GuestVault.Toml.Reader

/-!
# Settings files

Finding, reading and checking a settings file. A path is taken as it stands if there is such a file;
else the one with the extension of settings files after it is looked for. Bytes that are no text are
replaced, and a dotted key in quotes at the top addresses a nested value just as one without quotes.
-/

namespace GuestVault

open GuestVault.Text

namespace Toml

/-- The character can be part of a name in a dotted path. -/
def isPathChar (c : Char) : Bool :=
  ('a' ≤ c && c ≤ 'z') || ('A' ≤ c && c ≤ 'Z') || ('0' ≤ c && c ≤ '9') || c = '-' || c = '_'

/-- The names of a dotted path; any other key is a name of its own. -/
def pathOf (key : String) : List String :=
  let names := segments (· == '.') key.toList
  if names.all fun n => !n.isEmpty && n.all isPathChar then names.map String.ofList else [key]

/-- The members with a value at the end of a path. -/
def insertPath : List String → Toml → List (String × Toml) → List (String × Toml)
  | [], _, ms => ms
  | [key], v, ms => ms.filter (·.1 ≠ key) ++ [(key, v)]
  | key :: path, v, ms =>
    let child := match ms.lookup key with
      | some (.table child) => child
      | _ => []
    ms.filter (·.1 ≠ key) ++ [(key, .table (insertPath path v child))]

/-- The table with its dotted keys taken as paths. -/
def spread : Toml → Toml
  | .table ms =>
    let (plain, dotted) := ms.partition fun m => (pathOf m.1).length = 1
    .table (dotted.foldl (fun ms m => insertPath (pathOf m.1) m.2 ms) plain)
  | v => v

end Toml

namespace Settings

/-- The extension of settings files. -/
def fileExtension : FileName := utf8 "toml"

/-- The settings file that a path means. -/
def locate? (t : FileTree) (path : SystemPath) : Option SystemPath :=
  if t.isFile (.ofBytes path) then
    if path.extension? = some fileExtension then some path else none
  else
    let longer := path.withExtension fileExtension
    if t.isFile (.ofBytes longer) then some longer else none

/-- The bytes without a byte order mark in front. -/
def dropMark : Bytes → Bytes
  | 0xEF :: 0xBB :: 0xBF :: r => r
  | bs => bs

/-- The tree of a settings file. -/
def readFile? (t : FileTree) (path : SystemPath) : Option Toml := do
  let file ← locate? t path
  let bytes ← (t.read (.ofBytes file)).toOption
  Toml.parse? (lossy (dropMark bytes))

/-- Loads the settings that a path means. -/
def load (t : FileTree) (home : Option String) (path : SystemPath) : Except Failure Settings :=
  match readFile? t path with
  | none => .error (.context ("load " ++ path.shown) .settings)
  | some v =>
    match RawSettings.ofToml? v.spread with
    | none => .error (.context ("deserialize " ++ path.shown) .settings)
    | some raw =>
      raw.check {
        directory := path.directory
        home
        readFile := fun p =>
          if p.contains 0 then .error .nulInPath else (t.read (.ofBytes p)).mapError .os }

end Settings

end GuestVault
