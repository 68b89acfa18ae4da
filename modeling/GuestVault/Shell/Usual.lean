import GuestVault.Shell.Programs

/-!
# The usual machine

A machine with the programs, devices and directories that scripts count on.
-/

namespace GuestVault.Shell

/-- Names as a location. -/
def locationOf (names : List String) : Location := names.map Text.utf8

/-- The programs that every machine has, shells included. -/
def programNames : List String :=
  ["sh", "env"] ++ programs.map Prod.fst

/-- A machine with nothing but the usual things on it, and where one works on it. -/
def usualTree (workingDirectory : Location) : FileTree where
  entries :=
    [(workingDirectory, .directory)] ++
    [["bin"], ["usr"], ["usr", "bin"], ["dev"], ["proc"], ["proc", "self"], ["tmp"], ["etc"],
      ["var"]].map (fun names => (locationOf names, .directory)) ++
    [(locationOf ["dev", "null"], .device .null), (locationOf ["dev", "zero"], .device .zero),
      (locationOf ["dev", "full"], .device .full),
      (locationOf ["proc", "self", "cwd"], .link (bytesOf (pathOf workingDirectory)))] ++
    programNames.flatMap fun name =>
      [(locationOf ["bin", name], .program name), (locationOf ["usr", "bin", name], .program name)]
  workingDirectory := workingDirectory

end GuestVault.Shell
