import GuestVault.Text.Part

/-!
# Paths

Paths are texts whose parts are separated by slashes. A path can be put behind the directory that it
starts from.
-/

namespace GuestVault.Text

/-- The text holds the character that ends texts in the operating system. -/
def holdsNul (s : String) : Bool :=
  s.toList.contains '\x00'

/-- The path starts at the root. -/
def isAbsolute (p : String) : Bool :=
  p.toList.head? = some '/'

/-- The path of something inside a directory. An absolute path stays itself. -/
def joinPath (dir p : String) : String :=
  if isAbsolute p then p
  else
    match dir.toList.getLast? with
    | none => p
    | some '/' => dir ++ p
    | some _ => dir ++ "/" ++ p

end GuestVault.Text
