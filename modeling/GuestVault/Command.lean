/-!
# Commands

A command is a program and its arguments. Its rendered form is a line for a shell: every word that
holds anything but harmless characters is quoted, so that a shell sees exactly these words.
-/

namespace GuestVault

/-- A program and its arguments. -/
structure Command where
  program : String
  args : List String := []
deriving Repr, DecidableEq

namespace Command

/-- The character means itself to a shell, wherever it stands. -/
def isInert (c : Char) : Bool :=
  ('a' ≤ c && c ≤ 'z') || ('A' ≤ c && c ≤ 'Z') || ('0' ≤ c && c ≤ '9') ||
    "_-./=:,+@%".toList.contains c

/-- The characters of a quoted word: a quote closes the quotation, is escaped, and opens it
again. -/
def quoteChars : List Char → List Char
  | [] => []
  | c :: r => if c = '\'' then "'\\''".toList ++ quoteChars r else c :: quoteChars r

/-- A word for a shell. -/
def quote (s : String) : String :=
  if s.toList = [] then "''"
  else if s.toList.all isInert then s
  else .ofList ('\'' :: quoteChars s.toList ++ ['\''])

/-- The words of a command, the program first. -/
def words (c : Command) : List String :=
  c.program :: c.args

/-- The line for a shell that runs a command. -/
def render (c : Command) : String :=
  " ".intercalate (c.words.map quote)

/-- The line for a shell that runs a command with its output going to a file. -/
def renderRedirect (c : Command) (target : String) : String :=
  c.render ++ " > " ++ quote target

end Command

end GuestVault
