import GuestVault.Archive.Compression

/-!
# Shell scripts

What a script is made of. Inside the shell a text is a list of octets, each the character with the
number of a byte, so that scripts and data need not be well-formed text.
-/

namespace GuestVault.Shell

/-- Bytes, each as the character with its number. -/
abbrev Octets := List Char

/-- The octets of some bytes. -/
def octets (bs : Bytes) : Octets := bs.map fun b => Char.ofNat b.toNat

/-- The bytes of some octets. -/
def bytesOf (s : Octets) : Bytes := s.map fun c => UInt8.ofNat c.toNat

/-- What takes the place of a parameter that is not there. -/
inductive Fallback where
  /-- The word itself. -/
  | use
  /-- The word, which the parameter is set to. -/
  | assign
  /-- The shell ends with the word as a message. -/
  | fail
  /-- The word takes the place of a parameter that is there. -/
  | replace
deriving Repr, DecidableEq

/-- Where a command's input comes from, or its output goes. -/
inductive RedirectOp where
  | read
  | write
  | append
  | readWrite
  | duplicate
  /-- The target is the input itself. -/
  | here
deriving Repr, DecidableEq

mutual

/-- A part of a word. -/
inductive Part where
  | plain (text : Octets)
  | quoted (text : Octets)
  | parameter (name : Octets) (edit : Edit) (quoted : Bool)
  | substitution (body : Command) (quoted : Bool)
  | arithmetic (body : List Part) (quoted : Bool)

/-- What is made of a parameter. -/
inductive Edit where
  | none
  | length
  /-- With a colon, an empty parameter counts as one that is not there. -/
  | fallback (kind : Fallback) (colon : Bool) (word : List Part)
  | trim (back longest : Bool) (pattern : List Part)

/-- A redirection of a file descriptor. -/
inductive Redirect where
  | mk (descriptor : Nat) (op : RedirectOp) (target : List Part)

/-- A command. -/
inductive Command where
  | simple (line : Nat) (assignments : List (Octets × List Part)) (words : List (List Part))
      (redirects : List Redirect)
  | pipeline (commands : List Command)
  | negation (body : Command)
  | both (first second : Command)
  | either (first second : Command)
  | sequence (commands : List Command)
  | background (body : Command)
  | subshell (body : Command)
  | choice (test body : Command) (otherwise : Command)
  /-- Repeats while the test succeeds, or until it does. -/
  | loop (while_ : Bool) (test body : Command)
  /-- Without words, the positional parameters are taken. -/
  | each (name : Octets) (words : Option (List (List Part))) (body : Command)
  | cases (subject : List Part) (arms : List (List (List Part) × Command))
  | function (name : Octets) (body : Command)
  | redirected (body : Command) (redirects : List Redirect)

end

/-- A word is made of parts. -/
abbrev Word := List Part

/-- The command that does nothing. -/
def Command.nothing : Command := .sequence []

instance : Inhabited Command := ⟨.nothing⟩

end GuestVault.Shell
