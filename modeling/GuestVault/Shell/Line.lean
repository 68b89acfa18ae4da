/-!
# Tokens of a line

How a shell splits a line into words and operators, before it looks for commands in them. Single
quotes and backslashes take away the meaning of other characters. A character that is left bare can
separate words or be an operator. It may also begin double quotes, an expansion, a pattern or a
comment: `tokens` does not look at these, and `bare` tells which characters a line leaves bare.
-/

namespace GuestVault.Shell.Line

/-! ## Quoting -/

/-- What a character of a line is to a shell. -/
inductive Role where
  /-- Neither quoted nor escaped. -/
  | bare
  /-- Means itself, because it is quoted or escaped. -/
  | literal
  /-- A quote or a backslash, which takes away the meaning of others and is part of no word. -/
  | mark
deriving Repr, DecidableEq

/-- A character of a line, and what it is to a shell. -/
abbrev Marked := Char × Role

/-- Where in a line a shell is. -/
inductive Place where
  | outside
  /-- Between quotes. -/
  | inside
  /-- Behind a backslash outside quotes. -/
  | escaped
deriving Repr, DecidableEq

/-- The rest of a line. There is none if the quotes are not closed, or if nothing follows a
backslash; a backslash and the line break after it are no part of the line. -/
def marked? : Place → List Char → Option (List Marked)
  | .outside, [] => some []
  | .outside, c :: r =>
    if c = '\'' then (marked? .inside r).map ((c, .mark) :: ·)
    else if c = '\\' then marked? .escaped r
    else (marked? .outside r).map ((c, .bare) :: ·)
  | .inside, [] => none
  | .inside, c :: r =>
    if c = '\'' then (marked? .outside r).map ((c, .mark) :: ·)
    else (marked? .inside r).map ((c, .literal) :: ·)
  | .escaped, [] => none
  | .escaped, c :: r =>
    if c = '\n' then marked? .outside r
    else (marked? .outside r).map fun line => ('\\', .mark) :: (c, .literal) :: line

/-- A line as a shell reads it. -/
def lineOf? (text : String) : Option (List Marked) :=
  marked? .outside text.toList

/-- The characters that are neither quoted nor escaped. -/
def bare (line : List Marked) : List Char :=
  line.filterMap fun (c, role) => if role = .bare then some c else none

/-! ## Tokens -/

/-- A word, without what quoted it, or an operator. -/
inductive Token where
  | word (text : List Char)
  | operator (text : List Char)
deriving Repr, DecidableEq

/-- The character separates tokens. -/
def isBlank (c : Char) : Bool :=
  c = ' ' || c = '\t'

/-- The operators of a shell. -/
def operators : List (List Char) :=
  ["&", "&&", "|", "||", ";", ";;", "<", "<<", "<<-", "<&", "<>", ">", ">>", ">&", ">|", "(", ")",
    "\n"].map String.toList

/-- The characters are an operator. -/
def isOperator (o : List Char) : Bool :=
  operators.contains o

namespace Token

/-- The token that a character begins; a blank begins none. -/
def begin? : Marked → Option Token
  | (c, .bare) =>
    if isBlank c then none
    else if isOperator [c] then some (.operator [c])
    else some (.word [c])
  | (c, .literal) => some (.word [c])
  | (_, .mark) => some (.word [])

/-- The longer token, if a token goes on with a character. -/
def extend? : Token → Marked → Option Token
  | .operator o, (c, .bare) =>
    if isOperator (o ++ [c]) then some (.operator (o ++ [c])) else none
  | .operator _, _ => none
  | .word w, (c, .bare) =>
    if isBlank c || isOperator [c] then none else some (.word (w ++ [c]))
  | .word w, (c, .literal) => some (.word (w ++ [c]))
  | .word w, (_, .mark) => some (.word w)

end Token

/-- The tokens of the rest of a line, with the one that was begun before it. -/
def tokensAfter : Option Token → List Marked → List Token
  | begun?, [] => begun?.toList
  | begun?, m :: line =>
    match begun?.bind (·.extend? m) with
    | some longer => tokensAfter (some longer) line
    | none => begun?.toList ++ tokensAfter (Token.begin? m) line

/-- The tokens of a line. -/
def tokens (line : List Marked) : List Token :=
  tokensAfter none line

example : (lineOf? "a  'b;c'd>\\ e").map tokens =
    some [.word ['a'], .word ['b', ';', 'c', 'd'], .operator ['>'], .word [' ', 'e']] := by
  decide

end GuestVault.Shell.Line
