import GuestVault.Text.Number
import GuestVault.Text.Quoted
import GuestVault.Toml.Value

/-!
# Writing TOML

A table of tables is written with one header for each. A text is written between double quotes if it
needs no escapes there, or else in the first of the other forms that needs none: single quotes, three
double quotes, three single quotes. Where every form needs escapes it is written with them.
-/

namespace GuestVault.Toml

open GuestVault.Text

/-- The longest run of a character. -/
def longestRun (c : Char) (s : List Char) : Nat :=
  (s.foldl (fun (run, best) x => if x = c then (run + 1, max (run + 1) best) else (0, best))
    (0, 0)).2

/-- The character can only be written as an escape. -/
def isControl (c : Char) : Bool :=
  (c.toNat < 0x20 && c ≠ '\t' && c ≠ '\n') || c.toNat = 0x7F

/-- The four hexadecimal digits of a number. -/
def fourHex (n : Nat) : List Char :=
  let digits := (hexChars n).map Char.toUpper
  List.replicate (4 - digits.length) '0' ++ digits

/-- How a character is written between double quotes; a quote is dealt with elsewhere. -/
def escapeChar (severalLines : Bool) (c : Char) : List Char :=
  if c = '\x08' then ['\\', 'b']
  else if c = '\t' then ['\\', 't']
  else if c = '\n' then if severalLines then [c] else ['\\', 'n']
  else if c = '\x0c' then ['\\', 'f']
  else if c = '\r' then ['\\', 'r']
  else if c = '\\' then ['\\', '\\']
  else if isControl c then '\\' :: 'u' :: fourHex c.toNat
  else [c]

/-- The characters between double quotes. After `allowed` quotes in a row the next one is escaped;
`run` counts the quotes that were just written. -/
def escapeChars (severalLines : Bool) (allowed : Nat) : Nat → List Char → List Char
  | _, [] => []
  | run, c :: r =>
    if c = '"' then
      if run < allowed then c :: escapeChars severalLines allowed (run + 1) r
      else '\\' :: '"' :: escapeChars severalLines allowed 0 r
    else escapeChar severalLines c ++ escapeChars severalLines allowed 0 r

/-- The form in which a text is written. -/
inductive StringForm where
  | basic
  | literal
  | basicLines
  | literalLines
deriving Repr, DecidableEq

/-- The form for a text. -/
def formOf (s : List Char) : StringForm :=
  let control := s.any isControl
  let newline := s.contains '\n'
  let doubles := longestRun '"' s
  let singles := longestRun '\'' s
  let escape := s.contains '\\'
  if !control && !escape && doubles = 0 && !newline then .basic
  else if !control && singles = 0 && !newline then .literal
  else if !control && !escape && doubles ≤ 2 then .basicLines
  else if !control && singles ≤ 2 then .literalLines
  else if newline then .basicLines
  else .basic

/-- A text in a form; text over several lines starts on a line of its own. -/
def writeText (s : List Char) : List Char :=
  let start := if s.contains '\n' then ['\n'] else []
  match formOf s with
  | .basic => '"' :: escapeChars false 0 0 s ++ ['"']
  | .literal => '\'' :: s ++ ['\'']
  | .basicLines => ['"', '"', '"'] ++ start ++ escapeChars true 2 0 s ++ ['"', '"', '"']
  | .literalLines => ['\'', '\'', '\''] ++ start ++ s ++ ['\'', '\'', '\'']

/-- A value that can be written on one line after its key. -/
inductive Item where
  | text (value : String)
  | natural (value : Nat)
  | boolean (value : Bool)
deriving Repr, DecidableEq

/-- The value itself. -/
def Item.toml : Item → Toml
  | text s => Toml.text s
  | natural n => Toml.integer n
  | boolean b => Toml.boolean b

/-- How a value is written. -/
def Item.write : Item → String
  | text s => .ofList (writeText s.toList)
  | natural n => toString n
  | boolean b => toString b

/-- Named tables, each with its items in order. -/
abbrev Tables := List (String × List (String × Item))

/-- The value that tables make up. -/
def Tables.toml (tables : Tables) : Toml :=
  .table (tables.map fun (name, items) => (name, .table (items.map fun (k, v) => (k, v.toml))))

/-- One table under its header. -/
def writeTable (name : String) (items : List (String × Item)) : String :=
  "[" ++ name ++ "]\n" ++ String.join (items.map fun (k, v) => k ++ " = " ++ v.write ++ "\n")

/-- Tables with an empty line between them. -/
def Tables.write (tables : Tables) : String :=
  "\n".intercalate (tables.map fun (name, items) => writeTable name items)

end GuestVault.Toml
