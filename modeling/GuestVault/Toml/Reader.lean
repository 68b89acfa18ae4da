import GuestVault.Text.Utf8
import GuestVault.Toml.Document
import GuestVault.Toml.Quoted
import GuestVault.Toml.Scalar

/-!
# Reading TOML

A text is read line by line: a header, a key with its value, or nothing, and perhaps a comment.
Lists and tables in braces may be nested up to a limit. The fuel of the readers is the length of the
text, and every step takes at least one character.
-/

namespace GuestVault.Toml

/-- How deeply values may be nested. -/
def maxDepth : Nat := 80

/-- The rest after the blanks in front. -/
def skipBlanks (s : List Char) : List Char :=
  s.dropWhile fun c => c = ' ' || c = '\t'

/-- The rest after the comment in front, if there is one; it ends before the line does. -/
def skipComment? : List Char → Option (List Char)
  | '#' :: r =>
    match r.dropWhile isPlain with
    | [] => some []
    | '\n' :: r => some ('\n' :: r)
    | '\r' :: '\n' :: r => some ('\r' :: '\n' :: r)
    | _ => none
  | s => some s

/-- The rest after the line break in front. -/
def lineBreak? : List Char → Option (List Char)
  | '\n' :: r => some r
  | '\r' :: '\n' :: r => some r
  | _ => none

/-- The rest after blanks, comments and line breaks. -/
def skipSpaceOn : Nat → List Char → Option (List Char)
  | 0, s => some s
  | fuel + 1, s => do
    let s ← skipComment? (skipBlanks s)
    match lineBreak? s with
    | none => some s
    | some r => skipSpaceOn fuel r

/-- The rest after blanks, comments and line breaks. -/
def skipSpace? (s : List Char) : Option (List Char) := skipSpaceOn (s.length + 1) s

/-! ## Keys -/

/-- The character can be part of a key without quotes. -/
def isKeyChar (c : Char) : Bool :=
  ('a' ≤ c && c ≤ 'z') || ('A' ≤ c && c ≤ 'Z') || ('0' ≤ c && c ≤ '9') || c = '-' || c = '_'

/-- One key, and what follows it. -/
def key? (s : List Char) : Option (String × List Char) :=
  match string? false s with
  | some (key, r) => some (key, r)
  | none =>
    match s.takeWhile isKeyChar with
    | [] => none
    | cs => some (.ofList cs, s.dropWhile isKeyChar)

/-- Keys with dots between them. -/
def keysOn : Nat → List Char → Option (List String × List Char)
  | 0, _ => none
  | fuel + 1, s => do
    let (key, s) ← key? (skipBlanks s)
    match skipBlanks s with
    | '.' :: r => (keysOn fuel r).map fun (keys, s) => (key :: keys, s)
    | s => some ([key], s)

/-- Keys with dots between them, and what follows the blanks after them. -/
def keys? (s : List Char) : Option (List String × List Char) := keysOn (s.length + 1) s

/-! ## Values -/

mutual

/-- A value, and what follows it. -/
def value? : (fuel depth : Nat) → List Char → Option (Toml × List Char)
  | 0, _, _ => none
  | fuel + 1, depth, s =>
    match s with
    | '[' :: r =>
      match depth with
      | 0 => none
      | depth + 1 => (items? fuel depth r).map fun (xs, s) => (.array xs, s)
    | '\x7b' :: r =>
      match depth with
      | 0 => none
      | depth + 1 => (members? fuel depth [] r).map fun (ms, s) => (.table (finishMembers ms), s)
    | s =>
      match string? true s with
      | some (t, r) => some (.text t, r)
      | none =>
        let (front, r) := takeScalar s
        (scalar? front).map (·, r)

/-- The items of a list up to its closing bracket. -/
def items? : (fuel depth : Nat) → List Char → Option (List Toml × List Char)
  | 0, _, _ => none
  | fuel + 1, depth, s =>
    match skipSpace? s with
    | none => none
    | some (']' :: r) => some ([], r)
    | some s =>
      match value? fuel depth s with
      | none => none
      | some (x, s) =>
        match skipSpace? s with
        | some (',' :: r) => (items? fuel depth r).map fun (xs, s) => (x :: xs, s)
        | some (']' :: r) => some ([x], r)
        | _ => none

/-- The members of a table up to its closing brace, after those that were read already. -/
def members? : (fuel depth : Nat) → Members → List Char → Option (Members × List Char)
  | 0, _, _, _ => none
  | fuel + 1, depth, ms, s =>
    match skipSpace? s with
    | none => none
    | some ('\x7d' :: r) => some (ms, r)
    | some s =>
      match keys? s with
      | some (path, '=' :: r) =>
        match value? fuel depth (skipBlanks r) with
        | none => none
        | some (x, s) =>
          match ms.addPath path x with
          | none => none
          | some ms =>
            match skipSpace? s with
            | some (',' :: r) => members? fuel depth ms r
            | some ('\x7d' :: r) => some (ms, r)
            | _ => none
      | _ => none

end

/-! ## Statements -/

/-- The header after its opening bracket. -/
def header? (s : List Char) : Option (Statement × List Char) :=
  match s with
  | '[' :: s =>
    match keys? s with
    | some (path, ']' :: ']' :: r) => some (.itemHeader path, r)
    | _ => none
  | s =>
    match keys? s with
    | some (path, ']' :: r) => some (.header path, r)
    | _ => none

/-- A header, or a key with its value. -/
def statement? (s : List Char) : Option (Statement × List Char) :=
  match s with
  | '[' :: r => header? r
  | s =>
    match keys? s with
    | some (path, '=' :: r) =>
      (value? (r.length + 1) maxDepth (skipBlanks r)).map fun (x, s) => (.assign path x, s)
    | _ => none

/-- The statements of a text, at most one on each line. -/
def statementsOn : Nat → List Char → Option (List Statement)
  | 0, _ => none
  | fuel + 1, s => do
    match ← skipSpace? s with
    | [] => some []
    | s =>
      let (statement, s) ← statement? s
      let s ← skipComment? (skipBlanks s)
      match s with
      | [] => some [statement]
      | s =>
        let s ← lineBreak? s
        (statementsOn fuel s).map (statement :: ·)

/-- The rest after a byte order mark. -/
def skipMark : List Char → List Char
  | '\ufeff' :: r => r
  | s => s

/-- The table that a text describes. -/
def parse? (text : String) : Option Toml := do
  let s := skipMark text.toList
  Document.ofStatements? (← statementsOn (s.length + 1) s)

end GuestVault.Toml
