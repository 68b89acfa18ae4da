import GuestVault.Json.Reader
import GuestVault.Text.Quoted

/-!
# TOML strings

The four kinds of strings: between double quotes with escapes, between single quotes without, and
both over several lines, between three quotes. Control characters must be escaped.
-/

namespace GuestVault.Toml

open GuestVault.Text

/-- The character may stand in a line as it is. -/
def isPlain (c : Char) : Bool :=
  c = '\t' || (0x20 ≤ c.toNat && c.toNat ≠ 0x7F)

/-- The value of so many hexadecimal digits, and what follows them. -/
def hexDigits? : Nat → Nat → List Char → Option (Nat × List Char)
  | 0, acc, s => some (acc, s)
  | _ + 1, _, [] => none
  | n + 1, acc, c :: r => do
    let d ← Json.hexValue? c
    hexDigits? n (acc * 16 + d) r

/-- The character with a number, unless there is none. -/
def charOf? (n : Nat) : Option Char :=
  if n < 0xD800 ∨ (0xDFFF < n ∧ n < 0x110000) then some (Char.ofNat n) else none

/-- The character that an escape names, after its backslash. -/
def escape? : List Char → Option (Char × List Char)
  | 'b' :: r => some ('\x08', r)
  | 't' :: r => some ('\t', r)
  | 'n' :: r => some ('\n', r)
  | 'f' :: r => some ('\x0c', r)
  | 'r' :: r => some ('\r', r)
  | 'e' :: r => some ('\x1b', r)
  | '"' :: r => some ('"', r)
  | '\\' :: r => some ('\\', r)
  | 'x' :: r => (hexDigits? 2 0 r).bind fun (n, r) => (charOf? n).map (·, r)
  | 'u' :: r => (hexDigits? 4 0 r).bind fun (n, r) => (charOf? n).map (·, r)
  | 'U' :: r => (hexDigits? 8 0 r).bind fun (n, r) => (charOf? n).map (·, r)
  | _ => none

/-- What a reader of characters gives: the characters, and what follows their end. -/
abbrev Chars := Option (List Char × List Char)

/-- The same with a character in front. -/
def Chars.cons (c : Char) (rest : Chars) : Chars :=
  rest.map fun (cs, s) => (c :: cs, s)

/-- The characters of a single-line string without escapes, after its quote. -/
def literal? : List Char → Chars
  | [] => none
  | '\'' :: r => some ([], r)
  | c :: r => if isPlain c then Chars.cons c (literal? r) else none

/-- The characters of a single-line string with escapes, after its quote. -/
def basicOn : Nat → List Char → Chars
  | 0, _ => none
  | fuel + 1, s =>
    match s with
    | [] => none
    | '"' :: r => some ([], r)
    | '\\' :: r => do
      let (c, r) ← escape? r
      Chars.cons c (basicOn fuel r)
    | c :: r => if isPlain c then Chars.cons c (basicOn fuel r) else none

/-- The characters of a single-line string with escapes, after its quote. -/
def basic? (s : List Char) : Chars := basicOn s.length s

/-- A line break in front is skipped. -/
def skipBreak : List Char → List Char
  | '\n' :: r => r
  | '\r' :: '\n' :: r => r
  | s => s

/-- Up to two quotes that stand before the closing three belong to the string. -/
def closing? (quote : Char) (s : List Char) : Chars :=
  let n := (s.takeWhile (· = quote)).length
  if 3 ≤ n ∧ n ≤ 5 then some (List.replicate (n - 3) quote, s.drop n) else none

/-- The blanks and line breaks in front are skipped. -/
def skipBlankLines : List Char → List Char
  | '\r' :: '\n' :: r => skipBlankLines r
  | c :: r => if c = ' ' || c = '\t' || c = '\n' then skipBlankLines r else c :: r
  | [] => []

/-- The rest after a backslash at the end of a line, without the blank space that it swallows. -/
def continuation? (s : List Char) : Option (List Char) :=
  match s.dropWhile fun c => c = ' ' || c = '\t' with
  | '\n' :: r => some (skipBlankLines r)
  | '\r' :: '\n' :: r => some (skipBlankLines r)
  | _ => none

/-- The characters of a string over several lines, after its quotes. -/
def linesOn (quote : Char) : Nat → List Char → Chars
  | 0, _ => none
  | fuel + 1, s =>
    match s with
    | [] => none
    | '\r' :: '\n' :: r => Chars.cons '\r' (Chars.cons '\n' (linesOn quote fuel r))
    | '\n' :: r => Chars.cons '\n' (linesOn quote fuel r)
    | c :: r =>
      if c = quote then
        match r with
        | d :: e :: _ =>
          if d = quote ∧ e = quote then closing? quote s
          else Chars.cons c (linesOn quote fuel r)
        | _ => Chars.cons c (linesOn quote fuel r)
      else if c = '\\' ∧ quote = '"' then
        match continuation? r with
        | some r => linesOn quote fuel r
        | none => do
          let (x, r) ← escape? r
          Chars.cons x (linesOn quote fuel r)
      else if isPlain c then Chars.cons c (linesOn quote fuel r)
      else none

/-- The string in front, and what follows it; over several lines only where that is allowed. -/
def string? (severalLines : Bool) : List Char → Option (String × List Char)
  | '"' :: '"' :: '"' :: r =>
    if severalLines then
      (linesOn '"' (r.length + 1) (skipBreak r)).map fun (cs, s) => (.ofList cs, s)
    else some ("", '"' :: r)
  | '\'' :: '\'' :: '\'' :: r =>
    if severalLines then
      (linesOn '\'' (r.length + 1) (skipBreak r)).map fun (cs, s) => (.ofList cs, s)
    else some ("", '\'' :: r)
  | '"' :: r => (basic? r).map fun (cs, s) => (.ofList cs, s)
  | '\'' :: r => (literal? r).map fun (cs, s) => (.ofList cs, s)
  | _ => none

end GuestVault.Toml
