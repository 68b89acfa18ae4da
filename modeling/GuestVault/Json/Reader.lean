import GuestVault.Json.Value
import GuestVault.Text.Utf8

/-!
# Reading JSON

From bytes to the tree. The text is read as characters and gaps (`Text.scalars`); a gap is
tolerated inside a string, which then is no text, and nowhere else. Nesting is unlimited: the fuel
of the readers is the length of the input, and every step takes at least one symbol.
-/

namespace GuestVault.Json

open GuestVault.Text

/-- A character of the input, or bytes that are none. -/
abbrev Symbols := List (Option Char)

/-- The input without the white space in front. -/
def skipSpace : Symbols → Symbols
  | some c :: r =>
    if c = ' ' || c = '\t' || c = '\n' || c = '\r' then skipSpace r else some c :: r
  | s => s

/-- What follows a literal. -/
def afterWord? : List Char → Symbols → Option Symbols
  | [], s => some s
  | c :: w, some x :: s => if x = c then afterWord? w s else none
  | _ :: _, _ => none

/-! ## Numbers -/

/-- The digits in front, and what follows them. -/
def takeDigits : Symbols → List Char × Symbols
  | some c :: r =>
    if (digit? c).isSome then (c :: (takeDigits r).1, (takeDigits r).2) else ([], some c :: r)
  | s => ([], s)

/-- The whole part of a number: no zero in front of another digit. -/
def wholePart? (s : Symbols) : Option (List Char × Symbols) :=
  match takeDigits s with
  | ([], _) => none
  | ('0' :: _ :: _, _) => none
  | (ds, r) => some (ds, r)

/-- An optional fraction. -/
def fraction? : Symbols → Option (List Char × Symbols)
  | some '.' :: r =>
    match takeDigits r with
    | ([], _) => none
    | (ds, r) => some ('.' :: ds, r)
  | s => some ([], s)

/-- The sign of an exponent. -/
def exponentSign : Symbols → List Char × Symbols
  | some '+' :: r => (['+'], r)
  | some '-' :: r => (['-'], r)
  | s => ([], s)

/-- An optional exponent. -/
def exponent? : Symbols → Option (List Char × Symbols)
  | some c :: r =>
    if c = 'e' || c = 'E' then
      let (sign, r) := exponentSign r
      match takeDigits r with
      | ([], _) => none
      | (ds, r) => some (c :: sign ++ ds, r)
    else some ([], some c :: r)
  | s => some ([], s)

/-- A number without its sign. -/
def unsigned? (s : Symbols) : Option (List Char × Symbols) := do
  let (whole, s) ← wholePart? s
  let (fraction, s) ← fraction? s
  let (exponent, s) ← exponent? s
  some (whole ++ fraction ++ exponent, s)

/-! ## Strings -/

/-- A piece of a string: a character, an escaped 16-bit unit, or bytes that are no character. -/
inductive Piece where
  | char (c : Char)
  | unit (n : Nat)
  | gap

/-- The value of a hexadecimal digit. -/
def hexValue? (c : Char) : Option Nat :=
  if '0' ≤ c && c ≤ '9' then some (c.toNat - '0'.toNat)
  else if 'a' ≤ c && c ≤ 'f' then some (c.toNat - 'a'.toNat + 10)
  else if 'A' ≤ c && c ≤ 'F' then some (c.toNat - 'A'.toNat + 10)
  else none

/-- The character of a short escape. -/
def shortEscape? : Char → Option Char
  | '"' => some '"'
  | '\\' => some '\\'
  | '/' => some '/'
  | 'b' => some '\x08'
  | 'f' => some '\x0c'
  | 'n' => some '\n'
  | 'r' => some '\r'
  | 't' => some '\t'
  | _ => none

/-- The pieces of a string up to its closing quote, and what follows it. -/
def pieces? : Symbols → Option (List Piece × Symbols)
  | [] => none
  | none :: r => (pieces? r).map fun (ps, s) => (.gap :: ps, s)
  | some '"' :: r => some ([], r)
  | some '\\' :: some 'u' :: some a :: some b :: some c :: some d :: r => do
    let n := (← hexValue? a) * 4096 + (← hexValue? b) * 256 + (← hexValue? c) * 16 + (← hexValue? d)
    (pieces? r).map fun (ps, s) => (.unit n :: ps, s)
  | some '\\' :: some e :: r => do
    let c ← shortEscape? e
    (pieces? r).map fun (ps, s) => (.char c :: ps, s)
  | some c :: r =>
    if c.toNat < 0x20 || c = '\\' then none
    else (pieces? r).map fun (ps, s) => (.char c :: ps, s)

/-- The unit is the first half of a surrogate pair. -/
def isHighUnit (n : Nat) : Bool := 0xD800 ≤ n && n ≤ 0xDBFF

/-- The unit is the second half of a surrogate pair. -/
def isLowUnit (n : Nat) : Bool := 0xDC00 ≤ n && n ≤ 0xDFFF

/-- The characters of the pieces; surrogates must come in pairs. -/
def assemble? : List Piece → Option (List Char)
  | [] => some []
  | .char c :: r => (assemble? r).map (c :: ·)
  | .gap :: _ => none
  | .unit n :: .unit m :: r =>
    if isHighUnit n then
      if isLowUnit m then
        (assemble? r).map (Char.ofNat (0x10000 + (n - 0xD800) * 0x400 + (m - 0xDC00)) :: ·)
      else none
    else if isLowUnit n then none
    else (assemble? (.unit m :: r)).map (Char.ofNat n :: ·)
  | .unit n :: r =>
    if isHighUnit n || isLowUnit n then none else (assemble? r).map (Char.ofNat n :: ·)

/-- A string after its opening quote. -/
def string? (s : Symbols) : Option (Option String × Symbols) :=
  (pieces? s).map fun (ps, s) => ((assemble? ps).map String.ofList, s)

/-! ## Values -/

mutual

/-- A value, with white space allowed in front. -/
def value? : Nat → Symbols → Option (Json × Symbols)
  | 0, _ => none
  | fuel + 1, s =>
    match skipSpace s with
    | some 'n' :: r => (afterWord? ['u', 'l', 'l'] r).map fun s => (.null, s)
    | some 't' :: r => (afterWord? ['r', 'u', 'e'] r).map fun s => (.bool true, s)
    | some 'f' :: r => (afterWord? ['a', 'l', 's', 'e'] r).map fun s => (.bool false, s)
    | some '"' :: r => (string? r).map fun (t, s) => (.string t, s)
    | some '[' :: r =>
      match skipSpace r with
      | some ']' :: s => some (.array [], s)
      | s => (items? fuel s).map fun (xs, s) => (.array xs, s)
    | some '\x7b' :: r =>
      match skipSpace r with
      | some '\x7d' :: s => some (.object [], s)
      | s => (members? fuel s).map fun (ms, s) => (.object ms, s)
    | some '-' :: r => (unsigned? r).map fun (ds, s) => (.number ('-' :: ds), s)
    | s => (unsigned? s).map fun (ds, s) => (.number ds, s)

/-- The items of an array, at least one, and its closing bracket. -/
def items? : Nat → Symbols → Option (List Json × Symbols)
  | 0, _ => none
  | fuel + 1, s =>
    match value? fuel s with
    | none => none
    | some (x, s) =>
      match skipSpace s with
      | some ',' :: r => (items? fuel r).map fun (xs, s) => (x :: xs, s)
      | some ']' :: r => some ([x], r)
      | _ => none

/-- The members of an object, at least one, and its closing brace. -/
def members? : Nat → Symbols → Option (List (Option String × Json) × Symbols)
  | 0, _ => none
  | fuel + 1, s =>
    match skipSpace s with
    | some '"' :: r =>
      match string? r with
      | none => none
      | some (k, s) =>
        match skipSpace s with
        | some ':' :: r =>
          match value? fuel r with
          | none => none
          | some (v, s) =>
            match skipSpace s with
            | some ',' :: r => (members? fuel r).map fun (ms, s) => ((k, v) :: ms, s)
            | some '\x7d' :: r => some ([(k, v)], r)
            | _ => none
        | _ => none
    | _ => none

end

/-- The value of a whole text; only white space may follow it. -/
def parse? (bytes : Bytes) : Option Json :=
  let s := scalars bytes
  match value? (s.length + 1) s with
  | some (j, rest) => if (skipSpace rest).isEmpty then some j else none
  | none => none

end GuestVault.Json
