import GuestVault.Shell.State
import GuestVault.Text.Number

/-!
# Formatted output

What `echo` and `printf` print: escapes with a backslash, and a format whose directives take the
arguments one after the other, over again while there are any left.
-/

namespace GuestVault.Shell

open GuestVault.Text

/-- The octal digits in front, at most so many, their value, and what follows them. -/
def octal : Nat → Nat → Octets → Nat × Octets
  | n + 1, acc, c :: r =>
    if '0' ≤ c && c ≤ '7' then octal n (acc * 8 + (c.toNat - 48)) r else (acc, c :: r)
  | _, acc, s => (acc, s)

/-- The octet of an escape with one letter. -/
def letterEscape? : Char → Option Char
  | 'a' => some '\x07'
  | 'b' => some '\x08'
  | 'f' => some '\x0c'
  | 'n' => some '\n'
  | 'r' => some '\r'
  | 't' => some '\t'
  | 'v' => some '\x0b'
  | '\\' => some '\\'
  | _ => none

/-- One escape after its backslash: the octets that it stands for, and what follows it. -/
def escapeOf (s : Octets) : Octets × Octets :=
  match s with
  | [] => (['\\'], [])
  | c :: r =>
    match letterEscape? c with
    | some x => ([x], r)
    | none =>
      if '0' ≤ c && c ≤ '7' then
        let (n, r) := octal 3 0 s
        ([Char.ofNat (n % 256)], r)
      else (['\\', c], r)

/-- A text with its escapes carried out, and whether it asks for the end of all output. -/
def unescapeOn : Nat → Octets → Octets × Bool
  | 0, s => (s, false)
  | fuel + 1, s =>
    match s with
    | [] => ([], false)
    | '\\' :: 'c' :: _ => ([], true)
    | '\\' :: '0' :: r =>
      let (n, r) := octal 3 0 r
      let (more, done) := unescapeOn fuel r
      (Char.ofNat (n % 256) :: more, done)
    | '\\' :: r =>
      let (x, r) := escapeOf r
      let (more, done) := unescapeOn fuel r
      (x ++ more, done)
    | c :: r =>
      let (more, done) := unescapeOn fuel r
      (c :: more, done)

/-- What `echo` prints. -/
def echo (args : List Octets) : Octets :=
  let (newline, args) := match args with
    | ['-', 'n'] :: rest => (false, rest)
    | args => (true, args)
  let text := [' '].intercalate args
  let (text, done) := unescapeOn (text.length + 1) text
  if newline ∧ done = false then text ++ ['\n'] else text

/-- A directive of a format. -/
structure Directive where
  flags : Octets
  width : Nat
  precision : Option Nat
  letter : Char
deriving Repr

/-- The digits in front as a number. -/
def takeNumber (s : Octets) : Nat × Octets :=
  let ds := s.takeWhile fun c => '0' ≤ c && c ≤ '9'
  (digitsValue ds, s.drop ds.length)

/-- A text padded to a width. -/
def padTo (d : Directive) (s : Octets) : Octets :=
  let fill := d.width - s.length
  if '-' ∈ d.flags then s ++ List.replicate fill ' ' else List.replicate fill ' ' ++ s

/-- An integer argument: its value, unless it is none; a quote gives the number of an octet. -/
def integerArgument? (s : Octets) : Option Int :=
  match s with
  | [] => some 0
  | '\'' :: c :: _ => some (c.toNat : Int)
  | '"' :: c :: _ => some (c.toNat : Int)
  | '-' :: r => (numberIn? r).map (-·)
  | '+' :: r => numberIn? r
  | r => numberIn? r
where
  /-- An unsigned number, octal or hexadecimal if it says so. -/
  numberIn? (s : Octets) : Option Int :=
    let (base, ds) := match s with
      | '0' :: 'x' :: r => (16, r)
      | '0' :: d :: r => (8, d :: r)
      | s => (10, s)
    let value (c : Char) : Nat :=
      if '0' ≤ c && c ≤ '9' then c.toNat - 48
      else if 'a' ≤ c && c ≤ 'f' then c.toNat - 87
      else if 'A' ≤ c && c ≤ 'F' then c.toNat - 55
      else 99
    if ds.isEmpty ∨ !ds.all (fun c => value c < base) then none
    else some (ds.foldl (fun acc c => acc * base + value c) 0 : Nat)

/-- An integer as a directive wants it. -/
def formatInteger (d : Directive) (n : Int) : Octets :=
  let magnitude := if d.letter = 'd' ∨ d.letter = 'i' then n.natAbs else (n % Int.pow 2 64).toNat
  let base := if d.letter = 'o' then 8 else if d.letter = 'x' ∨ d.letter = 'X' then 16 else 10
  let ds := Nat.toDigits base magnitude
  let ds := if d.letter = 'X' then ds.map Char.toUpper else ds
  let ds := List.replicate ((d.precision.getD 1) - ds.length) '0' ++ ds
  let signed := d.letter = 'd' ∨ d.letter = 'i'
  let sign :=
    if signed ∧ n < 0 then ['-'] else if signed ∧ '+' ∈ d.flags then ['+']
    else if signed ∧ ' ' ∈ d.flags then [' '] else []
  if '0' ∈ d.flags ∧ '-' ∉ d.flags ∧ d.precision.isNone then
    sign ++ List.replicate (d.width - sign.length - ds.length) '0' ++ ds
  else padTo d (sign ++ ds)

/-- The directive after a percent sign; a star takes its number from the arguments. -/
def directive? (s : Octets) (args : List Octets) : Option (Directive × Octets × List Octets) := do
  let flags := s.takeWhile fun c => c = '-' || c = '+' || c = ' ' || c = '0' || c = '#'
  let s := s.drop flags.length
  let number (s : Octets) (args : List Octets) : Nat × Octets × List Octets :=
    match s with
    | '*' :: r => (((integerArgument? (args.headD [])).getD 0).toNat, r, args.drop 1)
    | s =>
      let (n, r) := takeNumber s
      (n, r, args)
  let (width, s, args) := number s args
  let (precision, s, args) : Option Nat × Octets × List Octets := match s with
    | '.' :: r =>
      let (n, r, args) := number r args
      (some n, r, args)
    | s => (none, s, args)
  match s with
  | letter :: r => some ({ flags, width, precision, letter }, r, args)
  | [] => none

/-- What a format prints in one pass. -/
structure Printed where
  text : Octets
  /-- The arguments that are left. -/
  rest : List Octets
  complaints : List String := []
  /-- All output is at its end. -/
  done : Bool := false
  /-- The format is wrong. -/
  broken : Bool := false
deriving Repr

/-- The same with more text in front. -/
def Printed.after (p : Printed) (text : Octets) (complaints : List String := []) : Printed :=
  { p with text := text ++ p.text, complaints := complaints ++ p.complaints }

/-- Prints a format once. -/
def printOnce : Nat → Octets → List Octets → Printed
  | 0, _, args => { text := [], rest := args }
  | fuel + 1, s, args =>
    match s with
    | [] => { text := [], rest := args }
    | '\\' :: 'c' :: _ => { text := [], rest := args, done := true }
    | '\\' :: r =>
      let (x, r) := escapeOf r
      (printOnce fuel r args).after x
    | '%' :: '%' :: r => (printOnce fuel r args).after ['%']
    | '%' :: r =>
      match directive? r args with
      | none =>
        { text := [], rest := args, done := true, broken := true
          complaints := ["missing format character"] }
      | some (d, r, args) =>
        let arg := args.headD []
        let rest := args.drop 1
        let cut (s : Octets) : Octets := match d.precision with
          | some n => s.take n
          | none => s
        match d.letter with
        | 's' => (printOnce fuel r rest).after (padTo d (cut arg))
        | 'c' => (printOnce fuel r rest).after (padTo d (arg.take 1))
        | 'b' =>
          let (x, done) := unescapeOn (arg.length + 1) arg
          if done then { text := padTo d (cut x), rest, done := true }
          else (printOnce fuel r rest).after (padTo d (cut x))
        | 'd' | 'i' | 'u' | 'o' | 'x' | 'X' =>
          match integerArgument? arg with
          | some n => (printOnce fuel r rest).after (formatInteger d n)
          | none =>
            (printOnce fuel r rest).after (formatInteger d 0)
              [shown arg ++ ": expected numeric value"]
        | c =>
          { text := [], rest, done := true, broken := true
            complaints := ["%" ++ c.toString ++ ": invalid directive"] }
    | c :: r => (printOnce fuel r args).after [c]

/-- What `printf` prints, and what it complains about. -/
def printf (format : Octets) : Nat → List Octets → Printed
  | 0, rest => { text := [], rest }
  | fuel + 1, args =>
    let p := printOnce (format.length + 1) format args
    if p.done ∨ p.rest.isEmpty ∨ p.rest.length = args.length then p
    else (printf format fuel p.rest).after p.text p.complaints

end GuestVault.Shell
