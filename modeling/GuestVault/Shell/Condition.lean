import GuestVault.Shell.Format

/-!
# Conditions

The expressions of `test` and `[`: about files, texts and numbers, joined by negation, `-a`, `-o` and
brackets. What an expression with few arguments means depends on their number alone.
-/

namespace GuestVault.Shell

/-- The entry at a path, through links unless told otherwise. -/
def entryAt (t : FileTree) (follow : Bool) (path : Octets) : Option Entry :=
  (t.find follow (routeOf path)).toOption.map Prod.snd

/-- The operators on one text. -/
def unaryTest? (t : FileTree) (op : String) (x : Octets) : Option Bool :=
  match op with
  | "-n" => some (x ≠ [])
  | "-z" => some (x = [])
  | "-e" => some (entryAt t true x).isSome
  | "-f" => some (t.isFile (routeOf x))
  | "-d" => some (t.isDirectory (routeOf x))
  | "-h" | "-L" => some (match entryAt t false x with
    | some (.link _) => true
    | _ => false)
  | "-c" => some (match entryAt t true x with
    | some (.device _) => true
    | _ => false)
  | "-b" | "-p" | "-S" | "-u" | "-g" | "-k" => some false
  | "-s" => some (match entryAt t true x with
    | some (.file data _) => data ≠ []
    | some .directory | some (.program _) => true
    | _ => false)
  | "-r" | "-w" => some (entryAt t true x).isSome
  | "-x" => some (match entryAt t true x with
    | some (.file _ executable) => executable
    | some .directory | some (.program _) => true
    | _ => false)
  | "-t" => some false
  | _ => none

/-- The comparisons of numbers. -/
def numberTest? (op : String) : Option (Int → Int → Bool) :=
  match op with
  | "-eq" => some fun a b => a = b
  | "-ne" => some fun a b => a ≠ b
  | "-lt" => some fun a b => a < b
  | "-le" => some fun a b => a ≤ b
  | "-gt" => some fun a b => a > b
  | "-ge" => some fun a b => a ≥ b
  | _ => none

/-- A decimal number, perhaps between blanks. -/
def decimal? (s : Octets) : Option Int :=
  let s := (s.dropWhile (· = ' ')).reverse.dropWhile (· = ' ') |>.reverse
  let (negative, ds) := match s with
    | '-' :: r => (true, r)
    | '+' :: r => (false, r)
    | s => (false, s)
  if ds.isEmpty ∨ !ds.all (fun c => '0' ≤ c && c ≤ '9') then none
  else
    let n : Int := Text.digitsValue ds
    some (if negative then -n else n)

/-- The operators on two texts. -/
def binaryTest? (a : Octets) (op : String) (b : Octets) : Option (Except String Bool) :=
  match op with
  | "=" | "==" => some (.ok (a = b))
  | "!=" => some (.ok (a ≠ b))
  | "<" => some (.ok (String.ofList a < String.ofList b))
  | ">" => some (.ok (String.ofList b < String.ofList a))
  | op => (numberTest? op).map fun compare =>
    match decimal? a, decimal? b with
    | none, _ => .error ("Illegal number: " ++ shown a)
    | _, none => .error ("Illegal number: " ++ shown b)
    | some x, some y => .ok (compare x y)

mutual

/-- An expression of terms joined by `-o`, and what follows it. -/
def testEither (t : FileTree) : Nat → List Octets → Except String (Bool × List Octets)
  | 0, _ => .error "argument expected"
  | fuel + 1, xs => do
    let (a, xs) ← testBoth t fuel xs
    match xs with
    | ['-', 'o'] :: r =>
      let (b, r) ← testEither t fuel r
      return (a || b, r)
    | _ => return (a, xs)

/-- An expression of terms joined by `-a`, and what follows it. -/
def testBoth (t : FileTree) : Nat → List Octets → Except String (Bool × List Octets)
  | 0, _ => .error "argument expected"
  | fuel + 1, xs => do
    let (a, xs) ← testTerm t fuel xs
    match xs with
    | ['-', 'a'] :: r =>
      let (b, r) ← testBoth t fuel r
      return (a && b, r)
    | _ => return (a, xs)

/-- One term, and what follows it. -/
def testTerm (t : FileTree) : Nat → List Octets → Except String (Bool × List Octets)
  | 0, _ => .error "argument expected"
  | fuel + 1, xs =>
    match xs with
    | [] => .error "argument expected"
    | x :: r =>
      let binary := match r with
        | op :: y :: r => (binaryTest? x (shown op) y).map fun b => b.map (·, r)
        | [op] => (binaryTest? x (shown op) []).map fun _ =>
          .error (shown op ++ ": argument expected")
        | [] => none
      match binary with
      | some result => result
      | none =>
        if x = ['!'] ∧ !r.isEmpty then (testTerm t fuel r).map fun (b, r) => (!b, r)
        else if x = ['('] ∧ !r.isEmpty then do
          let (b, r) ← testEither t fuel r
          match r with
          | [')'] :: r => return (b, r)
          | _ => .error "closing paren expected"
        else
          match r with
          | y :: r' =>
            match unaryTest? t (shown x) y with
            | some b => .ok (b, r')
            | none => .ok (x ≠ [], r)
          | [] => .ok (x ≠ [], [])

end

/-- The value of a whole expression. -/
def condition (t : FileTree) (args : List Octets) : Except String Bool :=
  match args with
  | [] => .ok false
  | [x] => .ok (x ≠ [])
  | args => do
    match ← testEither t (4 * args.length + 8) args with
    | (b, []) => return b
    | (_, rest) =>
      .error (shown (args.getD (args.length - rest.length - 1) []) ++ ": unexpected operator")

end GuestVault.Shell
