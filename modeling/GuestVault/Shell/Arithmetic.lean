import GuestVault.Shell.Syntax
import GuestVault.Text.Number

/-!
# Arithmetic in shell scripts

Expressions over signed 64-bit integers with the usual operators in their usual order. A name stands
for the value of a variable, and an assignment gives it a new one.
-/

namespace GuestVault.Shell

open GuestVault.Text

/-- A token of an expression. -/
inductive Token where
  | number (value : Int)
  | name (text : Octets)
  | symbol (text : String)
deriving Repr, DecidableEq

/-- The operators, longer ones first. -/
def symbols : List String :=
  ["<<=", ">>=", "<<", ">>", "<=", ">=", "==", "!=", "&&", "||", "+=", "-=", "*=", "/=", "%=",
    "+", "-", "*", "/", "%", "<", ">", "!", "~", "&", "|", "^", "(", ")", "?", ":", "="]

/-- The value of an octet as a digit. -/
def digitValue (c : Char) : Nat :=
  if '0' ≤ c && c ≤ '9' then c.toNat - 48
  else if 'a' ≤ c && c ≤ 'z' then c.toNat - 87
  else if 'A' ≤ c && c ≤ 'Z' then c.toNat - 55
  else 99

/-- The number that a text names: octal after a zero, hexadecimal after `0x`. -/
def numberOf? (s : Octets) : Option Int :=
  let (base, ds) := match s with
    | '0' :: 'x' :: r => (16, r)
    | '0' :: 'X' :: r => (16, r)
    | '0' :: d :: r => (8, d :: r)
    | s => (10, s)
  if ds.isEmpty ∨ !ds.all (fun c => digitValue c < base) then none
  else some (ds.foldl (fun acc c => acc * base + digitValue c) 0 : Nat)

/-- A value wrapped to 64 bits. -/
def wrap (n : Int) : Int := Int.bmod n (Nat.pow 2 64)

/-- The tokens of an expression. -/
def tokensOn : Nat → Octets → Option (List Token)
  | 0, _ => none
  | fuel + 1, s =>
    match s with
    | [] => some []
    | c :: r =>
      if c = ' ' ∨ c = '\t' ∨ c = '\n' then tokensOn fuel r
      else if '0' ≤ c ∧ c ≤ '9' then do
        let word := s.takeWhile fun c => digitValue c < 36
        let n ← numberOf? word
        (tokensOn fuel (s.drop word.length)).map (.number n :: ·)
      else if digitValue c < 36 ∨ c = '_' then
        let word := s.takeWhile fun c => digitValue c < 36 || c = '_'
        (tokensOn fuel (s.drop word.length)).map (.name word :: ·)
      else do
        let op ← symbols.find? fun op => op.toList.isPrefixOf s
        (tokensOn fuel (s.drop op.length)).map (.symbol op :: ·)

/-- The levels of binary operators, the weakest first. -/
def levels : List (List String) :=
  [["||"], ["&&"], ["|"], ["^"], ["&"], ["==", "!="], ["<", ">", "<=", ">="], ["<<", ">>"],
    ["+", "-"], ["*", "/", "%"]]

/-- One for truth, zero for falsehood. -/
def truth (b : Bool) : Int := if b then 1 else 0

/-- The result of a binary operator; division by zero has none. -/
def operate? (op : String) (a b : Int) : Option Int :=
  match op with
  | "||" => some (truth (a ≠ 0 || b ≠ 0))
  | "&&" => some (truth (a ≠ 0 && b ≠ 0))
  | "|" => some (((a % Int.pow 2 64).toNat ||| (b % Int.pow 2 64).toNat : Nat) : Int)
  | "^" => some (((a % Int.pow 2 64).toNat ^^^ (b % Int.pow 2 64).toNat : Nat) : Int)
  | "&" => some (((a % Int.pow 2 64).toNat &&& (b % Int.pow 2 64).toNat : Nat) : Int)
  | "==" => some (truth (a = b))
  | "!=" => some (truth (a ≠ b))
  | "<" => some (truth (a < b))
  | ">" => some (truth (a > b))
  | "<=" => some (truth (a ≤ b))
  | ">=" => some (truth (a ≥ b))
  | "<<" => some (a * Int.pow 2 (b % 64).toNat)
  | ">>" => some (a.fdiv (Int.pow 2 (b % 64).toNat))
  | "+" => some (a + b)
  | "-" => some (a - b)
  | "*" => some (a * b)
  | "/" => if b = 0 then none else some (a.tdiv b)
  | "%" => if b = 0 then none else some (a.tmod b)
  | _ => none

/-- The variables that an expression sees and changes. -/
abbrev Variables := List (Octets × Octets)

/-- The value of a variable as a number; none at all counts as zero. -/
def valueOf? (vars : Variables) (name : Octets) : Option Int :=
  match (vars.lookup name).getD [] with
  | [] => some 0
  | '-' :: r => (numberOf? r).map (-·)
  | r => numberOf? r

/-- What evaluation gives: the value, the variables, and what is left of the tokens. -/
abbrev Evaluated := Option (Int × Variables × List Token)

mutual

/-- An assignment, a condition, or an operator of the weakest level. -/
def evalExpression : Nat → Variables → List Token → Evaluated
  | 0, _, _ => none
  | fuel + 1, vars, ts =>
    match ts with
    | .name x :: .symbol "=" :: r => do
      let (v, vars, r) ← evalExpression fuel vars r
      return (v, (x, (toString v).toList) :: vars, r)
    | _ => do
      match ts with
      | .name x :: .symbol op :: r =>
        if op.length ≥ 2 ∧ op.endsWith "=" ∧ op ∉ ["==", "!=", "<=", ">="] then
          let (v, vars, r) ← evalExpression fuel vars r
          let v := wrap (← operate? (op.dropEnd 1).toString (← valueOf? vars x) v)
          return (v, (x, (toString v).toList) :: vars, r)
        else evalCondition fuel vars ts
      | _ => evalCondition fuel vars ts

/-- A condition with its two results, or an operator of the weakest level. -/
def evalCondition : Nat → Variables → List Token → Evaluated
  | 0, _, _ => none
  | fuel + 1, vars, ts => do
    let (test, vars, ts) ← evalLevel fuel levels vars ts
    match ts with
    | .symbol "?" :: r =>
      let (a, vars, r) ← evalExpression fuel vars r
      match r with
      | .symbol ":" :: r =>
        let (b, vars, r) ← evalExpression fuel vars r
        return (if test ≠ 0 then a else b, vars, r)
      | _ => none
    | _ => return (test, vars, ts)

/-- Operators of a level and of those that bind more strongly. -/
def evalLevel : Nat → List (List String) → Variables → List Token → Evaluated
  | 0, _, _, _ => none
  | fuel + 1, [], vars, ts => evalUnary fuel vars ts
  | fuel + 1, ops :: rest, vars, ts => do
    let (a, vars, ts) ← evalLevel fuel rest vars ts
    evalMore fuel ops rest a vars ts

/-- Further operands of a level, from left to right. -/
def evalMore : Nat → List String → List (List String) → Int → Variables → List Token → Evaluated
  | 0, _, _, _, _, _ => none
  | fuel + 1, ops, rest, a, vars, ts =>
    match ts with
    | .symbol op :: r =>
      if op ∈ ops then do
        let (b, vars, r) ← evalLevel fuel rest vars r
        evalMore fuel ops rest (wrap (← operate? op a b)) vars r
      else some (a, vars, ts)
    | _ => some (a, vars, ts)

/-- A number, a name, or an expression in brackets, with signs in front. -/
def evalUnary : Nat → Variables → List Token → Evaluated
  | 0, _, _ => none
  | fuel + 1, vars, ts =>
    match ts with
    | .number n :: r => some (wrap n, vars, r)
    | .name x :: r => (valueOf? vars x).map fun v => (v, vars, r)
    | .symbol "-" :: r => (evalUnary fuel vars r).map fun (v, x) => (wrap (-v), x)
    | .symbol "+" :: r => evalUnary fuel vars r
    | .symbol "!" :: r => (evalUnary fuel vars r).map fun (v, x) => (truth (v = 0), x)
    | .symbol "~" :: r => (evalUnary fuel vars r).map fun (v, x) => (-v - 1, x)
    | .symbol "(" :: r => do
      let (v, vars, r) ← evalExpression fuel vars r
      match r with
      | .symbol ")" :: r => return (v, vars, r)
      | _ => none
    | _ => none

end

/-- The value of an expression, and the variables after it. -/
def evaluate? (vars : Variables) (s : Octets) : Option (Int × Variables) := do
  let ts ← tokensOn (s.length + 1) s
  if ts.isEmpty then return (0, vars)
  match ← evalExpression (16 * ts.length + 32) vars ts with
  | (v, vars, []) => return (v, vars)
  | _ => none

end GuestVault.Shell
