import GuestVault.Shell.Fields
import GuestVault.Shell.Programs
import GuestVault.Shell.Reader

/-!
# Commands of the shell itself

The commands that a shell carries out without starting a program, as far as they do not run other
commands.
-/

namespace GuestVault.Shell

open GuestVault.Text

/-- Prints, and complains if that is not possible. -/
def printOrBlame (name : String) (text : Octets) : Act Nat := do
  match (← get).write 1 text with
  | .ok s =>
    set s
    return 0
  | .error _ =>
    blame (name ++ ": " ++ name ++ ": I/O error")
    return 1

/-- The number that an argument names; anything else ends the script. -/
def numberOf (name : String) (arg : Octets) : Act Nat :=
  if arg.isEmpty ∨ !arg.all (fun c => '0' ≤ c && c ≤ '9') ∨ digitsValue arg ≥ Nat.pow 2 31 then
    refuse (name ++ ": Illegal number: " ++ shown arg)
  else pure (digitsValue arg)

/-- The number in the first argument, or another one. -/
def numberOr (name : String) (other : Nat) : List Octets → Act Nat
  | [] => pure other
  | x :: _ => numberOf name x

/-- Ends the script. -/
def exitBuiltin : Program := fun args => do
  let n ← numberOr "exit" (← get).status args
  throw (.exit (n % 256))

/-- Leaves a function. -/
def returnBuiltin : Program := fun args => do
  let n ← numberOr "return" (← get).status args
  throw (.return (n % 256))

/-- Leaves loops; outside of any it does nothing. -/
def breakBuiltin : Program := fun args => do
  let n ← numberOr "break" 1 args
  if (← get).loops = 0 then return 0
  throw (.break (max 1 n))

/-- Goes on with the next turn of a loop. -/
def continueBuiltin : Program := fun args => do
  let n ← numberOr "continue" 1 args
  if (← get).loops = 0 then return 0
  throw (.continue (max 1 n))

/-- Changes the working directory. -/
def cd : Program := fun args => do
  let s ← get
  let args := match args with
    | ['-', 'L'] :: r | ['-', 'P'] :: r | ['-', '-'] :: r => r
    | args => args
  let target := match args with
    | [] => (s.value? (ascii "HOME")).getD []
    | ['-'] :: _ => (s.value? (ascii "OLDPWD")).getD []
    | x :: _ => x
  match s.tree.find true (routeOf target) with
  | .ok (l, .directory) =>
    let before := pathOf s.tree.workingDirectory
    set ({ s with tree := { s.tree with workingDirectory := l } }
      |>.assign (ascii "OLDPWD") before false |>.assign (ascii "PWD") (pathOf l) false)
    if args.head? = some ['-'] then say (pathOf l ++ ['\n'])
    return 0
  | _ =>
    if target.isEmpty ∧ args.isEmpty then return 0
    blame ("cd: can't cd to " ++ shown target)
    return 2

/-- Drops arguments in front. -/
def shift : Program := fun args => do
  let n ← numberOr "shift" 1 args
  let s ← get
  if n > s.arguments.length then refuse "shift: can't shift that many"
  set { s with arguments := s.arguments.drop n }
  return 0

/-- Switches options and replaces the arguments. -/
def setBuiltin (fuel : Nat) (args : List Octets) : Act Nat := do
  match fuel, args with
  | _, [] => return 0
  | _, ['-', '-'] :: rest =>
    modify fun s => { s with arguments := rest }
    return 0
  | fuel + 1, [sign, 'o'] :: name :: rest =>
    if name = ascii "errexit" then modify fun s => { s with strict := sign = '-' }
    if name = ascii "nounset" then modify fun s => { s with demanding := sign = '-' }
    setBuiltin fuel rest
  | fuel + 1, (sign :: letter :: letters) :: rest =>
    if sign = '-' ∨ sign = '+' then
      if 'e' ∈ letter :: letters then modify fun s => { s with strict := sign = '-' }
      if 'u' ∈ letter :: letters then modify fun s => { s with demanding := sign = '-' }
      setBuiltin fuel rest
    else
      modify fun s => { s with arguments := args }
      return 0
  | _, args =>
    modify fun s => { s with arguments := args }
    return 0

/-- Drops variables or functions. -/
def unset : Program := fun args => do
  let (options, names) := splitOptions args
  modify fun s => names.foldl (fun s name =>
    if 'f' ∈ options then { s with functions := s.functions.filter (·.1 ≠ name) }
    else s.unassign name) s
  return 0

/-- Makes variables, perhaps seen by programs. -/
def declare (exported : Bool) : Program := fun args => do
  let (_, words) := splitOptions args
  words.forM fun word => do
    let name := word.takeWhile (· ≠ '=')
    if !isName name then refuse (shown name ++ ": bad variable name")
    if name.length < word.length then
      modify fun s => s.assign name (word.drop (name.length + 1)) exported
    else if exported then
      modify fun s => match s.value? name with
        | some v => s.assign name v true
        | none => s
  return 0

/-- Makes variables that a function has for itself. -/
def localBuiltin : Program := fun args => do
  args.forM fun word => do
    let name := word.takeWhile (· ≠ '=')
    modify fun s => { s with locals := (name, s.bindings.lookup name) :: s.locals }
  declare false args

/-- The line that is read, with its escapes taken off, and what follows. -/
def lineOf (raw : Bool) : Octets → List Marked × Octets × Bool
  | [] => ([], [], false)
  | '\n' :: r => ([], r, true)
  | c :: r =>
    if c = '\\' ∧ raw = false then
      match r with
      | '\n' :: r => lineOf raw r
      | d :: r =>
        let (line, rest, ended) := lineOf raw r
        ((d, true) :: line, rest, ended)
      | [] => ([], [], false)
    else
      let (line, rest, ended) := lineOf raw r
      ((c, false) :: line, rest, ended)

/-- A line cut into a field for each name; the last one takes the rest of it. -/
def distribute (separators : Octets) : List Octets → List Marked → List (Octets × Octets)
  | [], _ => []
  | name :: names, line =>
    let separates (m : Marked) : Bool := !m.2 && separators.contains m.1
    let blank (m : Marked) : Bool := separates m && Fields.isBlankSeparator m.1
    let line := line.dropWhile blank
    if names.isEmpty then [(name, unmark (line.reverse.dropWhile blank).reverse)]
    else
      let field := line.takeWhile fun m => !separates m
      let rest := (line.drop field.length).dropWhile blank
      let rest := match rest with
        | m :: r => if separates m then r else rest
        | [] => []
      (name, unmark field) :: distribute separators names rest

/-- Reads a line into variables. -/
def read : Program := fun args => do
  let (options, names) := splitOptions args
  let raw := 'r' ∈ options
  let s ← get
  let (data, s) := s.take 0 fun data => (data, (lineOf raw data).2.1)
  let (line, _, ended) := lineOf raw data
  set ((distribute s.separators names line).foldl (fun s (name, value) =>
    s.assign name value false) s)
  return if ended then 0 else 1

/-- The number of the signal that a text names; zero is none at all. -/
def signalNumber? (text : Octets) : Option Nat :=
  if !text.isEmpty && text.all (fun c => '0' ≤ c && c ≤ '9') then some (digitsValue text)
  else
    let name := String.ofList (text.map Char.toUpper)
    let name := if name.startsWith "SIG" then (name.drop 3).toString else name
    if name = "EXIT" then some 0 else (Signal.ofName? name).map Signal.number

/-- Sends a signal. The only process that can be reached is the shell itself. -/
def kill : Program := fun args => do
  let (signal, targets) : Option Nat × List Octets := match args with
    | ['-', 's'] :: name :: r => (signalNumber? name, r)
    | ['-', '-'] :: r => (some 15, r)
    | ('-' :: name) :: r => (signalNumber? name, r)
    | r => (some 15, r)
  match signal with
  | none => refuse ("kill: Illegal option " ++ shown ((args.headD []).take 2))
  | some n =>
    let s ← get
    let own := ascii (toString s.process)
    let others := targets.filter (· ≠ own)
    others.forM fun _ => blame "kill: No such process"
    if own ∈ targets ∧ n ≠ 0 ∧ Signal.isHarmless n = false ∧
        (n = Signal.kill ∨ s.traps.lookup n ≠ some []) then
      throw (.signal n)
    return if others.isEmpty then 0 else 1

/-- Sets what happens when signals come. -/
def trap : Program := fun args => do
  let args := match args with
    | ['-', '-'] :: r => r
    | args => args
  match args with
  | [] => return 0
  | [signal] =>
    match signalNumber? signal with
    | some n => modify fun s => { s with traps := s.traps.filter (·.1 ≠ n) }
    | none => pure ()
    return 0
  | action :: signals =>
    forEach (fun signal => do
      match signalNumber? signal with
      | none =>
        blame ("trap: " ++ shown signal ++ ": bad trap")
        return 1
      | some n =>
        let rest := (← get).traps.filter (·.1 ≠ n)
        modify fun s =>
          { s with traps := if action = ['-'] then rest else (n, action) :: rest }
        return 0) signals

/-- The commands that the shell carries out itself. -/
def builtins : List (String × Program) := [
  (":", fun _ => pure 0), ("true", fun _ => pure 0), ("false", fun _ => pure 1),
  ("echo", fun args => printOrBlame "echo" (echo args)),
  ("printf", printfProgram fun text => blame ("printf: " ++ text)),
  ("test", testProgram fun text => blame ("test: " ++ text)),
  ("[", bracketProgram fun text => blame ("[: " ++ text)),
  ("exit", exitBuiltin), ("return", returnBuiltin), ("break", breakBuiltin),
  ("continue", continueBuiltin), ("cd", cd), ("chdir", cd), ("pwd", pwd), ("shift", shift),
  ("set", fun args => setBuiltin args.length args), ("unset", unset), ("export", declare true),
  ("readonly", declare false), ("local", localBuiltin), ("read", read), ("kill", kill),
  ("trap", trap), ("wait", fun _ => pure 0), ("umask", fun _ => pure 0), ("times", fun _ => pure 0),
  ("ulimit", fun _ => pure 0), ("hash", fun _ => pure 0)]

end GuestVault.Shell
