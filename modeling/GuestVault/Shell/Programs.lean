import GuestVault.Process.Signal
import GuestVault.Shell.Condition
import GuestVault.Shell.Format

/-!
# Programs

The programs that a machine comes with, as far as scripts use them. Each takes its arguments, reads
and writes through file descriptors, and gives its exit status.
-/

namespace GuestVault.Shell

/-- A program. -/
abbrev Program := List Octets → Act Nat

/-- Octets from a text. -/
def ascii (s : String) : Octets := s.toList

/-- A complaint of a program. -/
def programFault (program text : String) : Act Unit := complain (program ++ ": " ++ text)

/-- The letters of the options in front, and the operands. -/
def splitOptions : List Octets → Octets × List Octets
  | [] => ([], [])
  | x :: r =>
    match x with
    | ['-', '-'] => ([], r)
    | '-' :: c :: cs =>
      let (os, r) := splitOptions r
      (c :: cs ++ os, r)
    | _ => ([], x :: r)

/-- The message when a program has nothing to work on. -/
def missingOperand (program : String) : Act Nat := do
  programFault program "missing operand"
  complain ("Try '" ++ program ++ " --help' for more information.")
  return 1

/-- Changes the tree, or complains about a path. -/
def changeTree (program what : String) (path : Octets)
    (change : FileTree → Except OsFault FileTree) : Act Nat := do
  match change (← get).tree with
  | .ok tree =>
    modify fun s => { s with tree }
    return 0
  | .error fault =>
    programFault program (what ++ " '" ++ shown path ++ "': " ++ fault.description)
    return 1

/-- Does something for each operand; fails if one of them does. -/
def forEach (act : Octets → Act Nat) : List Octets → Act Nat
  | [] => pure 0
  | x :: r => do
    let a ← act x
    let b ← forEach act r
    return max a b

/-- How often an endless program repeats itself before nobody listens any more. -/
def endlessCount : Nat := 65536

/-- What a file or the standard input holds; as much as is wanted of what has no end. -/
def contents (program : String) (path : Octets) (wanted : Nat := endlessCount) :
    Act (Option Octets) := do
  if path = ['-'] then return some (← takeInput)
  let t := (← get).tree
  match (t.find true (routeOf path)).map Prod.snd with
  | .ok (.device .zero) | .ok (.device .full) => return some (List.replicate wanted '\x00')
  | _ => pure ()
  match t.read (routeOf path) with
  | .ok data => return some (octets data)
  | .error fault =>
    programFault program (shown path ++ ": " ++ fault.description)
    return none

/-- Prints files, or the standard input. -/
def cat : Program := fun args => do
  let (_, paths) := splitOptions args
  forEach (fun path => do
    match ← contents "cat" path with
    | some data =>
      say data
      return 0
    | none => return 1) (if paths.isEmpty then [['-']] else paths)

/-- Removes files. -/
def rm : Program := fun args => do
  let (options, paths) := splitOptions args
  let force := 'f' ∈ options
  if paths.isEmpty then return (← if force then pure 0 else missingOperand "rm")
  forEach (fun path => do
    let t := (← get).tree
    if force ∧ (t.find false (routeOf path)).toOption.isNone then return 0
    changeTree "rm" "cannot remove" path fun t =>
      if 'r' ∈ options ∨ 'R' ∈ options then t.removeTree (routeOf path)
      else t.removeFile (routeOf path)) paths

/-- Makes directories. -/
def mkdir : Program := fun args => do
  let (options, paths) := splitOptions args
  if paths.isEmpty then return (← missingOperand "mkdir")
  forEach (fun path => changeTree "mkdir" "cannot create directory" path fun t =>
    if 'p' ∈ options then t.makeDirectories (routeOf path) else t.makeDirectory (routeOf path)) paths

/-- Removes empty directories. -/
def rmdir : Program := fun args => do
  let (_, paths) := splitOptions args
  if paths.isEmpty then return (← missingOperand "rmdir")
  forEach (fun path => changeTree "rmdir" "failed to remove" path fun t =>
    t.removeDirectory (routeOf path)) paths

/-- Makes files that are missing. -/
def touch : Program := fun args => do
  let (_, paths) := splitOptions args
  forEach (fun path => do
    if (← get).tree.isDirectory (routeOf path) then return 0
    changeTree "touch" "cannot touch" path fun t =>
      (t.openOutput (routeOf path) false true).map Prod.snd) paths

/-- The path of a file that goes to a target, which may be a directory. -/
def targetFor (t : FileTree) (source target : Octets) : Octets :=
  if t.isDirectory (routeOf target) then
    let name := (source.reverse.dropWhile (· = '/')).takeWhile (· ≠ '/') |>.reverse
    target ++ '/' :: name
  else target

/-- Does something with each source and the last operand. -/
def withTarget (program : String) (act : Octets → Octets → Act Nat) : Program := fun args => do
  let (_, paths) := splitOptions args
  match paths.reverse with
  | target :: source :: more =>
    forEach (fun path => do act path (targetFor (← get).tree path target)) (source :: more).reverse
  | _ => missingOperand program

/-- Copies files. -/
def cp : Program := withTarget "cp" fun source target => do
  match (← get).tree.read (routeOf source) with
  | .error fault =>
    programFault "cp" ("cannot stat '" ++ shown source ++ "': " ++ fault.description)
    return 1
  | .ok data =>
    changeTree "cp" "cannot create regular file" target fun t => do
      let (file, t) ← t.create (routeOf target)
      return (← t.write file data).2

/-- Moves files. -/
def mv : Program := withTarget "mv" fun source target => do
  if (entryAt (← get).tree false source).isNone then
    programFault "mv" ("cannot stat '" ++ shown source ++ "': No such file or directory")
    return 1
  changeTree "mv" "cannot move" source fun t => t.rename (routeOf source) (routeOf target)

/-- Makes links. -/
def ln : Program := withTarget "ln" fun source target =>
  changeTree "ln" "failed to create symbolic link" target fun t =>
    t.makeLink (bytesOf source) (routeOf target)

/-- Lists directories. -/
def ls : Program := fun args => do
  let (options, paths) := splitOptions args
  forEach (fun path => do
    let t := (← get).tree
    match t.find true (routeOf path) with
    | .error fault =>
      programFault "ls" ("cannot access '" ++ shown path ++ "': " ++ fault.description)
      return 2
    | .ok (l, .directory) =>
      let names := (t.children l).map fun (name, _) => String.ofList (octets name)
      let names := names.filter fun name => 'a' ∈ options || name.toList.head? ≠ some '.'
      say (names.mergeSort.flatMap fun (name : String) => name.toList ++ ['\n'])
      return 0
    | .ok _ =>
      say (path ++ ['\n'])
      return 0) (if paths.isEmpty then [['.']] else paths)

/-- The lines of some data, each with its line break. -/
def linesOf : Octets → List Octets
  | [] => []
  | c :: r =>
    if c = '\n' then [c] :: linesOf r
    else
      match linesOf r with
      | [] => [[c]]
      | l :: ls => (c :: l) :: ls

/-- A count given as `-n 5`, `-n5`, `-5`, or for octets with the letter `c`; and the operands. -/
def countOption : List Octets → Bool × Option Octets × List Octets
  | ['-', 'n'] :: n :: r => (false, some n, r)
  | ['-', 'c'] :: n :: r => (true, some n, r)
  | ('-' :: 'n' :: n) :: r => (false, some n, r)
  | ('-' :: 'c' :: n) :: r => (true, some n, r)
  | ('-' :: c :: n) :: r =>
    if '0' ≤ c && c ≤ '9' then (false, some (c :: n), r) else (false, none, ('-' :: c :: n) :: r)
  | args => (false, none, args)

/-- Prints one end of the data. -/
def ending (program : String) (cut : Nat → List Octets → List Octets) : Program := fun args => do
  let (byOctet, count, paths) := countOption args
  let n := (count.bind decimal?).getD 10
  forEach (fun path => do
    match ← contents program path n.toNat with
    | some data =>
      let pieces := if byOctet then data.map ([·]) else linesOf data
      say (cut n.toNat pieces).flatten
      return 0
    | none => return 1) (if paths.isEmpty then [['-']] else paths)

/-- Prints the beginning of the data. -/
def head : Program := ending "head" fun n pieces => pieces.take n

/-- Prints the end of the data. -/
def tail : Program := ending "tail" fun n pieces => pieces.drop (pieces.length - n)

/-- Counts lines, words and octets. -/
def wc : Program := fun args => do
  let (options, paths) := splitOptions args
  forEach (fun path => do
    match ← contents "wc" path with
    | none => return 1
    | some data =>
      let words := (data.splitBy fun a b => a.isWhitespace == b.isWhitespace).filter fun w =>
        !(w.all Char.isWhitespace)
      let lineCount := (data.filter (· = '\n')).length
      let counts := if 'l' ∈ options then [lineCount] else if 'c' ∈ options then [data.length]
        else if 'w' ∈ options then [words.length] else [lineCount, words.length, data.length]
      let name := if paths.isEmpty then [] else ' ' :: path
      say ([' '].intercalate (counts.map fun n => ascii (toString n)) ++ name ++ ['\n'])
      return 0) (if paths.isEmpty then [['-']] else paths)

/-- Sorts lines. -/
def sort : Program := fun args => do
  let (options, paths) := splitOptions args
  let data ← (if paths.isEmpty then [['-']] else paths).mapM (contents "sort")
  let lines := (linesOf (data.filterMap id).flatten).map fun l => String.ofList l
  let sorted := lines.mergeSort
  say ((if 'r' ∈ options then sorted.reverse else sorted).flatMap String.toList)
  return if data.any Option.isNone then 2 else 0

/-- The octets that a description of a set lists: themselves, ranges, and escapes. -/
def setOctets : Nat → Octets → Octets
  | 0, _ => []
  | _, [] => []
  | fuel + 1, '\\' :: r =>
    let (x, rest) := escapeOf r
    x ++ setOctets fuel rest
  | fuel + 1, a :: '-' :: b :: r =>
    (List.range (b.toNat + 1 - a.toNat)).map (fun i => Char.ofNat (a.toNat + i)) ++ setOctets fuel r
  | fuel + 1, a :: r => a :: setOctets fuel r

/-- Replaces or drops octets. -/
def tr : Program := fun args => do
  let (options, sets) := splitOptions args
  let sets := sets.map fun s => setOctets s.length s
  let data ← takeInput
  match options, sets with
  | ['d'], [dropped] => say (data.filter fun c => !dropped.contains c)
  | [], [old, new] =>
    let pairs := old.zip (new ++ List.replicate old.length (new.getLastD ' '))
    say (data.map fun c => (pairs.reverse.lookup c).getD c)
  | _, _ => programFault "tr" "missing operand"
  return if sets.isEmpty then 1 else 0

/-- Copies the standard input to files and to the standard output. -/
def tee : Program := fun args => do
  let (options, paths) := splitOptions args
  let data ← takeInput
  say data
  forEach (fun path => changeTree "tee" "cannot write" path fun t => do
    let (file, t) ← t.openOutput (routeOf path) ('a' ∉ options) ('a' ∈ options)
    return (← t.write file (bytesOf data)).2) paths

/-- Sets whether files can be run. -/
def chmod : Program := fun args => do
  match args with
  | [] | [_] => missingOperand "chmod"
  | mode :: paths =>
    let digits := mode.filter fun c => '0' ≤ c && c ≤ '7'
    let executable :=
      if digits.length = mode.length then digits.any fun c => (c.toNat - 48) % 2 = 1
      else mode.contains 'x' && !mode.contains '-'
    forEach (fun path => changeTree "chmod" "cannot access" path fun t => do
      match ← t.find true (routeOf path) with
      | (l, .file data _) => return t.put l (.file data executable)
      | _ => return t) paths

/-- Counts up or down. -/
def seq : Program := fun args => do
  let numbers := args.filterMap decimal?
  let (first, step, last) : Int × Int × Int := match numbers with
    | [n] => (1, 1, n)
    | [a, b] => (a, 1, b)
    | [a, s, b] => (a, s, b)
    | _ => (1, 1, 0)
  if numbers.length ≠ args.length ∨ step = 0 then
    programFault "seq" "invalid argument"
    return 1
  let count := ((last - first).fdiv step + 1).toNat
  say ((List.range count).flatMap fun (i : Nat) =>
    ascii (toString (first + step * (i : Int))) ++ ['\n'])
  return 0

/-- The last part of a path, without a suffix. -/
def baseName : Program := fun args => do
  let path := (args.headD []).reverse.dropWhile (· = '/')
  let name := (path.takeWhile (· ≠ '/')).reverse
  let name := if name.isEmpty then ['/'] else name
  let suffix := args.getD 1 []
  let name := if suffix ≠ name ∧ suffix.reverse.isPrefixOf name.reverse then
    name.take (name.length - suffix.length) else name
  say (name ++ ['\n'])
  return 0

/-- A path without its last part. -/
def dirName : Program := fun args => do
  let path := (args.headD []).reverse.dropWhile (· = '/')
  let dir := (path.dropWhile (· ≠ '/')).dropWhile (· = '/') |>.reverse
  let dir := if dir.isEmpty then (if (args.headD []).head? = some '/' then ['/'] else ['.']) else dir
  say (dir ++ ['\n'])
  return 0

/-- The octets of a location as a path. -/
def pathOf (l : Location) : Octets :=
  if l.isEmpty then ['/'] else l.flatMap fun name => '/' :: octets name

/-- Prints the working directory. -/
def pwd : Program := fun _ => do
  say (pathOf (← get).tree.workingDirectory ++ ['\n'])
  return 0

/-- Waits. -/
def sleep : Program := fun args => do
  let isTime (s : Octets) : Bool :=
    !s.isEmpty && s.all fun c => ('0' ≤ c && c ≤ '9') || c = '.' || c = 's' || c = 'm' || c = 'h'
  match args.find? fun a => !isTime a with
  | some a =>
    programFault "sleep" ("invalid time interval '" ++ shown a ++ "'")
    complain "Try 'sleep --help' for more information."
    return 1
  | none =>
    if args.isEmpty then return (← missingOperand "sleep")
    if args.any fun a => a.any fun c => '1' ≤ c && c ≤ '9' then
      modify fun s => { s with lingers := true }
    return 0

/-- Prints a line for ever. -/
def yes : Program := fun args => do
  let line := (if args.isEmpty then ['y'] else [' '].intercalate args) ++ ['\n']
  say (List.replicate endlessCount line).flatten
  modify fun s => { s with lingers := true }
  throw (.signal Signal.brokenPipe)

/-- Prints its arguments. -/
def echoProgram : Program := fun args => do
  let (options, words) := match args with
    | x :: r => if x = ascii "-n" ∨ x = ascii "-e" ∨ x = ascii "-ne" then (x, r) else ([], args)
    | [] => ([], [])
  let text := [' '].intercalate words
  let text := if 'e' ∈ options then (unescapeOn (text.length + 1) text).1 else text
  say (if 'n' ∈ options then text else text ++ ['\n'])
  return 0

/-- Prints its arguments in a format. -/
def printfProgram (say : String → Act Unit) : Program := fun args => do
  match (match args with
    | ['-', '-'] :: r => r
    | args => args) with
  | [] =>
    say "usage: printf format [arg ...]"
    return 2
  | format :: args =>
    let printed := printf format (args.length + 1) args
    Shell.say printed.text
    printed.complaints.forM say
    return if printed.broken then 2 else if printed.complaints.isEmpty then 0 else 1

/-- Decides a condition. -/
def testProgram (say : String → Act Unit) : Program := fun args => do
  match condition (← get).tree args with
  | .ok true => return 0
  | .ok false => return 1
  | .error text =>
    say text
    return 2

/-- The same, with a bracket that closes the condition. -/
def bracketProgram (say : String → Act Unit) : Program := fun args => do
  if args.getLast? = some [']'] then testProgram say args.dropLast
  else
    say "missing ]"
    return 2

/-- The programs by name. -/
def programs : List (String × Program) := [
  ("true", fun _ => pure 0), ("false", fun _ => pure 1), ("cat", cat), ("rm", rm),
  ("mkdir", mkdir), ("rmdir", rmdir), ("touch", touch), ("cp", cp), ("mv", mv), ("ln", ln),
  ("ls", ls), ("head", head), ("tail", tail), ("wc", wc), ("sort", sort), ("tee", tee), ("tr", tr),
  ("chmod", chmod), ("seq", seq), ("basename", baseName), ("dirname", dirName), ("pwd", pwd),
  ("sleep", sleep), ("yes", yes), ("echo", echoProgram),
  ("printf", printfProgram (programFault "printf")), ("test", testProgram (programFault "test")),
  ("[", bracketProgram (programFault "["))]

end GuestVault.Shell
