import GuestVault.Shell.Arithmetic
import GuestVault.Shell.Builtin
import GuestVault.Shell.Launch
import GuestVault.Shell.Redirect

/-!
# Running scripts

Commands act on the state of a shell and give a status. A part of a script that runs in a shell of
its own, and a program that is started, can change only the files and what the open descriptors lead
to. The evaluator spends fuel; a script that uses up all of it counts as one that runs on.
-/

namespace GuestVault.Shell

open GuestVault.Text

/-- How a shell ended. -/
def endingOf : Except Stop Nat → Ending
  | .ok n | .error (.exit n) | .error (.return n) => .code n
  | .error (.signal n) => .signal n
  | .error _ => .code 0

/-- The stop that leads to an ending. -/
def stopFor : Ending → Stop
  | .code n => .exit n
  | .signal n => .signal n

/-- Runs an act in a copy of the shell: of what it changes, only the files and the channels stay. -/
def isolated (act : Act Nat) : Act Ending := fun s =>
  let (result, after) := act s
  (.ok (endingOf result), { s with
    tree := { after.tree with workingDirectory := s.tree.workingDirectory }
    channels := after.channels
    lingers := after.lingers })

/-- Runs an act as a process of its own, which knows nothing of the shell but what is exported. -/
def asProcess (act : Act Nat) : Act Ending := isolated do
  modify fun s => { s with
    bindings := s.bindings.filter fun v => v.2.exported
    functions := [], locals := [], traps := [], strict := false, status := 0, line := 1
    process := s.process + 1 }
  act

/-- Runs an act with its standard output caught. -/
def capture (act : Act Ending) : Act (Ending × Octets) := do
  let before ← get
  let i := before.channels.size
  set (before.connect 1 (.sink []))
  let ending ← act
  modifyGet fun s => ((ending, s.written i), { s with
    descriptors := before.descriptors
    channels := s.channels.set! i (.sink []) })

/-- The end of a script that does not end. -/
def giveUp {α : Type} : Act α := do
  modify fun s => { s with lingers := true }
  throw (.signal Signal.brokenPipe)

/-- Sets the status. A failure ends a strict script unless it is tested. -/
def conclude (tested : Bool) (n : Nat) : Act Nat := do
  modify fun s => { s with status := n }
  if n ≠ 0 ∧ (← get).strict ∧ !tested then throw (.exit n)
  return n

/-- The status of a child that ended. Most signals are mentioned. -/
def await (ending : Ending) : Act Nat := do
  match ending with
  | .signal n =>
    if n ≠ Signal.interrupt ∧ n ≠ Signal.brokenPipe then
      complain (((Signal.ofNumber? n).map Signal.description).getD "Unknown signal")
  | .code _ => pure ()
  return ending.status

/-- A turn of a loop: whether the loop goes on, and the status. -/
def turn (act : Act Nat) : Act (Bool × Nat) := do
  modify fun s => { s with loops := s.loops + 1 }
  let result ← act.attempt
  modify fun s => { s with loops := s.loops - 1 }
  match result with
  | .ok n => return (true, n)
  | .error (.break n) => if n ≤ 1 then return (false, 0) else throw (.break (n - 1))
  | .error (.continue n) => if n ≤ 1 then return (true, 0) else throw (.continue (n - 1))
  | .error stop => throw stop

/-- The value of a parameter that is one text. -/
def parameter? (s : State) (name : Octets) : Option Octets :=
  match name with
  | ['?'] => some (ascii (toString s.status))
  | ['#'] => some (ascii (toString s.arguments.length))
  | ['$'] => some (ascii (toString s.process))
  | ['-'] => some (if s.strict then ['e'] else [])
  | ['!'] => none
  | ['0'] => some s.name
  | c :: _ =>
    if '0' ≤ c && c ≤ '9' then
      match digitsValue name with
      | 0 => some s.name
      | n + 1 => s.arguments[n]?
    else s.value? name
  | [] => none

/-- The text as a piece. -/
def pieceOf (quoted : Bool) (text : Octets) : Piece :=
  if quoted then .text (mark true text) else .split text

/-- All arguments as pieces. -/
def argumentPieces (s : State) (joined quoted : Bool) : List Piece :=
  if joined && quoted then
    [.text (mark true ((s.separators.take 1).intercalate s.arguments))]
  else (s.arguments.map (pieceOf quoted)).intersperse .next

/-- The output of a substitution as it is used: no line breaks at its end. -/
def trimOutput (text : Octets) : Octets :=
  ((text.filter (· ≠ '\x00')).reverse.dropWhile (· = '\n')).reverse

/-- Gives the variables the values that arithmetic left them with. -/
def State.assignAll (s : State) (values : Variables) : State :=
  values.reverse.foldl (fun s (name, value) =>
    if s.value? name = some value then s else s.assign name value false) s

/-- The path under which a command name is found, or the name of a command of the shell. -/
def whereIs? (s : State) (name : Octets) : Option Octets :=
  if (s.functions.lookup name).isSome || (builtins.lookup (shown name)).isSome ||
      (specialNames.contains (shown name)) then some name
  else if name.contains '/' then
    if (Image.ofFile s.tree name []).isOk then some name else none
  else
    ((searchDirectories ((s.value? (ascii "PATH")).getD [])).map fun dir => dir ++ '/' :: name).find?
      fun path => (Image.ofFile s.tree path []).isOk

mutual

/-- Runs a command. A failure that is `tested` does not end a strict script. -/
def run : Nat → (tested : Bool) → Command → Act Nat
  | 0, _, _ => giveUp
  | fuel + 1, tested, c => do
    match c with
    | .simple line assignments words redirects =>
      modify fun s => { s with line, captured := none }
      runSimple fuel tested assignments words redirects
    | .pipeline cs => conclude tested (← await (← runPipeline fuel tested cs))
    | .negation body =>
      let n ← run fuel true body
      conclude true (if n = 0 then 1 else 0)
    | .both first second =>
      let n ← run fuel true first
      if n = 0 then run fuel tested second else return n
    | .either first second =>
      let n ← run fuel true first
      if n = 0 then return n else run fuel tested second
    | .sequence cs => runAll fuel tested cs
    | .background body =>
      let _ ← isolated do
        modify fun s => s.connect 0 (.source [])
        run fuel false body
      conclude false 0
    | .subshell body => conclude tested (← await (← isolated (runOwn fuel tested body)))
    | .choice test body otherwise =>
      let n ← run fuel true test
      run fuel tested (if n = 0 then body else otherwise)
    | .loop while_ test body => runLoop fuel tested while_ test body 0
    | .each name words body =>
      let values ← match words with
        | some words => expandWords fuel words
        | none => pure (← get).arguments
      runEach fuel tested name body 0 values
    | .cases subject arms =>
      let subject ← expandText fuel subject
      runCases fuel tested subject arms
    | .function name body =>
      modify fun s =>
        { s with functions := (name, body) :: s.functions.filter (·.1 ≠ name) }
      conclude tested 0
    | .redirected body redirects =>
      withRedirects fuel tested redirects (run fuel tested body)

/-- Runs commands one after the other. -/
def runAll : Nat → (tested : Bool) → List Command → Act Nat
  | 0, _, _ => giveUp
  | _ + 1, tested, [] => conclude tested 0
  | fuel + 1, tested, [c] => run fuel tested c
  | fuel + 1, tested, c :: cs => do
    let _ ← run fuel tested c
    runAll fuel tested cs

/-- Runs a command in a shell that it has for itself, with what is to be done at its end. -/
def runOwn : Nat → (tested : Bool) → Command → Act Nat
  | 0, _, _ => giveUp
  | fuel + 1, tested, c => do
    modify fun s => { s with traps := [] }
    finish fuel (← (run fuel tested c).attempt)

/-- Does what is to be done at the end of a shell. -/
def finish : Nat → Except Stop Nat → Act Nat
  | 0, _ => giveUp
  | fuel + 1, result => do
    match endingOf result, (← get).traps.lookup 0 with
    | .code n, some action =>
      modify fun s => { s with status := n, traps := s.traps.filter (·.1 ≠ 0) }
      let _ ← runText fuel { line := 1, rest := action }
      return n
    | _, _ => Action.ofExcept result

/-- Runs commands side by side, each one reading what the one before it writes. -/
def runPipeline : Nat → (tested : Bool) → List Command → Act Ending
  | 0, _, _ => giveUp
  | _ + 1, _, [] => pure (.code 0)
  | fuel + 1, tested, [c] => isolated (runOwn fuel tested c)
  | fuel + 1, tested, c :: cs => do
    let before ← get
    let (ending, text) ← capture (isolated (runOwn fuel true c))
    if ending = .signal Signal.brokenPipe then
      modify fun s => { s with lingers := before.lingers }
    modify fun s => s.connect 0 (.source text)
    let ending ← runPipeline fuel tested cs
    modify fun s => { s with descriptors := before.descriptors }
    return ending

/-- Repeats a command; the last argument is the status so far. -/
def runLoop : Nat → (tested : Bool) → Bool → Command → Command → Nat → Act Nat
  | 0, _, _, _, _, _ => giveUp
  | fuel + 1, tested, while_, test, body, status => do
    match ← turn (run fuel true test) with
    | (false, n) => conclude tested n
    | (true, n) =>
      if decide (n = 0) != while_ then conclude true status
      else
        match ← turn (run fuel tested body) with
        | (false, n) => conclude tested n
        | (true, n) => runLoop fuel tested while_ test body n

/-- Repeats a command with a variable that takes the values in turn. -/
def runEach : Nat → (tested : Bool) → Octets → Command → Nat → List Octets → Act Nat
  | 0, _, _, _, _, _ => giveUp
  | _ + 1, _, _, _, status, [] => conclude true status
  | fuel + 1, tested, name, body, _, value :: values => do
    modify fun s => s.assign name value false
    match ← turn (run fuel tested body) with
    | (false, n) => conclude tested n
    | (true, n) => runEach fuel tested name body n values

/-- Runs the first arm with a pattern that the subject matches. -/
def runCases : Nat → (tested : Bool) → Octets → List (List Word × Command) → Act Nat
  | 0, _, _, _ => giveUp
  | _ + 1, tested, _, [] => conclude tested 0
  | fuel + 1, tested, subject, (patterns, body) :: arms => do
    if ← matchesAny fuel subject patterns then run fuel tested body
    else runCases fuel tested subject arms

/-- One of the patterns matches. -/
def matchesAny : Nat → Octets → List Word → Act Bool
  | 0, _, _ => giveUp
  | _ + 1, _, [] => pure false
  | fuel + 1, subject, p :: ps => do
    let pattern := Fields.joined (← expand fuel false p)
    if matchesAll pattern subject then return true else matchesAny fuel subject ps

/-- Carries out redirections; tells whether that worked. -/
def redirect : Nat → List Redirect → Act Bool
  | 0, _ => giveUp
  | _ + 1, [] => pure true
  | fuel + 1, .mk descriptor op target :: rest => do
    let target ← expandText fuel target
    match (← get).redirect descriptor op target with
    | .ok s =>
      set s
      redirect fuel rest
    | .error text =>
      blame text
      return false

/-- Runs an act with redirections that end with it. -/
def withRedirects : Nat → (tested : Bool) → List Redirect → Act Nat → Act Nat
  | 0, _, _, _ => giveUp
  | fuel + 1, tested, redirects, act => do
    let before := (← get).descriptors
    let worked ← redirect fuel redirects
    let result ← (if worked then act else conclude tested 2).attempt
    modify fun s => { s with descriptors := before }
    Action.ofExcept result

/-- Makes assignments. -/
def assign : Nat → Bool → List (Octets × Word) → Act Unit
  | 0, _, _ => giveUp
  | _ + 1, _, [] => pure ()
  | fuel + 1, exported, (name, word) :: rest => do
    let value ← expandText fuel word
    modify fun s => s.assign name value exported
    assign fuel exported rest

/-- Runs an act with assignments that end with it. -/
def withAssignments : Nat → List (Octets × Word) → Act Nat → Act Nat
  | 0, _, _ => giveUp
  | fuel + 1, assignments, act => do
    let before := (← get).bindings
    assign fuel true assignments
    let result ← act.attempt
    modify fun s => assignments.foldl (fun s (name, _) => s.restore name (before.lookup name)) s
    Action.ofExcept result

/-- Runs a simple command. -/
def runSimple : Nat → (tested : Bool) → List (Octets × Word) → List Word → List Redirect → Act Nat
  | 0, _, _, _, _ => giveUp
  | fuel + 1, tested, assignments, words, redirects => do
    match ← expandWords fuel words with
    | [] =>
      withRedirects fuel tested redirects do
        assign fuel false assignments
        conclude tested ((← get).captured.getD 0)
    | name :: args =>
      let special := specialNames.contains (shown name)
      if shown name = "exec" ∧ args.isEmpty then
        if ← redirect fuel redirects then conclude tested 0 else throw (.exit 2)
      else
        let act : Act Nat := do
          if special then
            assign fuel false assignments
            dispatch fuel tested name args
          else withAssignments fuel assignments (dispatch fuel tested name args)
        let before := (← get).descriptors
        let worked ← redirect fuel redirects
        let result ← (if worked then act else if special then throw (.exit 2) else pure 2).attempt
        modify fun s => { s with descriptors := before }
        conclude tested (← Action.ofExcept result)

/-- Carries out a command by its name. -/
def dispatch : Nat → (tested : Bool) → Octets → List Octets → Act Nat
  | 0, _, _, _ => giveUp
  | fuel + 1, tested, name, args => do
    match (← get).functions.lookup name with
    | some body => callFunction fuel tested body args
    | none => carryOut fuel tested name args

/-- Carries out a command that is not a function. -/
def carryOut : Nat → (tested : Bool) → Octets → List Octets → Act Nat
  | 0, _, _, _ => giveUp
  | fuel + 1, tested, name, args => do
    match shown name with
    | "eval" => runText fuel { line := (← get).line, rest := [' '].intercalate args }
    | "." =>
      let s ← get
      let file := args.headD []
      match s.tree.read (routeOf file) with
      | .error .noEntry =>
        refuse (".: " ++ if file.contains '/' then openFault "open" "No such file" file .noEntry
          else shown file ++ ": not found")
      | .error fault => refuse (".: " ++ openFault "open" "No such file" file fault)
      | .ok data =>
        match ← (runText fuel { line := 1, rest := octets data }).attempt with
        | .error (.return n) => return n
        | result => Action.ofExcept result
    | "exec" =>
      let ending ← startNamed fuel "exec: " (args.headD []) (args.drop 1)
      modify fun s => { s with traps := [] }
      throw (stopFor ending)
    | "command" =>
      match args with
      | [] => return 0
      | option :: rest =>
        if option = ascii "-v" ∨ option = ascii "-V" then
          match (rest.head?).bind (whereIs? (← get)) with
          | some path =>
            say (path ++ ['\n'])
            return 0
          | none => return 127
        else carryOut fuel tested option rest
    | "type" =>
      let s ← get
      forEach (fun name => do
        match whereIs? s name with
        | some path =>
          say (name ++ ascii (if path = name then " is a shell builtin" else " is ") ++
            (if path = name then [] else path) ++ ['\n'])
          return 0
        | none =>
          say (name ++ ascii ": not found\n")
          return 127) args
    | text =>
      match builtins.lookup text with
      | some act =>
        match ← (act args).attempt with
        | .error (.signal n) =>
          match (← get).traps.lookup n with
          | some action =>
            if n = Signal.kill then throw (.signal n)
            runText fuel { line := 1, rest := action }
          | none => throw (.signal n)
        | result => Action.ofExcept result
      | none => await (← startNamed fuel "" name args)

/-- Calls a function. -/
def callFunction : Nat → (tested : Bool) → Command → List Octets → Act Nat
  | 0, _, _, _ => giveUp
  | fuel + 1, tested, body, args => do
    let before ← get
    set { before with arguments := args, locals := [] }
    let result ← (run fuel tested body).attempt
    modify fun s => { s.locals.foldl (fun s (name, value) => s.restore name value) s with
      arguments := before.arguments
      locals := before.locals }
    match result with
    | .error (.return n) => return n
    | result => Action.ofExcept result

/-- Starts the program that a name stands for. -/
def startNamed : Nat → String → Octets → List Octets → Act Ending
  | 0, _, _, _ => giveUp
  | fuel + 1, context, name, args => do
    let s ← get
    match Image.search s.tree ((s.value? (ascii "PATH")).getD []) name args with
    | .ok image => asProcess (start fuel image)
    | .error .execFormat => asProcess (start fuel { program := "sh", name, arguments := name :: args })
    | .error fault =>
      blame (context ++ shown name ++ ": " ++
        if isAbsence fault then "not found" else fault.description)
      return .code (if isAbsence fault then 127 else 126)

/-- Runs a program. -/
def start : Nat → Image → Act Nat
  | 0, _ => giveUp
  | fuel + 1, image =>
    match image.program with
    | "sh" => runShell fuel image.name image.arguments
    | "env" => runEnv fuel image.arguments
    | name =>
      match programs.lookup name with
      | some program => program image.arguments
      | none => pure 127

/-- Runs a program with other variables. -/
def runEnv : Nat → List Octets → Act Nat
  | 0, _ => giveUp
  | fuel + 1, args => do
    match args with
    | [] =>
      say ((← get).bindings.reverse.flatMap fun (name, v) => name ++ '=' :: v.value ++ ['\n'])
      return 0
    | ['-', 'i'] :: rest =>
      modify fun s => { s with bindings := [] }
      runEnv fuel rest
    | ['-', 'u'] :: name :: rest =>
      modify fun s => s.unassign name
      runEnv fuel rest
    | word :: rest =>
      let name := word.takeWhile (· ≠ '=')
      if name.length < word.length then
        modify fun s => s.assign name (word.drop (name.length + 1)) true
        runEnv fuel rest
      else
        let s ← get
        match Image.search s.tree ((s.value? (ascii "PATH")).getD []) word rest with
        | .ok image => start fuel image
        | .error fault =>
          complain ("env: ‘" ++ shown word ++ "’: " ++ fault.description)
          return if isAbsence fault then 127 else 126

/-- Runs a shell. -/
def runShell : Nat → Octets → List Octets → Act Nat
  | 0, _, _ => giveUp
  | fuel + 1, name, args => do
    let (options, rest) := splitOptions args
    modify fun s =>
      { s with name, strict := 'e' ∈ options, demanding := 'u' ∈ options, loops := 0 }
    let result ← Action.attempt (do
      if 'c' ∈ options then
        match rest with
        | [] =>
          modify fun s => { s with line := 0 }
          refuse "-c requires an argument"
        | text :: more =>
          modify fun s => { s with name := more.headD name, arguments := more.drop 1 }
          runText fuel { line := 1, rest := text }
      else
        match rest with
        | file :: more =>
          match (← get).tree.read (routeOf file) with
          | .ok data =>
            modify fun s => { s with name := file, arguments := more }
            runText fuel { line := 1, rest := octets data }
          | .error fault =>
            modify fun s => { s with line := 0 }
            refuse (openFault "open" "No such file" file fault)
        | [] => runText fuel { line := 1, rest := ← takeInput })
    finish fuel result

/-- Runs a script line by line. -/
def runText : Nat → Source → Act Nat
  | 0, _ => giveUp
  | fuel + 1, s => do
    match nextLine s with
    | .error fault =>
      modify fun s => { s with line := fault.line }
      refuse ("Syntax error: " ++ fault.message)
    | .ok none => return (← get).status
    | .ok (some (c, rest)) =>
      let n ← run fuel false c
      modify fun s => { s with status := n }
      runText fuel rest

/-- The fields that words become. -/
def expandWords : Nat → List Word → Act (List Octets)
  | 0, _ => giveUp
  | _ + 1, [] => pure []
  | fuel + 1, w :: ws => do
    let pieces ← expand fuel false w
    let s ← get
    let fields := (Fields.ofPieces s.separators pieces).flatMap (expandPaths s.tree)
    return fields ++ (← expandWords fuel ws)

/-- The one text that a word becomes where it is not split. -/
def expandText : Nat → Word → Act Octets
  | 0, _ => giveUp
  | fuel + 1, w => do return unmark (Fields.joined (← expand fuel false w))

/-- The pieces that a word becomes; `splits` says that text outside quotes is split, too. -/
def expand : Nat → Bool → Word → Act (List Piece)
  | 0, _, _ => giveUp
  | fuel + 1, splits, w => do
    match w with
    | [] => return []
    | .quoted [] :: .parameter ['@'] edit true :: r =>
      let pieces ← expandParameter fuel ['@'] edit true
      return pieces ++ (← expand fuel splits r)
    | .plain text :: r =>
      let piece := if splits then .split text else .text (mark false text)
      return piece :: (← expand fuel splits r)
    | .quoted text :: r => return .text (mark true text) :: (← expand fuel splits r)
    | .parameter name edit quoted :: r =>
      let pieces ← expandParameter fuel name edit quoted
      return pieces ++ (← expand fuel splits r)
    | .substitution body quoted :: r =>
      let (ending, text) ← capture (isolated (runOwn fuel false body))
      modify fun s => { s with status := ending.status, captured := some ending.status }
      return pieceOf quoted (trimOutput text) :: (← expand fuel splits r)
    | .arithmetic body quoted :: r =>
      let text ← expandText fuel body
      let s ← get
      match evaluate? (s.bindings.map fun (name, v) => (name, v.value)) text with
      | some (value, values) =>
        set (s.assignAll values)
        return pieceOf quoted (ascii (toString value)) :: (← expand fuel splits r)
      | none =>
        refuse ("arithmetic expression: expecting primary: \"" ++ shown text ++ "\"")

/-- The pieces that a parameter becomes. -/
def expandParameter : Nat → Octets → Edit → Bool → Act (List Piece)
  | 0, _, _, _ => giveUp
  | fuel + 1, name, edit, quoted => do
    let s ← get
    let all := name = ['@'] ∨ name = ['*']
    let value := if all then
        (if s.arguments.isEmpty then none else some ([' '].intercalate s.arguments))
      else parameter? s name
    let present (colon : Bool) : Bool := value.isSome && !(colon && value = some [])
    let pieces : List Piece :=
      if all then argumentPieces s (name = ['*']) quoted else [pieceOf quoted (value.getD [])]
    match edit with
    | .none =>
      if s.demanding ∧ value.isNone ∧ !all then refuse (shown name ++ ": parameter not set")
      return pieces
    | .length =>
      let n := if all then s.arguments.length else (value.getD []).length
      return [pieceOf quoted (ascii (toString n))]
    | .fallback .use colon word =>
      if present colon then return pieces else expand fuel (!quoted) word
    | .fallback .replace colon word =>
      if present colon then expand fuel (!quoted) word else return []
    | .fallback .assign colon word =>
      if present colon then return pieces
      else
        let text ← expandText fuel word
        modify fun s => s.assign name text false
        return [pieceOf quoted text]
    | .fallback .fail colon word =>
      if present colon then return pieces
      else
        let text ← expandText fuel word
        let usual := if colon then "parameter not set or null" else "parameter not set"
        refuse (shown name ++ ": " ++ if word.isEmpty then usual else shown text)
    | .trim back longest word =>
      let pattern := Fields.joined (← expand fuel false word)
      return [pieceOf quoted (trimMatch back longest pattern (value.getD []))]

end

/-- How much a script may do. -/
def fuelOfScript : Nat := 300000

/-- What a program leaves behind. -/
structure Finished where
  ending : Ending
  stdout : Bytes
  stderr : Bytes
  tree : FileTree
  /-- It would still be running if one looked at it now. -/
  lingers : Bool
deriving Repr

/-- Starts a program by its name, with nothing to read, and runs it to its end. -/
def launch (t : FileTree) (environment : List (Octets × Octets)) (name : Octets)
    (args : List Octets) : Except OsFault Finished := do
  let image ← Image.search t ((environment.lookup (ascii "PATH")).getD []) name args
  let (result, s) := start fuelOfScript image {
    tree := t
    channels := #[.source [], .sink [], .sink []]
    descriptors := [(0, 0), (1, 1), (2, 2)]
    bindings := environment.map fun (name, value) => (name, { value, exported := true }) }
  return {
    ending := endingOf result
    stdout := bytesOf (s.written 1)
    stderr := bytesOf (s.written 2)
    tree := { s.tree with workingDirectory := t.workingDirectory }
    lingers := s.lingers }

end GuestVault.Shell
