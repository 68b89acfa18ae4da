import GuestVault.Shell.Syntax
import GuestVault.Text.Number

/-!
# Reading scripts

A script is read one line of commands at a time, because the commands of a line run before the next
one is read. The fuel of the readers is twice the length of the script, which is more than they use.
-/

namespace GuestVault.Shell

/-- What is left of a script, and the number of its first line. -/
structure Source where
  line : Nat
  rest : Octets
deriving Repr

/-- Why a script cannot be read, and in which line. -/
structure SyntaxFault where
  line : Nat
  message : String
deriving Repr

/-- A reader's result: what it read and what is left, or why it cannot read on. -/
abbrev Fallible := Except SyntaxFault

namespace Source

/-- The source after so many octets. -/
def drop (n : Nat) (s : Source) : Source :=
  { line := s.line + ((s.rest.take n).filter (· = '\n')).length, rest := s.rest.drop n }

/-- A failure at this place. -/
def fault {α : Type} (s : Source) (message : String) : Fallible α :=
  .error { line := s.line, message }

end Source

/-! ## Words and blanks -/

/-- The octet ends a word. -/
def endsWord (c : Char) : Bool :=
  c = ' ' || c = '\t' || c = '\n' || c = ';' || c = '&' || c = '|' || c = '<' || c = '>' ||
    c = '(' || c = ')'

/-- The octet can be part of a name. -/
def isNameChar (c : Char) : Bool :=
  ('a' ≤ c && c ≤ 'z') || ('A' ≤ c && c ≤ 'Z') || ('0' ≤ c && c ≤ '9') || c = '_'

/-- The text is a name. -/
def isName : Octets → Bool
  | [] => false
  | c :: r => isNameChar c && !(('0' ≤ c && c ≤ '9')) && r.all isNameChar

/-- The number of blanks in front, with lines that are continued. -/
def blankLength : Octets → Nat
  | ' ' :: r => blankLength r + 1
  | '\t' :: r => blankLength r + 1
  | '\\' :: '\n' :: r => blankLength r + 2
  | _ => 0

/-- The source after blanks and a comment. -/
def skipBlanks (s : Source) : Source :=
  let s := s.drop (blankLength s.rest)
  match s.rest with
  | '#' :: r => s.drop (1 + (r.takeWhile (· ≠ '\n')).length)
  | _ => s

/-- The source after blanks, comments and line breaks. -/
def skipLines : Nat → Source → Source
  | 0, s => s
  | fuel + 1, s =>
    let s := skipBlanks s
    match s.rest with
    | '\n' :: _ => skipLines fuel (s.drop 1)
    | _ => s

/-- The plain word in front. -/
def peekWord (s : Source) : Octets := s.rest.takeWhile fun c => !endsWord c

/-- The words that end a list of commands. -/
def closers : List String := ["then", "else", "elif", "fi", "do", "done", "esac", "\x7d"]

/-- The commands of the shell that no function may take the place of. Assignments in front of them
last, and their faults end the script. -/
def specialNames : List String :=
  [":", "exit", "return", "break", "continue", "shift", "set", "unset", "export", "readonly",
    "trap", "times", "eval", "exec", ".", "local"]

/-- The words that begin a compound command. -/
def openers : List String := ["if", "while", "until", "for", "case", "\x7b"]

/-- The name of what stands in front, for messages. -/
def tokenName (s : Source) : String :=
  match s.rest with
  | [] => "end of file"
  | '\n' :: _ => "newline"
  | ';' :: ';' :: _ => "\";;\""
  | '&' :: '&' :: _ => "\"&&\""
  | '|' :: '|' :: _ => "\"||\""
  | c :: _ =>
    if endsWord c then "\"" ++ c.toString ++ "\""
    else
      let word := String.ofList (peekWord s)
      if word ∈ closers ∨ word ∈ openers then "\"" ++ word ++ "\"" else "word"

/-- Something else should stand here. -/
def unexpected {α : Type} (s : Source) (wanted : Option String) : Fallible α :=
  let hint := match wanted with
    | some w => " (expecting \"" ++ w ++ "\")"
    | none => ""
  s.fault (tokenName s ++ " unexpected" ++ hint)

/-- The given word must stand here. -/
def expect (word : String) (s : Source) : Fallible (Unit × Source) :=
  if peekWord s = word.toList then .ok ((), s.drop word.length) else unexpected s (some word)

/-! ## Parts of words -/

/-- Where parts are read: up to which octet, and whether within double quotes. -/
inductive Context where
  | bare
  | double
  | brace (quoted : Bool)
  /-- Up to the end; quotes stand for themselves. -/
  | text
deriving Repr, DecidableEq

namespace Context

/-- What is read is quoted. -/
def quotes : Context → Bool
  | bare => false
  | double => true
  | brace q => q
  | text => true

/-- The octet ends the parts. -/
def stops (ctx : Context) (c : Char) : Bool :=
  match ctx with
  | bare => endsWord c
  | double => c = '"'
  | brace _ => c = '\x7d'
  | text => false

/-- A backslash takes away the meaning of the octet. -/
def escapes (ctx : Context) (c : Char) : Bool :=
  match ctx with
  | bare | brace false => true
  | double => c = '$' || c = '`' || c = '"' || c = '\\'
  | brace true => c = '$' || c = '`' || c = '"' || c = '\\' || c = '\x7d'
  | text => c = '$' || c = '`' || c = '\\'

end Context

/-- A literal part. -/
def literal (quoted : Bool) (s : Octets) : Part :=
  if quoted then .quoted s else .plain s

/-- Adds a part in front, joined with the next one if both are literal and alike. -/
def consPart : Part → List Part → List Part
  | .plain a, .plain b :: r => .plain (a ++ b) :: r
  | .quoted a, .quoted b :: r => .quoted (a ++ b) :: r
  | p, r => p :: r

/-- The special parameters of one octet. -/
def isSpecial (c : Char) : Bool :=
  c = '@' || c = '*' || c = '#' || c = '?' || c = '-' || c = '$' || c = '!' ||
    ('0' ≤ c && c ≤ '9')

/-- The text up to the two brackets that end an arithmetic expansion. -/
def arithmeticText : Nat → Octets → Option Octets
  | _, [] => none
  | depth, '(' :: r => (arithmeticText (depth + 1) r).map ('(' :: ·)
  | 0, ')' :: ')' :: _ => some []
  | 0, ')' :: _ => none
  | depth + 1, ')' :: r => (arithmeticText depth r).map (')' :: ·)
  | depth, c :: r => (arithmeticText depth r).map (c :: ·)

/-- The text up to the closing backquote, as it is written. -/
def backquoteText : Octets → Option Octets
  | [] => none
  | '`' :: _ => some []
  | '\\' :: c :: r => (backquoteText r).map ('\\' :: c :: ·)
  | c :: r => (backquoteText r).map (c :: ·)

/-- The script between backquotes. -/
def unescapeBackquote : Octets → Octets
  | '\\' :: c :: r =>
    if c = '`' || c = '\\' || c = '$' then c :: unescapeBackquote r
    else '\\' :: c :: unescapeBackquote r
  | c :: r => c :: unescapeBackquote r
  | [] => []

/-- The lines of a here-document up to its end, and what follows it. -/
def hereText (stripTabs : Bool) (stop : Octets) : Nat → Octets → Octets × Octets
  | 0, s => ([], s)
  | _, [] => ([], [])
  | fuel + 1, s =>
    let line := s.takeWhile (· ≠ '\n')
    let rest := s.drop (line.length + 1)
    let line := if stripTabs then line.dropWhile (· = '\t') else line
    if line = stop then ([], rest)
    else
      let (more, rest) := hereText stripTabs stop fuel rest
      (line ++ '\n' :: more, rest)

/-- The operator of a redirection, and its length. -/
def redirectOp? : Octets → Option (RedirectOp × Nat)
  | '<' :: '<' :: '-' :: _ => some (.here, 3)
  | '<' :: '<' :: _ => some (.here, 2)
  | '<' :: '&' :: _ => some (.duplicate, 2)
  | '<' :: '>' :: _ => some (.readWrite, 2)
  | '<' :: _ => some (.read, 1)
  | '>' :: '>' :: _ => some (.append, 2)
  | '>' :: '&' :: _ => some (.duplicate, 2)
  | '>' :: '|' :: _ => some (.write, 2)
  | '>' :: _ => some (.write, 1)
  | _ => none

/-- The text of a word that has nothing but literal parts. -/
def literalText? : Word → Option Octets
  | [] => some []
  | .plain s :: r => (literalText? r).map (s ++ ·)
  | .quoted s :: r => (literalText? r).map (s ++ ·)
  | _ :: _ => none

/-- The word is not quoted anywhere. -/
def isUnquoted (w : Word) : Bool :=
  w.all fun
    | .quoted _ => false
    | _ => true

/-- The name and the value of an assignment. -/
def assignment? : Word → Option (Octets × Word)
  | .plain s :: r =>
    let name := s.takeWhile (· ≠ '=')
    if isName name ∧ name.length < s.length then
      some (name, consPart (.plain (s.drop (name.length + 1))) r)
    else none
  | _ => none

mutual

/-- The parts up to where the context ends. -/
def readParts : Nat → Context → Source → Fallible (List Part × Source)
  | 0, _, s => s.fault "out of memory"
  | fuel + 1, ctx, s =>
    match s.rest with
    | [] =>
      match ctx with
      | .double => s.fault "Unterminated quoted string"
      | .brace _ => s.fault "Missing '\x7d'"
      | _ => .ok ([], s)
    | c :: r =>
      if ctx.stops c then .ok ([], s)
      else if c = '\\' then
        match r with
        | '\n' :: _ => readParts fuel ctx (s.drop 2)
        | d :: _ => do
          let text := if ctx.escapes d then [d] else ['\\', d]
          let (ps, s) ← readParts fuel ctx (s.drop 2)
          return (consPart (.quoted text) ps, s)
        | [] => return ([literal ctx.quotes ['\\']], s.drop 1)
      else if c = '\'' ∧ ctx.quotes = false then do
        let text := r.takeWhile (· ≠ '\'')
        if text.length = r.length then s.fault "Unterminated quoted string"
        else
          let (ps, s) ← readParts fuel ctx (s.drop (text.length + 2))
          return (consPart (.quoted text) ps, s)
      else if c = '"' ∧ ctx ≠ .text then do
        let (inner, s) ← readParts fuel .double (s.drop 1)
        let (ps, s) ← readParts fuel ctx (s.drop 1)
        return (consPart (.quoted []) (inner ++ ps), s)
      else if c = '$' then do
        let (p, s) ← readDollar fuel ctx s
        let (ps, s) ← readParts fuel ctx s
        return (consPart p ps, s)
      else if c = '`' then do
        match backquoteText r with
        | none => s.fault "EOF in backquote substitution"
        | some text =>
          let (body, _) ← readCommands fuel { line := s.line, rest := unescapeBackquote text }
          let (ps, s) ← readParts fuel ctx (s.drop (text.length + 2))
          return (.substitution body ctx.quotes :: ps, s)
      else do
        let (ps, s) ← readParts fuel ctx (s.drop 1)
        return (consPart (literal ctx.quotes [c]) ps, s)

/-- What a dollar sign introduces. -/
def readDollar : Nat → Context → Source → Fallible (Part × Source)
  | 0, _, s => s.fault "out of memory"
  | fuel + 1, ctx, s =>
    match s.rest.drop 1 with
    | '(' :: '(' :: r => do
      match arithmeticText 0 r with
      | none => s.fault "Missing '))'"
      | some text =>
        let (body, _) ← readParts fuel .text { line := s.line, rest := text }
        return (.arithmetic body ctx.quotes, s.drop (text.length + 5))
    | '(' :: _ => do
      let (body, s) ← readCommands fuel (s.drop 2)
      match s.rest with
      | ')' :: _ => return (.substitution body ctx.quotes, s.drop 1)
      | _ => unexpected s (some ")")
    | '\x7b' :: r => readBrace fuel ctx.quotes r (s.drop 2)
    | c :: r =>
      if isSpecial c then .ok (.parameter [c] .none ctx.quotes, s.drop 2)
      else if isNameChar c then
        let name := (c :: r).takeWhile isNameChar
        .ok (.parameter name .none ctx.quotes, s.drop (name.length + 1))
      else .ok (literal ctx.quotes ['$'], s.drop 1)
    | [] => .ok (literal ctx.quotes ['$'], s.drop 1)

/-- A parameter in braces, after the opening one. -/
def readBrace : Nat → Bool → Octets → Source → Fallible (Part × Source)
  | 0, _, _, s => s.fault "out of memory"
  | fuel + 1, quoted, text, s => do
    let nameOf (t : Octets) : Octets :=
      match t with
      | c :: r =>
        if '0' ≤ c && c ≤ '9' then c :: r.takeWhile fun d => '0' ≤ d && d ≤ '9'
        else if isSpecial c then [c]
        else t.takeWhile isNameChar
      | [] => []
    match text with
    | '#' :: c :: r =>
      if c ≠ '\x7d' then
        let name := nameOf (c :: r)
        match s.rest.drop (name.length + 1) with
        | '\x7d' :: _ => return (.parameter name .length quoted, s.drop (name.length + 2))
        | _ => s.fault "Bad substitution"
      else return (.parameter ['#'] .none quoted, s.drop 2)
    | _ =>
      let name := nameOf text
      let after := s.drop name.length
      let word (n : Nat) (edit : Word → Edit) : Fallible (Part × Source) := do
        let (w, s) ← readParts fuel (.brace quoted) (after.drop n)
        return (.parameter name (edit w) quoted, s.drop 1)
      if name = [] then s.fault "Bad substitution"
      else
        match after.rest with
        | '\x7d' :: _ => return (.parameter name .none quoted, after.drop 1)
        | ':' :: '-' :: _ => word 2 (.fallback .use true)
        | ':' :: '=' :: _ => word 2 (.fallback .assign true)
        | ':' :: '?' :: _ => word 2 (.fallback .fail true)
        | ':' :: '+' :: _ => word 2 (.fallback .replace true)
        | '-' :: _ => word 1 (.fallback .use false)
        | '=' :: _ => word 1 (.fallback .assign false)
        | '?' :: _ => word 1 (.fallback .fail false)
        | '+' :: _ => word 1 (.fallback .replace false)
        | '#' :: '#' :: _ => word 2 (.trim false true)
        | '#' :: _ => word 1 (.trim false false)
        | '%' :: '%' :: _ => word 2 (.trim true true)
        | '%' :: _ => word 1 (.trim true false)
        | _ => s.fault "Bad substitution"

/-- A word. -/
def readWord : Nat → Source → Fallible (Word × Source)
  | 0, s => s.fault "out of memory"
  | fuel + 1, s => do
    let (w, s') ← readParts fuel .bare s
    if s'.rest.length = s.rest.length then unexpected s none else return (w, s')

/-- A redirection after its descriptor, if one stands here. -/
def readRedirect? : Nat → Source → Fallible (Option (Redirect × Source))
  | 0, s => s.fault "out of memory"
  | fuel + 1, s => do
    let digits := s.rest.takeWhile fun c => '0' ≤ c && c ≤ '9'
    let at_ := s.drop digits.length
    match redirectOp? at_.rest with
    | none => return none
    | some (op, n) =>
      let usual := if at_.rest.head? = some '<' then 0 else 1
      let descriptor := if digits = [] then usual else Text.digitsValue digits
      let (word, s) ← readWord fuel (skipBlanks (at_.drop n))
      if op = .here then
        let stop := (literalText? word).getD []
        let line := s.rest.takeWhile (· ≠ '\n')
        let (text, rest) :=
          hereText (n = 3) stop (s.rest.length + 1) (s.rest.drop (line.length + 1))
        let body ← if isUnquoted word then
            (readParts fuel .text { line := s.line, rest := text }).map Prod.fst
          else pure [.quoted text]
        return some (.mk descriptor op body, { s with rest := line ++ '\n' :: rest })
      else return some (.mk descriptor op word, s)

/-- The words, assignments and redirections of a simple command. -/
def readSimple : Nat → Source →
    Fallible ((List (Octets × Word) × List Word × List Redirect) × Source)
  | 0, s => s.fault "out of memory"
  | fuel + 1, s => do
    let s := skipBlanks s
    match ← readRedirect? fuel s with
    | some (redirect, s) =>
      let ((as, ws, rs), s) ← readSimple fuel s
      return ((as, ws, redirect :: rs), s)
    | none =>
      match s.rest with
      | [] => return (([], [], []), s)
      | c :: _ =>
        if endsWord c then return (([], [], []), s)
        else
          let (w, s) ← readWord fuel s
          match assignment? w with
          | some a =>
            let ((as, ws, rs), s) ← readSimple fuel s
            return ((a :: as, ws, rs), s)
          | none =>
            let ((ws, rs), s) ← readArguments fuel s
            return (([], w :: ws, rs), s)

/-- A simple command, which must not be empty. -/
def readSimpleCommand : Nat → Source → Fallible (Command × Source)
  | 0, s => s.fault "out of memory"
  | fuel + 1, s => do
    let ((as, ws, rs), s') ← readSimple fuel s
    if as.isEmpty ∧ ws.isEmpty ∧ rs.isEmpty then unexpected s none
    else return (.simple s.line as ws rs, s')

/-- The further words of a simple command. -/
def readArguments : Nat → Source → Fallible ((List Word × List Redirect) × Source)
  | 0, s => s.fault "out of memory"
  | fuel + 1, s => do
    let s := skipBlanks s
    match ← readRedirect? fuel s with
    | some (redirect, s) =>
      let ((ws, rs), s) ← readArguments fuel s
      return ((ws, redirect :: rs), s)
    | none =>
      match s.rest with
      | [] => return (([], []), s)
      | c :: _ =>
        if endsWord c then return (([], []), s)
        else
          let (w, s) ← readWord fuel s
          let ((ws, rs), s) ← readArguments fuel s
          return ((w :: ws, rs), s)

/-- The redirections after a compound command. -/
def readRedirects : Nat → Source → Fallible (List Redirect × Source)
  | 0, s => s.fault "out of memory"
  | fuel + 1, s => do
    match ← readRedirect? fuel (skipBlanks s) with
    | none => return ([], s)
    | some (redirect, s) =>
      let (rs, s) ← readRedirects fuel s
      return (redirect :: rs, s)

/-- The patterns of one arm, up to the bracket. -/
def readPatterns : Nat → Source → Fallible (List Word × Source)
  | 0, s => s.fault "out of memory"
  | fuel + 1, s => do
    let (w, s) ← readWord fuel (skipBlanks s)
    let s := skipBlanks s
    match s.rest with
    | '|' :: _ =>
      let (ws, s) ← readPatterns fuel (s.drop 1)
      return (w :: ws, s)
    | ')' :: _ => return ([w], s.drop 1)
    | _ => unexpected s (some ")")

/-- The arms of a case command, up to its end. -/
def readArms : Nat → Source → Fallible (List (List Word × Command) × Source)
  | 0, s => s.fault "out of memory"
  | fuel + 1, s => do
    let s := skipLines fuel s
    if peekWord s = "esac".toList then return ([], s.drop 4)
    else
      let s := if s.rest.head? = some '(' then s.drop 1 else s
      let (patterns, s) ← readPatterns fuel s
      let (body, s) ← readCommands fuel s
      match s.rest with
      | ';' :: ';' :: _ =>
        let (arms, s) ← readArms fuel (s.drop 2)
        return ((patterns, body) :: arms, s)
      | _ =>
        let ((), s) ← expect "esac" s
        return ([(patterns, body)], s)

/-- What follows the test of a condition. -/
def readThen : Nat → Source → Fallible (Command × Source)
  | 0, s => s.fault "out of memory"
  | fuel + 1, s => do
    let (test, s) ← readCommands fuel s
    let ((), s) ← expect "then" s
    let (body, s) ← readCommands fuel s
    if peekWord s = "elif".toList then
      let (otherwise, s) ← readThen fuel (s.drop 4)
      return (.choice test body otherwise, s)
    else if peekWord s = "else".toList then
      let (otherwise, s) ← readCommands fuel (s.drop 4)
      let ((), s) ← expect "fi" s
      return (.choice test body otherwise, s)
    else
      let ((), s) ← expect "fi" s
      return (.choice test body .nothing, s)

/-- The words of a loop, up to the end of their line. -/
def readItems : Nat → Source → Fallible (List Word × Source)
  | 0, s => s.fault "out of memory"
  | fuel + 1, s => do
    let s := skipBlanks s
    match s.rest with
    | [] => return ([], s)
    | c :: _ =>
      if endsWord c then return ([], s)
      else
        let (w, s) ← readWord fuel s
        let (ws, s) ← readItems fuel s
        return (w :: ws, s)

/-- The body of a loop, from its first word on. -/
def readBody : Nat → Source → Fallible (Command × Source)
  | 0, s => s.fault "out of memory"
  | fuel + 1, s => do
    let ((), s) ← expect "do" s
    let (body, s) ← readCommands fuel s
    let ((), s) ← expect "done" s
    return (body, s)

/-- A loop over words, after its first word. -/
def readFor : Nat → Source → Fallible (Command × Source)
  | 0, s => s.fault "out of memory"
  | fuel + 1, s => do
    let s := skipBlanks s
    let name := peekWord s
    if !isName name then s.fault "Bad for loop variable"
    let s := skipLines fuel (s.drop name.length)
    let (words, s) ← if peekWord s = "in".toList then do
        let (ws, s) ← readItems fuel (s.drop 2)
        pure (some ws, s)
      else pure (none, s)
    let s := if s.rest.head? = some ';' then s.drop 1 else s
    let (body, s) ← readBody fuel (skipLines fuel s)
    return (.each name words body, s)

/-- A compound command that begins with the given word. -/
def readCompound : Nat → String → Source → Fallible (Command × Source)
  | 0, _, s => s.fault "out of memory"
  | fuel + 1, word, s => do
    let s := s.drop word.length
    if word = "if" then readThen fuel s
    else if word = "while" ∨ word = "until" then
      let (test, s) ← readCommands fuel s
      let (body, s) ← readBody fuel s
      return (.loop (word = "while") test body, s)
    else if word = "for" then readFor fuel s
    else if word = "case" then
      let (subject, s) ← readWord fuel (skipBlanks s)
      let ((), s) ← expect "in" (skipLines fuel s)
      let (arms, s) ← readArms fuel s
      return (.cases subject arms, s)
    else
      let (body, s) ← readCommands fuel s
      let ((), s) ← expect "\x7d" s
      return (body, s)

/-- One command. -/
def readCommand : Nat → Source → Fallible (Command × Source)
  | 0, s => s.fault "out of memory"
  | fuel + 1, s => do
    let s := skipBlanks s
    let word := String.ofList (peekWord s)
    let withRedirects (c : Command) (s : Source) : Fallible (Command × Source) := do
      let (rs, s) ← readRedirects fuel s
      return (if rs.isEmpty then c else .redirected c rs, s)
    if word ∈ openers then
      let (c, s) ← readCompound fuel word s
      withRedirects c s
    else if word ∈ closers then unexpected s none
    else if word = "!" then
      let (c, s) ← readPipeline fuel (s.drop 1)
      return (.negation c, s)
    else if s.rest.head? = some '(' then
      let (body, s) ← readCommands fuel (s.drop 1)
      match s.rest with
      | ')' :: _ => withRedirects (.subshell body) (s.drop 1)
      | _ => unexpected s (some ")")
    else
      let after := skipBlanks (s.drop word.length)
      match after.rest with
      | '(' :: r =>
        if word = "" ∨ word.toList.contains '=' then readSimpleCommand fuel s
        else
          let close := blankLength r
          if (r.drop close).head? ≠ some ')' then unexpected (after.drop (close + 1)) (some ")")
          else if isName word.toList = false ∨ word ∈ specialNames then
            after.fault "Bad function name"
          else
            let s := skipLines fuel (after.drop (close + 2))
            let (body, s) ← readCommand fuel s
            return (.function word.toList body, s)
      | _ => readSimpleCommand fuel s

/-- Commands with bars between them. -/
def readPipeline : Nat → Source → Fallible (Command × Source)
  | 0, s => s.fault "out of memory"
  | fuel + 1, s => do
    let (first, s) ← readCommand fuel s
    let s := skipBlanks s
    match s.rest with
    | '|' :: '|' :: _ => return (first, s)
    | '|' :: _ =>
      let (rest, s) ← readPipeline fuel (skipLines fuel (s.drop 1))
      match rest with
      | .pipeline cs => return (.pipeline (first :: cs), s)
      | c => return (.pipeline [first, c], s)
    | _ => return (first, s)

/-- Pipelines that depend on those before them, after the first one. -/
def readChain : Nat → Command → Source → Fallible (Command × Source)
  | 0, _, s => s.fault "out of memory"
  | fuel + 1, left, s => do
    let s := skipBlanks s
    match s.rest with
    | '&' :: '&' :: _ =>
      let (right, s) ← readPipeline fuel (skipLines fuel (s.drop 2))
      readChain fuel (.both left right) s
    | '|' :: '|' :: _ =>
      let (right, s) ← readPipeline fuel (skipLines fuel (s.drop 2))
      readChain fuel (.either left right) s
    | _ => return (left, s)

/-- The commands of a line; `one` says that it ends with the line. -/
def readLine : Nat → (one : Bool) → Source → Fallible (List Command × Source)
  | 0, _, s => s.fault "out of memory"
  | fuel + 1, one, s => do
    let s := skipBlanks s
    let more (c : Command) (s : Source) : Fallible (List Command × Source) := do
      let (cs, s) ← readLine fuel one s
      return (c :: cs, s)
    match s.rest with
    | [] | ')' :: _ | ';' :: ';' :: _ => return ([], s)
    | '\n' :: _ => if one then return ([], s.drop 1) else readLine fuel one (s.drop 1)
    | _ =>
      if String.ofList (peekWord s) ∈ closers then return ([], s)
      else
        let (first, s) ← readPipeline fuel s
        let (c, s) ← readChain fuel first s
        match s.rest with
        | ';' :: ';' :: _ => return ([c], s)
        | ';' :: _ => more c (s.drop 1)
        | '&' :: _ => more (.background c) (s.drop 1)
        | '\n' :: _ => if one then return ([c], s.drop 1) else more c (s.drop 1)
        | [] | ')' :: _ => return ([c], s)
        | _ => unexpected s none

/-- Commands up to something that ends them; there must be one. -/
def readCommands : Nat → Source → Fallible (Command × Source)
  | 0, s => s.fault "out of memory"
  | fuel + 1, s => do
    let (cs, s) ← readLine fuel false s
    return (match cs with
      | [c] => c
      | cs => .sequence cs, s)

end

/-- The commands of the next line, unless the script is at its end. -/
def nextLine (s : Source) : Fallible (Option (Command × Source)) := do
  let s := skipLines (s.rest.length + 1) s
  if s.rest.isEmpty then return none
  let fuel := 16 * s.rest.length + 64
  let (cs, rest) ← readLine fuel true s
  if cs.isEmpty ∧ rest.rest.length = s.rest.length then unexpected rest none
  return some (.sequence cs, rest)

end GuestVault.Shell
