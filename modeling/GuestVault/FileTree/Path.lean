import GuestVault.FileTree.Walk
import GuestVault.Text.Quoted

/-!
# Paths of the operating system

A path is bytes; it need not be a text. Its parts are separated by slashes. Empty parts and parts that
are a single dot lead nowhere, so they are skipped at the end of a path; a single dot at its very start
is kept. Where a path is shown, bytes that are no text are replaced, so what is shown of two paths can
be the same.
-/

namespace GuestVault

open GuestVault.Text

/-- A path as the operating system takes it. -/
abbrev SystemPath := Bytes

namespace SystemPath

open Route (slash)

/-- The byte that stands for the directory itself. -/
def dot : UInt8 := 0x2E

/-- The path starts at the root. -/
def isAbsolute (p : SystemPath) : Bool :=
  p.head? = some slash

/-- The path of something inside a directory. An absolute path stays itself. -/
def join (dir p : SystemPath) : SystemPath :=
  if isAbsolute p then p
  else if dir = [] ∨ dir.getLast? = some slash then dir ++ p
  else dir ++ slash :: p

/-! ## How a path is shown -/

/-- The path as a text. -/
def shown (p : SystemPath) : String :=
  lossy p

/-- A byte that is part of no character, by its number. -/
def quoteByte (b : UInt8) : List Char :=
  ['\\', 'x', (hexDigit (b.toNat / 16)).toUpper, (hexDigit (b.toNat % 16)).toUpper]

/-- The path inside of quotes. `skip` bytes belong to what came before, be it a character or a
`gap`. -/
def quoteAfter (gap : Bool) : (skip : Nat) → SystemPath → List Char
  | _, [] => []
  | skip + 1, b :: r => (if gap then quoteByte b else []) ++ quoteAfter gap skip r
  | 0, b :: r =>
    match leading b.toNat r with
    | (some c, skip) => quoteChar c ++ quoteAfter false skip r
    | (none, skip) => quoteByte b ++ quoteAfter true skip r

/-- The path in double quotes. -/
def quoted (p : SystemPath) : String :=
  String.ofList ('"' :: quoteAfter false 0 p ++ ['"'])

/-! ## The parts of a path -/

/-- The part of a path that is never stripped: the root, or a dot of its own. -/
def root (p : SystemPath) : SystemPath × SystemPath :=
  match p with
  | [] => ([], [])
  | b :: r =>
    if b = slash then ([slash], r)
    else if b = dot ∧ (r = [] ∨ r.head? = some slash) then ([dot], r)
    else ([], p)

/-- What is left of a reversed path without the parts at its end that lead nowhere. -/
def stripIdle : Bytes → Bytes
  | [] => []
  | b :: r =>
    if b = slash then stripIdle r
    else if b = dot then
      match r with
      | [] => []
      | b' :: r' => if b' = slash then stripIdle r' else b :: r
    else b :: r

/-- The directory that a path is in, if the path has any part. -/
def parent? (p : SystemPath) : Option SystemPath :=
  let (root, body) := root p
  match stripIdle body.reverse with
  | [] => if root = [dot] then some [] else none
  | s => some (root ++ (stripIdle (s.dropWhile (· ≠ slash))).reverse)

/-- The directory that a path is in; relative paths without one are in `.`. -/
def directory (p : SystemPath) : SystemPath :=
  match parent? p with
  | none | some [] => [dot]
  | some dir => dir

/-- The last part of a path, and what stands before it. -/
def splitName (p : SystemPath) : Option (SystemPath × FileName) :=
  let (root, body) := root p
  let s := stripIdle body.reverse
  let name := (s.takeWhile (· ≠ slash)).reverse
  if name = [] ∨ name = Route.above then none
  else some (root ++ (s.dropWhile (· ≠ slash)).reverse, name)

/-- A name without its extension, and the extension; a dot at the start of a name begins none. -/
def splitExtension (name : FileName) : FileName × Option FileName :=
  let ext := (name.reverse.takeWhile (· ≠ dot)).reverse
  let stem := name.take (name.length - ext.length - 1)
  if ext.length < name.length ∧ stem ≠ [] then (stem, some ext) else (name, none)

/-- The extension of a path. -/
def extension? (p : SystemPath) : Option FileName :=
  (splitName p).bind fun (_, name) => (splitExtension name).2

/-- The path with another extension after those it has, if it has a name at all. -/
def withExtension (ext : FileName) (p : SystemPath) : SystemPath :=
  match splitName p with
  | none => p
  | some (front, name) => front ++ name ++ dot :: ext

end SystemPath

end GuestVault
