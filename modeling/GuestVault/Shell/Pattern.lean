import GuestVault.Shell.State

/-!
# Patterns

Patterns match texts and file names: a star stands for anything, a question mark for any one octet,
and brackets for one octet out of a set. What was quoted stands for itself.
-/

namespace GuestVault.Shell

/-- An octet of an expanded word, and whether it was quoted. -/
abbrev Marked := Char × Bool

/-- The octets without the marks. -/
def unmark (s : List Marked) : Octets := s.map Prod.fst

/-- All octets marked as quoted or as not. -/
def mark (quoted : Bool) (s : Octets) : List Marked := s.map fun c => (c, quoted)

/-- The octets and ranges of a set up to its bracket, and what follows it. -/
def setItems : Nat → (first : Bool) → List Marked → Option (List (Char × Char) × List Marked)
  | 0, _, _ => none
  | _ + 1, _, [] => none
  | fuel + 1, first, (c, q) :: r =>
    if c = ']' ∧ q = false ∧ first = false then some ([], r)
    else
      match r with
      | ('-', false) :: (d, dq) :: r' =>
        if d = ']' ∧ dq = false then (setItems fuel false r).map fun (is, r) => ((c, c) :: is, r)
        else (setItems fuel false r').map fun (is, r) => ((c, d) :: is, r)
      | _ => (setItems fuel false r).map fun (is, r) => ((c, c) :: is, r)

/-- A set after its bracket: whether it is a complement, its items, and what follows it. -/
def set? (s : List Marked) : Option (Bool × List (Char × Char) × List Marked) :=
  match s with
  | (c, false) :: r =>
    if c = '!' ∨ c = '^' then (setItems (r.length + 1) true r).map fun (is, r) => (true, is, r)
    else (setItems (s.length + 1) true s).map fun (is, r) => (false, is, r)
  | _ => (setItems (s.length + 1) true s).map fun (is, r) => (false, is, r)

/-- The pattern matches the whole text. -/
def matchOn : Nat → List Marked → Octets → Bool
  | 0, _, _ => false
  | _ + 1, [], s => s.isEmpty
  | fuel + 1, (c, q) :: p, s =>
    if q then
      match s with
      | x :: r => x = c && matchOn fuel p r
      | [] => false
    else if c = '*' then
      matchOn fuel p s ||
        match s with
        | _ :: r => matchOn fuel ((c, q) :: p) r
        | [] => false
    else
      match s with
      | [] => false
      | x :: r =>
        if c = '?' then matchOn fuel p r
        else if c = '[' then
          match set? p with
          | some (complement, items, p) =>
            (items.any fun (a, b) => a ≤ x && x ≤ b) != complement && matchOn fuel p r
          | none => x = c && matchOn fuel p r
        else x = c && matchOn fuel p r

/-- The pattern matches the whole text. -/
def matchesAll (p : List Marked) (s : Octets) : Bool :=
  matchOn (p.length + s.length + 2) p s

/-- The length of the part at an end of the text that the pattern matches, longest or shortest. -/
def matchLength? (back longest : Bool) (p : List Marked) (s : Octets) : Option Nat :=
  let lengths := List.range (s.length + 1)
  let lengths := if longest then lengths.reverse else lengths
  lengths.find? fun n => matchesAll p (if back then s.drop (s.length - n) else s.take n)

/-- The text without the part at an end that the pattern matches. -/
def trimMatch (back longest : Bool) (p : List Marked) (s : Octets) : Octets :=
  match matchLength? back longest p s with
  | some n => if back then s.take (s.length - n) else s.drop n
  | none => s

/-- The word is a pattern. -/
def isPattern (w : List Marked) : Bool :=
  w.any fun (c, q) => !q && (c = '*' || c = '?' || c = '[')

/-- The parts of a pattern between slashes. -/
def patternParts : List Marked → List (List Marked)
  | [] => [[]]
  | (c, q) :: r =>
    if c = '/' then [] :: patternParts r
    else
      match patternParts r with
      | p :: ps => ((c, q) :: p) :: ps
      | [] => [[(c, q)]]

/-- The paths that begin with `base` and go on as the parts say. -/
def pathsFrom (t : FileTree) (base : Octets) : List (List Marked) → List Octets
  | [] => [base]
  | part :: rest =>
    let extend (name : Octets) : Octets := base ++ name
    let ending := if rest.isEmpty then [] else ['/']
    if !isPattern part then
      let path := extend (unmark part)
      if rest.isEmpty ∧ (t.find false (routeOf path)).toOption.isNone then []
      else pathsFrom t (path ++ ending) rest
    else
      let dir := if base.isEmpty then ['.'] else base
      let names : List Octets := match t.find true (routeOf dir) with
        | .ok (l, .directory) => (t.children l).map fun (name, _) => octets name
        | _ => []
      let names := names.filter fun name =>
        matchesAll part name && (name.head? ≠ some '.' || (part.head?.map Prod.fst) = some '.')
      (names.map String.ofList).mergeSort.flatMap fun (name : String) =>
        let path := extend name.toList
        if rest.isEmpty then [path]
        else if t.isDirectory (routeOf path) then pathsFrom t (path ++ ending) rest
        else []

/-- The paths that a word names: those that match it, or itself. -/
def expandPaths (t : FileTree) (w : List Marked) : List Octets :=
  if isPattern w then
    match pathsFrom t [] (patternParts w) with
    | [] => [unmark w]
    | paths => paths
  else [unmark w]

end GuestVault.Shell
