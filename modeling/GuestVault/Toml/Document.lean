import GuestVault.Toml.Value

/-!
# Putting tables together

A TOML text names tables piece by piece: by headers, by headers of lists of tables, and by dotted
keys. A `Draft` is a table under construction, which remembers how each table in it came about:
a table has one header at most, and only tables that dotted keys made are open to dotted keys.
-/

namespace GuestVault.Toml

/-- How a table came about. -/
inductive TableOrigin where
  /-- It has a header of its own. -/
  | header
  /-- It is part of the path in a header. -/
  | path
  /-- It is part of a dotted key. -/
  | dotted
deriving Repr, DecidableEq

/-- A value under construction. -/
inductive Draft where
  | value (v : Toml)
  | table (origin : TableOrigin) (members : List (String × Draft))
  /-- A list of tables, each with a header; the last one is open. -/
  | tables (closed : List (List (String × Draft))) (last : List (String × Draft))

/-- The members of a table under construction. -/
abbrev Members := List (String × Draft)

namespace Members

/-- The members with a new value under a key that is there. -/
def replace (key : String) (d : Draft) : Members → Members
  | [] => []
  | (k, x) :: r => if k = key then (k, d) :: r else (k, x) :: replace key d r

/-- A change of a table, which may depend on how it came about. -/
abbrev Change := TableOrigin → Members → Option Members

/-- Changes the table at the end of a path; tables that are missing on the way are made. -/
def change (act : Change) (dotted : Bool) : List String → TableOrigin → Members → Option Members
  | [], origin, ms => act origin ms
  | key :: path, _, ms =>
    match ms.lookup key with
    | none =>
      let origin := if dotted then .dotted else .path
      (change act dotted path origin []).map fun child => ms ++ [(key, .table origin child)]
    | some (.value _) => none
    | some (.table origin child) =>
      if dotted ∧ origin = .header then none
      else (change act dotted path origin child).map fun child =>
        replace key (.table origin child) ms
    | some (.tables closed last) =>
      (change act dotted path .header last).map fun last => replace key (.tables closed last) ms

/-- Starts the table of a header. -/
def openTable (key : String) : Change := fun _ ms =>
  match ms.lookup key with
  | none => some (ms ++ [(key, .table .header [])])
  | some (.table .path child) => some (replace key (.table .header child) ms)
  | some _ => none

/-- Starts the next table of a list. -/
def openItem (key : String) : Change := fun _ ms =>
  match ms.lookup key with
  | none => some (ms ++ [(key, .tables [] [])])
  | some (.tables closed last) => some (replace key (.tables (closed ++ [last]) []) ms)
  | some _ => none

/-- Adds a value under a new key; `dotted` says whether the key had dots. -/
def add (dotted : Bool) (key : String) (v : Toml) : Change := fun origin ms =>
  if dotted ≠ (origin = .dotted : Bool) then none
  else
    match ms.lookup key with
    | none => some (ms ++ [(key, .value v)])
    | some _ => none

/-- Adds a value under a path of keys. -/
def addPath (path : List String) (v : Toml) (ms : Members) : Option Members :=
  match path.reverse with
  | [] => none
  | key :: up => change (add (!up.isEmpty) key v) true up.reverse .header ms

end Members

mutual

/-- The finished value. -/
def Draft.finish : Draft → Toml
  | .value v => v
  | .table _ ms => .table (finishMembers ms)
  | .tables closed last => .array (finishTables closed ++ [.table (finishMembers last)])

/-- The finished members. -/
def finishMembers : List (String × Draft) → List (String × Toml)
  | [] => []
  | (k, d) :: r => (k, d.finish) :: finishMembers r

/-- The finished tables of a list. -/
def finishTables : List (List (String × Draft)) → List Toml
  | [] => []
  | ms :: r => .table (finishMembers ms) :: finishTables r

end

/-- A line of a TOML text that says something. -/
inductive Statement where
  | header (path : List String)
  | itemHeader (path : List String)
  | assign (path : List String) (v : Toml)

/-- A document under construction, and the path of the open table. -/
structure Document where
  root : Members := []
  path : List String := []

namespace Document

/-- Changes the table that holds the last key of a path. -/
def atParent (d : Document) (path : List String) (act : String → Members.Change) :
    Option Document :=
  match path.reverse with
  | [] => none
  | key :: up =>
    (Members.change (act key) false up.reverse .header d.root).map fun root => { root, path }

/-- Takes one statement. -/
def take (d : Document) : Statement → Option Document
  | .header path => d.atParent path Members.openTable
  | .itemHeader path => d.atParent path Members.openItem
  | .assign path v =>
    (Members.change (fun _ ms => Members.addPath path v ms) false d.path .header d.root).map
      fun root => { d with root }

/-- The table of all statements. -/
def ofStatements? (statements : List Statement) : Option Toml :=
  (statements.foldlM take {}).map fun d => .table (finishMembers d.root)

end Document

end GuestVault.Toml
