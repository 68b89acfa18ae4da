import GuestVault.Host
import GuestVault.Json.Reader

/-!
# The management API

What the cluster says of itself: its resources, the members of a pool, and its version. On a host
the API is reached through its command line tool, which answers in JSON.
-/

namespace GuestVault

open GuestVault.Text

/-- One entry of a list of resources. Storages and the like have no id. -/
structure Resource where
  vmid : Nat := 0
  kind : String := ""
  node : String := ""
deriving Repr, DecidableEq

namespace Resource

/-- The entry that a JSON value describes. -/
def ofJson? (j : Json) : Option Resource :=
  match j.record? ["vmid", "type", "node"] with
  | some [vmid, kind, node] => do
    some {
      vmid := ← Json.fieldOr 0 (Json.nat? maxWord32) vmid
      kind := ← Json.fieldOr "" Json.text? kind
      node := ← Json.fieldOr "" Json.text? node }
  | _ => none

/-- The entries of a list. -/
def listOf? (j : Json) : Option (List Resource) :=
  j.list? ofJson?

/-- The members of a pool, none if there is no such list. -/
def membersOf? (j : Json) : Option (List Resource) :=
  match j.record? ["members"] with
  | some [members] => Json.fieldOr [] listOf? members
  | _ => none

end Resource

/-- The wording of the version that a JSON value describes. -/
def versionOf? (j : Json) : Option String :=
  match j.record? ["version", "release"] with
  | some [some version, release] => do
    let version ← version.text?
    match ← Json.fieldOr none (Json.optional? Json.text?) release with
    | some release => some (version ++ " (release " ++ release ++ ")")
    | none => some version
  | _ => none

/-- What can be asked of the cluster. -/
structure ClusterApi (σ : Type) where
  resources : Action σ Failure (List Resource)
  poolMembers : (pool : String) → Action σ Failure (List Resource)
  version : Action σ Failure String

namespace ClusterApi

/-- The programs that the API is reached through. -/
def programs : List String :=
  ["pvesh"]

/-- The command that asks for something. -/
def command (path : String) (options : List String) : Command :=
  { program := "pvesh", args := ["get", path] ++ options ++ ["--output-format", "json"] }

variable {σ κ : Type} (host : Host σ κ)

/-- Asks for something and reads the answer. -/
def get {α : Type} (path : String) (options : List String) (what : String)
    (read : Json → Option α) : Action σ Failure α := do
  let output ← (host.run (command path options)).mapError fun e =>
    .context ("run pvesh get " ++ path) (.error e)
  match (Json.parse? (utf8 output.stdout)).bind read with
  | some a => pure a
  | none => throw (.context ("parse " ++ what ++ " json") .json)

/-- The API of the cluster that a host belongs to. -/
def ofHost : ClusterApi σ where
  resources := get host "/cluster/resources" ["--type", "vm"] "cluster resources" Resource.listOf?
  poolMembers pool := get host ("/pools/" ++ pool) [] ("pool " ++ pool) Resource.membersOf?
  version := get host "/version" [] "version" versionOf?

end ClusterApi

end GuestVault
