import GuestVault.Archive.Kind
import GuestVault.Cluster.Api

/-!
# Inventory

The guests of a cluster, each once and in ascending order of their ids. The list of resources is
remembered for a short time; an empty one, or the failure to get one, is not remembered.
-/

namespace GuestVault

/-- A view of the guests of a cluster, possibly of one node only. Times are in milliseconds. -/
structure Inventory where
  node : Option String := none
  /-- How long an answer may be used again. -/
  lifetime : Nat := 15000
  /-- The last answer, and when it was given. -/
  cache : Option (Nat × List Resource) := none
deriving Repr

namespace Inventory

/-- The guest that a resource is, if it is one, has an id, and is on the right node. -/
def eligible? (node : Option String) (r : Resource) : Option Machine :=
  match Kind.ofName? r.kind with
  | none => none
  | some kind =>
    if r.vmid = 0 then none
    else if node.any (· ≠ r.node) then none
    else some { vmid := r.vmid, kind, node := if r.node = "" then none else some r.node }

/-- A list of guests with one more; the id must not be there yet. -/
def insert (m : Machine) : List Machine → List Machine
  | [] => [m]
  | n :: r => if m.vmid < n.vmid then m :: n :: r else if m.vmid = n.vmid then n :: r
    else n :: insert m r

/-- The guests among some resources: the first entry of each id counts. -/
def machines (node : Option String) (resources : List Resource) : List Machine :=
  (resources.filterMap (eligible? node)).foldl (fun ms m => insert m ms) []

/-- The answer that may be used again. -/
def cached? (inv : Inventory) (now : Nat) : Option (List Resource) :=
  match inv.cache with
  | some (since, resources) => if now - since ≤ inv.lifetime then some resources else none
  | none => none

/-- Remembers an answer, unless it is empty. -/
def remember (inv : Inventory) (now : Nat) (resources : List Resource) : Inventory :=
  { inv with cache := if resources = [] then none else some (now, resources) }

variable {σ : Type} (api : ClusterApi σ)

/-- The resources of the cluster, asked for if need be. They are needed at one moment, and what the
cluster answers is there at another one, from which on it is remembered. -/
def resourcesBetween (inv : Inventory) (asked answered : Nat) :
    StateM σ (Except Failure (List Resource) × Inventory) := do
  match inv.cached? asked with
  | some resources => return (.ok resources, inv)
  | none =>
    match ← api.resources.run with
    | .ok fresh => return (.ok fresh, inv.remember answered fresh)
    | .error f => return (.error f, inv)

/-- The resources of the cluster, if it answers at once. -/
def resources (inv : Inventory) (now : Nat) :
    StateM σ (Except Failure (List Resource) × Inventory) :=
  inv.resourcesBetween api now now

/-- All guests, if they are asked for at one moment and the cluster answers at another. -/
def listAllBetween (inv : Inventory) (asked answered : Nat) :
    StateM σ (Except Failure (List Machine) × Inventory) := do
  let (answer, inv) ← inv.resourcesBetween api asked answered
  return (answer.map (machines inv.node), inv)

/-- All guests. -/
def listAll (inv : Inventory) (now : Nat) :
    StateM σ (Except Failure (List Machine) × Inventory) :=
  inv.listAllBetween api now now

/-- The guests of a pool, always asked for. -/
def listPool (inv : Inventory) (pool : String) : Action σ Failure (List Machine) := do
  return machines inv.node (← api.poolMembers pool)

/-- The kind of the guest with the given id. -/
def kindIn (node : Option String) (vmid : Nat) (resources : List Resource) :
    Except Failure Kind :=
  match (resources.filter (·.vmid = vmid)).findSome? (eligible? node) with
  | some m => .ok m.kind
  | none => .error (.text ("unable to determine VM type for vmid " ++ toString vmid))

/-- The kind of a guest, if it is asked for at one moment and the cluster answers at another. -/
def kindOfBetween (inv : Inventory) (asked answered vmid : Nat) :
    StateM σ (Except Failure Kind × Inventory) := do
  let (answer, inv) ← inv.resourcesBetween api asked answered
  return (answer.bind (kindIn inv.node vmid), inv)

/-- The kind of a guest. -/
def kindOf (inv : Inventory) (now vmid : Nat) :
    StateM σ (Except Failure Kind × Inventory) :=
  inv.kindOfBetween api now now vmid

end Inventory

end GuestVault
