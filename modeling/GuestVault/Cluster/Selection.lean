import GuestVault.Cluster.Inventory
import GuestVault.Text.Blank
import GuestVault.Text.Quoted

/-!
# Selections

Which guests a backup job covers: one guest, the guests of a pool, or all of them. Exactly one of
these must be asked for.
-/

namespace GuestVault

open GuestVault.Text

/-- The guests of a job. -/
inductive Selection where
  | vmid (id : Nat)
  | pool (name : String)
  | all
deriving Repr, DecidableEq

namespace Selection

/-- The character may stand in the name of a pool. -/
def isPoolChar (c : Char) : Bool :=
  ('a' ≤ c && c ≤ 'z') || ('A' ≤ c && c ≤ 'Z') || ('0' ≤ c && c ≤ '9') || c = '-' || c = '_' ||
    c = '.'

/-- The selection that is asked for. A blank pool counts as none. -/
def ofParts (vmid : Option Nat) (pool : Option String) (all : Bool) : Except Failure Selection :=
  match vmid, trimmed? pool, all with
  | none, none, false => .error (.text "missing backup selection: vmid, pool or all")
  | none, none, true => .ok .all
  | some 0, none, false => .error (.text "invalid vmid: 0")
  | some id, none, false => .ok (.vmid id)
  | none, some name, false =>
    if name.toList.all isPoolChar then .ok (.pool name)
    else .error (.text ("invalid pool name: " ++ quoted name))
  | _, _, _ =>
    .error (.text "ambiguous backup selection: specify only one of vmid, pool or all")

variable {σ : Type} (api : ClusterApi σ)

/-- Guests, unless there are none. -/
def nonempty : List Machine → Except Failure (List Machine)
  | [] => .error (.text "no VM/CT found for selection")
  | ms => .ok ms

/-- The guests that a selection covers, in ascending order. -/
def resolve (s : Selection) (inv : Inventory) (now : Nat) :
    StateM σ (Except Failure (List Machine) × Inventory) := do
  match s with
  | .vmid id =>
    let (kind, inv) ← inv.kindOf api now id
    return (kind.map fun kind => [{ vmid := id, kind, node := inv.node }], inv)
  | .pool name =>
    let machines ← (inv.listPool api name).run
    return (machines.bind nonempty, inv)
  | .all =>
    let (machines, inv) ← inv.listAll api now
    return (machines.bind nonempty, inv)

end Selection

end GuestVault
