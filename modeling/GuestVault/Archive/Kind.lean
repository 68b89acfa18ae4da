import GuestVault.Error
import GuestVault.Text.Quoted

/-!
# Guests

The two kinds of guests, by the names the hypervisor tools give them, and references to guests.
-/

namespace GuestVault

/-- A virtual machine or a container. -/
inductive Kind where
  | qemu
  | lxc
deriving Repr, DecidableEq

namespace Kind

/-- The name that the tools use. -/
def name : Kind → String
  | .qemu => "qemu"
  | .lxc => "lxc"

/-- The archive format written for this kind, without the dot. -/
def extension : Kind → String
  | .qemu => "vma"
  | .lxc => "tar"

/-- The word for a guest of this kind. -/
def label : Kind → String
  | .qemu => "VM"
  | .lxc => "CT"

/-- The kind with the given name. -/
def ofName? (s : String) : Option Kind :=
  if s = "qemu" then some .qemu else if s = "lxc" then some .lxc else none

/-- The kind with the given name, or a complaint about it. -/
def parse (s : String) : Except Error Kind :=
  match ofName? s with
  | some k => .ok k
  | none => .error (.validation ("invalid vm type: " ++ Text.quoted s))

@[simp] theorem ofName?_name (k : Kind) : ofName? k.name = some k := by
  cases k <;> decide

theorem ofName?_eq_some_iff {s : String} {k : Kind} : ofName? s = some k ↔ s = k.name := by
  constructor
  · unfold ofName?
    split
    · rintro ⟨⟩; assumption
    · split
      · rintro ⟨⟩; assumption
      · simp
  · rintro rfl; exact ofName?_name k

end Kind

/-- A guest, and the node it runs on where that is known. -/
structure Machine where
  vmid : Nat
  kind : Kind
  node : Option String
deriving Repr, DecidableEq

/-- How a guest is called in messages and tables. -/
def Machine.label (m : Machine) : String :=
  m.kind.label ++ " " ++ toString m.vmid

end GuestVault
