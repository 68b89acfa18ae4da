import GuestVault.Archive.Compression

/-!
# File trees

All the files of a machine: what stands at which location. A location lists the names from the root
down; names are bytes, because not every file name is a text. The root itself is always a directory.

One lemma says what each change does to `get?`.
-/

namespace GuestVault

/-- The name of a directory entry. -/
abbrev FileName := Bytes

/-- The names that lead from the root to a file or directory. -/
abbrev Location := List FileName

/-- A special file. -/
inductive Device where
  /-- Swallows what is written, and is empty. -/
  | null
  /-- Swallows what is written, and holds zeros without end. -/
  | zero
  /-- Has room for nothing, and holds the same. -/
  | full
deriving Repr, DecidableEq

/-- What can stand at a location. -/
inductive Entry where
  | file (data : Bytes) (executable : Bool)
  | directory
  /-- Stands for another path. -/
  | link (target : Bytes)
  | device (device : Device)
  /-- A program that the machine came with. -/
  | program (name : String)
deriving Repr, DecidableEq

/-- The files of a machine, and where relative paths start. -/
structure FileTree where
  entries : List (Location × Entry) := []
  workingDirectory : Location := []
deriving Repr

namespace FileTree

/-- What stands at a location. -/
def get? (t : FileTree) (l : Location) : Option Entry :=
  if l = [] then some .directory else t.entries.lookup l

/-- The tree with nothing at a location. -/
def erase (t : FileTree) (l : Location) : FileTree :=
  { t with entries := t.entries.filter fun e => e.1 ≠ l }

/-- The tree with an entry at a location, in place of any other. -/
def put (t : FileTree) (l : Location) (e : Entry) : FileTree :=
  { t.erase l with entries := (l, e) :: (t.erase l).entries }

/-- One location is below another. -/
def isBelow (top l : Location) : Bool :=
  top.isPrefixOf l && l.length > top.length

/-- The tree without all that is below a location. -/
def eraseBelow (t : FileTree) (top : Location) : FileTree :=
  { t with entries := t.entries.filter fun e => !isBelow top e.1 }

/-- The locations right below a directory, with their entries. -/
def children (t : FileTree) (dir : Location) : List (FileName × Entry) :=
  t.entries.filterMap fun (l, e) =>
    if l.dropLast = dir ∧ l ≠ [] then l.getLast?.map fun name => (name, e) else none

/-! ## What changes do to the entries -/

section
variable {κ ν : Type} [DecidableEq κ] [BEq κ] [LawfulBEq κ]

theorem lookup_filter_ne (entries : List (κ × ν)) {l l' : κ} (h : l' ≠ l) :
    (entries.filter fun e => e.1 ≠ l).lookup l' = entries.lookup l' := by
  induction entries with
  | nil => rfl
  | cons e r ih =>
    by_cases hk : e.1 = l
    · have hlk : (l' == e.1) = false := by simp [hk, h]
      rw [List.filter_cons_of_neg (by simp [hk]), ih, List.lookup_cons, hlk]
    · rw [List.filter_cons_of_pos (by simp [hk]), List.lookup_cons, List.lookup_cons, ih]

theorem lookup_filter_self (entries : List (κ × ν)) (l : κ) :
    (entries.filter fun e => e.1 ≠ l).lookup l = none := by
  induction entries with
  | nil => rfl
  | cons e r ih =>
    by_cases hk : e.1 = l
    · rw [List.filter_cons_of_neg (by simp [hk]), ih]
    · have hlk : (l == e.1) = false := by simp [Ne.symm hk]
      rw [List.filter_cons_of_pos (by simp [hk]), List.lookup_cons, hlk]
      exact ih

end

@[simp] theorem get?_put_self (t : FileTree) {l : Location} (e : Entry) (h : l ≠ []) :
    (t.put l e).get? l = some e := by
  simp [put, get?, h]

theorem get?_put_of_ne (t : FileTree) {l l' : Location} (e : Entry) (h : l' ≠ l) :
    (t.put l e).get? l' = t.get? l' := by
  have hl : (l' == l) = false := by simp [h]
  by_cases h0 : l' = []
  · simp [get?, h0]
  · simpa [put, get?, erase, h0, List.lookup_cons, hl] using lookup_filter_ne t.entries h

@[simp] theorem get?_erase_self (t : FileTree) {l : Location} (h : l ≠ []) :
    (t.erase l).get? l = none := by
  simpa [erase, get?, h] using lookup_filter_self t.entries l

theorem get?_erase_of_ne (t : FileTree) {l l' : Location} (h : l' ≠ l) :
    (t.erase l).get? l' = t.get? l' := by
  by_cases h0 : l' = []
  · simp [get?, h0]
  · simpa [erase, get?, h0] using lookup_filter_ne t.entries h

end FileTree

end GuestVault
