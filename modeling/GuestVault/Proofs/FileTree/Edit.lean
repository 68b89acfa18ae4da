import GuestVault.FileTree.Edit
import GuestVault.Proofs.FileTree.Walk
import Mathlib.Data.List.Basic

/-!
# Changes of files

Making, writing and moving a file changes what is below its directory only in the place of the file
(`below_put`, `below_erase`, `moveTree_put`), and keeps all ways as long as neither a directory nor a
link is replaced (`keeps_put`, `keeps_erase`).
-/

namespace GuestVault

namespace FileTree

variable {t : FileTree} {l dir top : Location} {name : FileName} {e e' : Entry}

/-! ## Entries below a directory -/

theorem isBelow_iff : isBelow top l = true ↔ ∃ name rest, l = top ++ name :: rest := by
  unfold isBelow
  rw [Bool.and_eq_true, decide_eq_true_eq, List.isPrefixOf_iff_prefix]
  constructor
  · rintro ⟨⟨rest, rfl⟩, hlong⟩
    cases rest with
    | nil => simp at hlong
    | cons name rest => exact ⟨name, rest, rfl⟩
  · rintro ⟨name, rest, rfl⟩
    refine ⟨List.prefix_append _ _, ?_⟩
    rw [List.length_append, List.length_cons]
    omega

theorem isBelow_entry (dir : Location) (name : FileName) : isBelow dir (dir ++ [name]) = true :=
  isBelow_iff.mpr ⟨name, [], rfl⟩

theorem entry_ne_nil (dir : Location) (name : FileName) : dir ++ [name] ≠ [] :=
  List.append_ne_nil_of_right_ne_nil _ (List.cons_ne_nil _ _)

/-- All that is below a directory. -/
def below (t : FileTree) (dir : Location) : List (Location × Entry) :=
  t.entries.filter fun e => isBelow dir e.1

theorem lookup_below (h : isBelow dir l = true) : (t.below dir).lookup l = t.get? l := by
  have hl : l ≠ [] := by
    obtain ⟨name, rest, rfl⟩ := isBelow_iff.mp h
    exact List.append_ne_nil_of_right_ne_nil _ (List.cons_ne_nil _ _)
  unfold below get?
  rw [if_neg hl]
  induction t.entries with
  | nil => rfl
  | cons entry rest ih =>
    by_cases hkey : isBelow dir entry.1 = true
    · rw [List.filter_cons_of_pos (by exact hkey), List.lookup_cons, List.lookup_cons, ih]
    · have hne : (l == entry.1) = false := by
        rw [beq_eq_false_iff_ne]
        rintro rfl
        exact hkey h
      rw [List.filter_cons_of_neg (by exact hkey), ih, List.lookup_cons, hne]

theorem below_erase (t : FileTree) (dir l : Location) :
    (t.erase l).below dir = (t.below dir).filter fun e => e.1 ≠ l := by
  unfold below erase
  rw [List.filter_filter, List.filter_filter]
  exact List.filter_congr fun e _ => Bool.and_comm _ _

theorem below_put (t : FileTree) (e : Entry) (h : isBelow dir l = true) :
    (t.put l e).below dir = (l, e) :: (t.below dir).filter fun e => e.1 ≠ l := by
  rw [← below_erase]
  exact List.filter_cons_of_pos h

theorem children_eq (t : FileTree) (dir : Location) :
    t.children dir = (t.below dir).filterMap fun (l, e) =>
      if l.dropLast = dir ∧ l ≠ [] then l.getLast?.map fun name => (name, e) else none := by
  unfold children below
  rw [List.filterMap_filter]
  refine List.filterMap_congr fun entry _ => ?_
  by_cases hbelow : isBelow dir entry.1 = true
  · rw [if_pos hbelow]
  · rw [if_neg hbelow]
    refine if_neg fun ⟨hdrop, hne⟩ => hbelow ?_
    have hsplit := List.dropLast_append_getLast hne
    rw [hdrop] at hsplit
    rw [← hsplit]
    exact isBelow_entry _ _

/-! ## Changes of files -/

theorem put_put (t : FileTree) (l : Location) (e e' : Entry) :
    (t.put l e).put l e' = t.put l e' := by
  unfold put erase
  simp

theorem erase_put (hl : l ≠ []) (h : t.get? l = none) (e : Entry) : (t.put l e).erase l = t := by
  have hkey : ∀ entry ∈ t.entries, entry.1 ≠ l := by
    rintro entry hmem rfl
    unfold get? at h
    rw [if_neg hl] at h
    simpa using List.lookup_eq_none_iff.mp h entry hmem
  have hstay : t.entries.filter (fun entry => entry.1 ≠ l) = t.entries :=
    List.filter_eq_self.mpr fun entry hmem => decide_eq_true (hkey entry hmem)
  unfold put erase
  simp only [hstay]
  rw [List.filter_cons_of_neg (by simp), hstay]

/-- A file that is moved leaves its place and takes another one, if there is nothing below it. -/
theorem moveTree_put {source target : Location}
    (hbelow : (t.put source e).below source = []) :
    (t.put source e).moveTree source target = (t.erase source).put target e := by
  have hnone : ∀ entry ∈ (t.put source e).entries, isBelow source entry.1 = false := by
    intro entry hmem
    exact Bool.not_eq_true _ ▸ List.filter_eq_nil_iff.mp hbelow entry hmem
  have hstay : (t.put source e).eraseBelow source = t.put source e := by
    unfold eraseBelow
    rw [List.filter_eq_self.mpr fun entry hmem => by rw [hnone entry hmem]; rfl]
  have herase : (t.put source e).erase source = t.erase source := by
    unfold put erase
    simp
  have hmoved : (t.put source e).entries.filterMap (fun (l, e) =>
      if source.isPrefixOf l then some (target ++ l.drop source.length, e) else none) =
        [(target, e)] := by
    refine (List.filterMap_cons_some (b := (target, e)) ?_).trans (congrArg _ ?_)
    · dsimp only
      rw [if_pos (List.isPrefixOf_iff_prefix.mpr (List.prefix_refl _)), List.drop_length,
        List.append_nil]
    refine List.filterMap_eq_nil_iff.mpr fun entry hmem => if_neg fun hprefix => ?_
    obtain ⟨rest, hrest⟩ := List.isPrefixOf_iff_prefix.mp hprefix
    cases rest with
    | nil =>
      rw [List.append_nil] at hrest
      exact of_decide_eq_true (List.mem_filter.mp hmem).2 hrest.symm
    | cons name rest =>
      have hfalse := hnone entry (List.mem_cons_of_mem _ hmem)
      rw [isBelow_iff.mpr ⟨name, rest, hrest.symm⟩] at hfalse
      cases hfalse
  unfold moveTree
  rw [hstay, herase]
  simp only
  rw [hmoved]
  rfl

/-- What stands there is neither a directory nor a link. -/
def IsPlain : Option Entry → Prop
  | some .directory | some (.link _) => False
  | _ => True

theorem keeps_put (h : IsPlain (t.get? l)) (hl : l ≠ []) (e : Entry) : t.Keeps (t.put l e) where
  workingDirectory_eq := rfl
  directory other hother := by
    rw [get?_put_of_ne t e, hother]
    rintro rfl
    rw [hother] at h
    exact h
  link other target hother := by
    rw [get?_put_of_ne t e, hother]
    rintro rfl
    rw [hother] at h
    exact h

theorem keeps_erase (h : IsPlain (t.get? l)) : t.Keeps (t.erase l) where
  workingDirectory_eq := rfl
  directory other hother := by
    rw [get?_erase_of_ne t, hother]
    rintro rfl
    rw [hother] at h
    exact h
  link other target hother := by
    rw [get?_erase_of_ne t, hother]
    rintro rfl
    rw [hother] at h
    exact h

/-- There is a file at most. -/
def IsFile : Option Entry → Prop
  | none | some (.file _ false) => True
  | _ => False

theorem IsFile.isPlain {e? : Option Entry} (h : IsFile e?) : IsPlain e? := by
  match e?, h with
  | none, _ => trivial
  | some (.file _ false), _ => trivial

/-! ## Files -/

theorem create_eq {route : Route} (hfile : route.toDirectory = false)
    (hlocate : t.locate true route = .ok l) (hentry : IsFile (t.get? l)) :
    t.create route = .ok ({ location := l }, t.put l (.file [] false)) := by
  have hroute : { route with toDirectory := false } = route := by
    rw [← hfile]
  unfold create openOutput
  rw [hroute, hlocate]
  dsimp only [bind, Except.bind]
  cases he : t.get? l with
  | none =>
    rw [hfile]
    rfl
  | some e =>
    rw [he] at hentry
    cases e with
    | file data executable =>
      cases executable with
      | false =>
        rw [hfile]
        rfl
      | true => exact hentry.elim
    | directory => exact hentry.elim
    | link target => exact hentry.elim
    | device device => exact hentry.elim
    | program name => exact hentry.elim

theorem create_of_error {route : Route} {fault : OsFault} (hfile : route.toDirectory = false)
    (hlocate : t.locate true route = .error fault) : t.create route = .error fault := by
  have hroute : { route with toDirectory := false } = route := by
    rw [← hfile]
  unfold create openOutput
  rw [hroute, hlocate]
  rfl

theorem write_put_eq (hl : l ≠ []) (data : Bytes) :
    (t.put l (.file [] false)).write { location := l } data =
      .ok ({ location := l, position := data.length }, t.put l (.file data false)) := by
  unfold write
  rw [get?_put_self t _ hl]
  dsimp only
  rw [if_neg Bool.false_ne_true, put_put, Nat.zero_add]
  congr
  exact overwrite_length [] data

theorem sync_put_eq (hl : l ≠ []) (data : Bytes) (position : Nat) :
    (t.put l (.file data false)).sync { location := l, position } = .ok () := by
  unfold sync
  rw [get?_put_self t _ hl]

theorem rename_eq {old new : Route} {source target : Location} {data : Bytes} {executable : Bool}
    (hold : t.find false old = .ok (source, .file data executable))
    (hfile : new.toDirectory = false) (hnew : t.locate false new = .ok target)
    (hne : source ≠ target) (hentry : t.get? target ≠ some .directory) :
    t.rename old new = .ok (t.moveTree source target) := by
  have hroute (asks : Bool) :
      ({ new with toDirectory := new.toDirectory && asks } : Route) = new := by
    rw [hfile, Bool.false_and, ← hfile]
  have hmay : t.mayReplace source target (.file data executable) = .ok () := by
    unfold mayReplace
    split
    · contradiction
    · contradiction
    · contradiction
    · contradiction
    · rfl
  unfold rename
  simp only [hold, hroute, hnew, hmay, if_neg hne, bind, Except.bind]
  rfl

theorem rename_of_directory {old new : Route} {source target : Location} {data : Bytes}
    {executable : Bool} (hold : t.find false old = .ok (source, .file data executable))
    (hfile : new.toDirectory = false) (hnew : t.locate false new = .ok target)
    (hne : source ≠ target) (hentry : t.get? target = some .directory) :
    t.rename old new = .error .isDirectory := by
  have hroute (asks : Bool) :
      ({ new with toDirectory := new.toDirectory && asks } : Route) = new := by
    rw [hfile, Bool.false_and, ← hfile]
  have hmay : t.mayReplace source target (.file data executable) = .error .isDirectory := by
    unfold mayReplace
    rw [hentry]
  unfold rename
  simp only [hold, hroute, hnew, hmay, if_neg hne, bind, Except.bind]

theorem removeFile_eq {route : Route} {data : Bytes} {executable : Bool}
    (h : t.find false route = .ok (l, .file data executable)) :
    t.removeFile route = .ok (t.erase l) := by
  unfold removeFile
  rw [h]
  rfl

end FileTree

end GuestVault
