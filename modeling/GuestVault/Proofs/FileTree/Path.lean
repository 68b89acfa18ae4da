import GuestVault.FileTree.Path
import GuestVault.Proofs.Text.Encoded
import GuestVault.Proofs.Text.Lossy
import GuestVault.Proofs.Text.Path

/-!
# Paths of the operating system, and what is shown of them

A path into a directory that is a text is a text itself (`join_utf8`). What is shown of a path into an
absolute directory is absolute and has no blank at its ends, whatever the bytes of the directory are
(`isAbsolute_shown`, `tidy_shown_join`).
-/

namespace GuestVault.SystemPath

open GuestVault.Text
open Route (slash)

variable {dir p : SystemPath} {name s : String}

/-! ## Paths that are texts -/

theorem eq_slash_of_mem_utf8Code {c : Char} (h : slash ∈ utf8Code c.toNat) : c = '/' := by
  have hbounds := char_toNat_bounds c
  have hnat : '/'.toNat = c.toNat := toNat_eq_of_mem_utf8Code (by omega) h (by decide)
  exact (Char.toNat_inj.mp hnat).symm

theorem isAbsolute_utf8 (s : String) : isAbsolute (utf8 s) = Text.isAbsolute s := by
  unfold isAbsolute Text.isAbsolute utf8
  cases s.toList with
  | nil => rfl
  | cons c rest =>
    obtain ⟨b, tail, hcode, -⟩ := leading_utf8Code c []
    rw [List.flatMap_cons, hcode, decide_eq_decide]
    constructor
    · intro h
      obtain rfl : b = slash := Option.some.inj h
      rw [List.head?_cons, eq_slash_of_mem_utf8Code (c := c) (by rw [hcode]; exact List.mem_cons_self)]
    · intro h
      obtain rfl : c = '/' := Option.some.inj h
      rw [← (List.cons.inj hcode).1]
      rfl

theorem getLast?_utf8_eq_slash_iff :
    (utf8 s).getLast? = some slash ↔ s.toList.getLast? = some '/' := by
  rcases List.eq_nil_or_concat s.toList with hnil | ⟨front, c, hchars⟩
  · obtain rfl := String.toList_eq_nil_iff.mp hnil
    exact iff_of_false nofun nofun
  · obtain ⟨last, hlast⟩ : ∃ last, (utf8Code c.toNat).getLast? = some last := by
      obtain ⟨b, tail, hcode, -⟩ := leading_utf8Code c []
      exact ⟨_, by rw [hcode, List.getLast?_cons]⟩
    unfold utf8
    rw [hchars, List.concat_eq_append, List.flatMap_append, List.flatMap_singleton,
      List.getLast?_append, hlast, Option.some_or, List.getLast?_concat]
    constructor
    · intro h
      rw [h] at hlast
      rw [eq_slash_of_mem_utf8Code (List.mem_of_getLast? hlast)]
    · intro h
      obtain rfl : c = '/' := Option.some.inj h
      exact hlast.symm

theorem join_of_absolute (hp : isAbsolute p = true) : join dir p = p :=
  if_pos hp

/-- **A path into a directory is a text if both are.** -/
theorem join_utf8 (dir name : String) : join (utf8 dir) (utf8 name) = utf8 (joinPath dir name) := by
  have habsolute := isAbsolute_utf8 name
  have hlast := getLast?_utf8_eq_slash_iff (s := dir)
  unfold joinPath
  split
  · rename_i hname
    exact join_of_absolute (habsolute.trans hname)
  rename_i hname
  have hjoin : join (utf8 dir) (utf8 name) =
      if utf8 dir = [] ∨ (utf8 dir).getLast? = some slash then utf8 dir ++ utf8 name
      else utf8 dir ++ slash :: utf8 name :=
    if_neg (by rwa [habsolute])
  split
  · rename_i hnil
    obtain rfl := String.toList_eq_nil_iff.mp (List.getLast?_eq_none_iff.mp hnil)
    rw [hjoin, if_pos (.inl rfl)]
    rfl
  · rename_i hslash
    rw [hjoin, if_pos (.inr (hlast.mpr hslash)), utf8_append]
  · rename_i c hslash hother
    rw [hjoin, if_neg, utf8_append, utf8_append, List.append_assoc]
    · rfl
    rintro (hnil | h)
    · obtain rfl := utf8_eq_nil_iff.mp hnil
      cases hother
    · rw [hlast.mp h] at hother
      exact hslash (Option.some.inj hother).symm

/-! ## Absolute paths -/

/-- A relative path stands behind a slash in an absolute directory. -/
theorem exists_join (hdir : isAbsolute dir = true) (hp : isAbsolute p = false) :
    ∃ front, join dir p = front ++ slash :: p := by
  unfold join
  rw [if_neg (by simp [hp])]
  split
  · rename_i hdirect
    have hlast : dir.getLast? = some slash := by
      refine hdirect.resolve_left ?_
      rintro rfl
      cases hdir
    obtain ⟨front, rfl⟩ := List.getLast?_eq_some_iff.mp hlast
    exact ⟨front, by simp⟩
  · exact ⟨dir, rfl⟩

theorem isAbsolute_join (hdir : isAbsolute dir = true) (p : SystemPath) :
    isAbsolute (join dir p) = true := by
  unfold join
  split
  · assumption
  obtain ⟨rest, rfl⟩ := List.head?_eq_some_iff.mp (of_decide_eq_true hdir)
  split <;> rfl

theorem isAbsolute_shown (hp : isAbsolute p = true) : Text.isAbsolute p.shown = true := by
  obtain ⟨rest, rfl⟩ := List.head?_eq_some_iff.mp (of_decide_eq_true hp)
  have hshown : shown (slash :: rest) = "/" ++ lossy rest := lossy_append_slash [] rest
  rw [hshown]
  exact isAbsolute_append rfl

/-- **What is shown of a path into an absolute directory has no blank at its ends**, if the text behind
the directory has none. -/
theorem tidy_shown_join (hdir : isAbsolute dir = true) (hname : Trimmed name.toList) :
    Tidy (join dir (utf8 name)).shown := by
  refine tidy_of_absolute (isAbsolute_shown (isAbsolute_join hdir _)) ?_
  cases habsolute : isAbsolute (utf8 name) with
  | true =>
    rw [join_of_absolute habsolute, shown, lossy_utf8]
    exact hname.back
  | false =>
    obtain ⟨front, hjoin⟩ := exists_join hdir habsolute
    rw [hjoin, shown, lossy_append_slash, lossy_utf8]
    exact not_blank_behind_slash hname (lossy front)

end GuestVault.SystemPath
