import GuestVault.Text.Utf8
import Mathlib.Tactic.SplitIfs

/-!
# Bytes of texts

Encoding goes character by character, so it keeps texts apart and puts them together
(`utf8_append`, `utf8_inj`) and in order (`utf8_lt_utf8`). A character of ASCII is one byte
(`length_utf8`), and that byte is part of no other character (`exists_of_mem_utf8`).
-/

namespace GuestVault.Text

variable {s t : String}

theorem utf8_append (s t : String) : utf8 (s ++ t) = utf8 s ++ utf8 t := by
  unfold utf8
  rw [String.toList_append, List.flatMap_append]

theorem utf8_inj : utf8 s = utf8 t ↔ s = t := by
  refine ⟨fun h => ?_, congrArg utf8⟩
  have hread := utf8?_utf8 s
  rw [h, utf8?_utf8] at hread
  exact (Option.some.inj hread).symm

theorem utf8_eq_nil_iff : utf8 s = [] ↔ s = "" :=
  utf8_inj (t := "")

theorem length_utf8 (hs : ∀ c ∈ s.toList, c.toNat < 128) : (utf8 s).length = s.toList.length := by
  unfold utf8
  generalize s.toList = cs at hs
  induction cs with
  | nil => rfl
  | cons c cs ih =>
    obtain ⟨hc, hcs⟩ := List.forall_mem_cons.mp hs
    rw [List.flatMap_cons, List.length_append, ih hcs, utf8Code, if_pos hc, List.length_cons,
      List.length_nil, Nat.zero_add, List.length_cons, Nat.add_comm]

/-- A byte of ASCII in a code point is that code point. -/
theorem toNat_eq_of_mem_utf8Code {n : Nat} (hn : n < 0x110000) {b : UInt8} (hb : b ∈ utf8Code n)
    (hascii : b.toNat < 128) : b.toNat = n := by
  unfold utf8Code at hb
  split_ifs at hb <;> simp only [List.mem_cons, List.not_mem_nil, or_false] at hb
  · rw [hb, UInt8.toNat_ofNat']
    exact Nat.mod_eq_of_lt (by omega)
  · rcases hb with rfl | rfl <;> rw [UInt8.toNat_ofNat'] at hascii <;> omega
  · rcases hb with rfl | rfl | rfl <;> rw [UInt8.toNat_ofNat'] at hascii <;> omega
  · rcases hb with rfl | rfl | rfl | rfl <;> rw [UInt8.toNat_ofNat'] at hascii <;> omega

theorem exists_of_mem_utf8 {b : UInt8} (hb : b ∈ utf8 s) (hascii : b.toNat < 128) :
    ∃ c ∈ s.toList, c.toNat = b.toNat := by
  obtain ⟨c, hc, hb⟩ := List.mem_flatMap.mp hb
  have hbounds := char_toNat_bounds c
  exact ⟨c, hc, (toNat_eq_of_mem_utf8Code (by omega) hb hascii).symm⟩

/-! ## Order -/

/-- The bytes of a smaller character are smaller, whatever follows. -/
theorem utf8Code_append_lt {n m : Nat} (hlt : n < m) (hm : m < 0x110000) (r r' : Bytes) :
    utf8Code n ++ r < utf8Code m ++ r' := by
  unfold utf8Code
  split_ifs <;>
    simp (disch := omega) only [List.cons_append, List.nil_append, List.cons_lt_cons_iff,
      UInt8.lt_iff_toNat_lt, ← UInt8.toNat_inj, UInt8.toNat_ofNat', Nat.mod_eq_of_lt (b := 256)] <;>
    omega

/-- **Texts are ordered as their bytes are.** -/
theorem utf8_lt_utf8 (h : s < t) : utf8 s < utf8 t := by
  unfold utf8
  have hchars : List.Lex (· < ·) s.toList t.toList := String.lt_iff.mp h
  generalize s.toList = cs, t.toList = ds at hchars
  induction hchars with
  | @nil d ds =>
    obtain ⟨a, r, hcode, -⟩ := leading_utf8Code d []
    rw [List.flatMap_cons, hcode]
    exact List.nil_lt_cons _ _
  | @rel c cs d ds hlt =>
    have hbounds := char_toNat_bounds d
    rw [List.flatMap_cons, List.flatMap_cons]
    exact utf8Code_append_lt (n := c.toNat) (m := d.toNat) hlt (by omega) _ _
  | cons _ ih =>
    rw [List.flatMap_cons, List.flatMap_cons]
    exact List.append_left_lt ih

end GuestVault.Text
