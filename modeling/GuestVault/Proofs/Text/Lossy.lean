import GuestVault.FileTree.Walk
import Mathlib.Tactic.SplitIfs

/-!
# What is shown of bytes

Bytes that are no text are shown with replacements (`lossy`). A byte of ASCII is a character of its own
and ends whatever stands before it, so what is shown can be put together at a slash
(`lossy_append_slash`). No other slash is shown (`slash_notMem_lossy`).
-/

namespace GuestVault.Text

/-! ## Slashes that are shown -/

theorem eq_of_ofNat_eq_slash {n : Nat} (h : Char.ofNat n = '/') : n = 0x2F := by
  by_cases hvalid : n.isValidChar
  · have hn : (Char.ofNat n).toNat = n := by
      unfold Char.ofNat
      rw [dif_pos hvalid]
      rfl
    rw [← hn, h]
    rfl
  · unfold Char.ofNat at h
    rw [dif_neg hvalid] at h
    cases h

theorem mayFollow_bounds {lead second : Nat} (h : mayFollow lead second = true) :
    0x80 ≤ second ∧ (lead = 0xE0 → 0xA0 ≤ second) ∧ (lead = 0xF0 → 0x90 ≤ second) := by
  unfold mayFollow at h
  split_ifs at h <;> simp only [Bool.and_eq_true, decide_eq_true_eq] at h <;> omega

/-- Only its own byte is read as a slash; longer sequences stand for larger numbers. -/
theorem eq_of_leading_eq_slash {a : Nat} {r : Bytes} (h : (leading a r).1 = some '/') :
    a = 0x2F := by
  unfold leading at h
  split_ifs at h with hone htwo hthree hfour
  · exact eq_of_ofNat_eq_slash (Option.some.inj h)
  · rw [Bool.and_eq_true, decide_eq_true_eq, decide_eq_true_eq] at htwo
    split at h
    · split_ifs at h
      have hvalue := eq_of_ofNat_eq_slash (Option.some.inj h)
      omega
    · cases h
  · rw [Bool.and_eq_true, decide_eq_true_eq, decide_eq_true_eq] at hthree
    split at h
    · split_ifs at h with hfollow
      have hvalue := eq_of_ofNat_eq_slash (Option.some.inj h)
      have hbounds := mayFollow_bounds hfollow
      omega
    · cases h
    · cases h
  · rw [Bool.and_eq_true, decide_eq_true_eq, decide_eq_true_eq] at hfour
    split at h
    · split_ifs at h with hfollow
      have hvalue := eq_of_ofNat_eq_slash (Option.some.inj h)
      have hbounds := mayFollow_bounds hfollow
      omega
    · cases h
    · cases h
    · cases h

theorem slash_notMem_scalarsAfter {bs : Bytes} (h : Route.slash ∉ bs) (skip : Nat) :
    some '/' ∉ scalarsAfter skip bs := by
  induction bs generalizing skip with
  | nil => cases skip <;> exact List.not_mem_nil
  | cons b bs ih =>
    rw [List.mem_cons, not_or] at h
    cases skip with
    | succ skip => exact ih h.2 skip
    | zero =>
      rw [scalarsAfter, List.mem_cons, not_or]
      refine ⟨fun hslash => h.1 ?_, ih h.2 _⟩
      exact (UInt8.toNat_inj.mp (eq_of_leading_eq_slash hslash.symm)).symm

theorem slash_notMem_lossy {bs : Bytes} (h : Route.slash ∉ bs) : '/' ∉ (lossy bs).toList := by
  unfold lossy
  rw [String.toList_ofList, List.mem_map]
  rintro ⟨scalar, hmem, hslash⟩
  cases scalar with
  | none => exact absurd hslash (by decide)
  | some c =>
    obtain rfl : c = '/' := hslash
    exact slash_notMem_scalarsAfter h 0 hmem

/-! ## Putting together what is shown -/

variable {b : UInt8}

/-- Bytes of ASCII belong to no sequence that began before. -/
theorem leading_append_ascii (hb : b.toNat < 0x80) (a : Nat) (r s : Bytes) :
    leading a (r ++ b :: s) = leading a r := by
  have htail : isTail b.toNat = false := by simp [isTail]; omega
  have hfollow : mayFollow a b.toNat = false := by
    refine Bool.eq_false_iff.mpr fun h => ?_
    have hbounds := mayFollow_bounds h
    omega
  unfold leading
  split_ifs
  · rfl
  · cases r with
    | nil => simp [htail]
    | cons c r => rfl
  · rcases r with _ | ⟨c, _ | ⟨d, r⟩⟩
    · cases s <;> simp [hfollow]
    · cases hc : mayFollow a c.toNat <;> simp [htail, hc]
    · rfl
  · rcases r with _ | ⟨c, _ | ⟨d, _ | ⟨e, r⟩⟩⟩
    · rcases s with _ | ⟨c, _ | ⟨d, s⟩⟩ <;> simp [hfollow]
    · cases s <;> cases hc : mayFollow a c.toNat <;> simp [htail, hc]
    · cases hc : mayFollow a c.toNat <;> cases hd : isTail d.toNat <;> simp [htail, hc, hd]
    · rfl
  · rfl

theorem leading_le_length (a : Nat) (r : Bytes) : (leading a r).2 ≤ r.length := by
  unfold leading
  split_ifs
  · exact Nat.zero_le _
  · cases r <;> grind
  · rcases r with _ | ⟨c, _ | ⟨d, r⟩⟩ <;> grind
  · rcases r with _ | ⟨c, _ | ⟨d, _ | ⟨e, r⟩⟩⟩ <;> grind
  · exact Nat.zero_le _

theorem scalarsAfter_append_ascii (hb : b.toNat < 0x80) (s : Bytes) {skip : Nat} {r : Bytes}
    (hskip : skip ≤ r.length) :
    scalarsAfter skip (r ++ b :: s) = scalarsAfter skip r ++ scalars (b :: s) := by
  induction r generalizing skip with
  | nil =>
    obtain rfl : skip = 0 := Nat.le_zero.mp hskip
    rfl
  | cons a r ih =>
    cases skip with
    | succ skip => exact ih (Nat.le_of_succ_le_succ hskip)
    | zero =>
      rw [List.cons_append, scalarsAfter, scalarsAfter, leading_append_ascii hb,
        ih (leading_le_length _ r), List.cons_append]

/-- **What is shown can be put together at a slash.** -/
theorem lossy_append_slash (front back : Bytes) :
    lossy (front ++ Route.slash :: back) = lossy front ++ "/" ++ lossy back := by
  have hslash : scalars (Route.slash :: back) = some '/' :: scalars back := rfl
  apply String.toList_inj.mp
  unfold lossy
  rw [scalars, scalarsAfter_append_ascii (by decide) back (Nat.zero_le _), hslash]
  simp [scalars]

theorem utf8_lossy_eq_iff {bs : Bytes} : utf8 (lossy bs) = bs ↔ ∃ s, bs = utf8 s := by
  constructor
  · intro h
    exact ⟨lossy bs, h.symm⟩
  · rintro ⟨s, rfl⟩
    rw [lossy_utf8]

end GuestVault.Text
