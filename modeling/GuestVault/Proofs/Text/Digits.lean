import GuestVault.Text.Number
import Mathlib.Algebra.Group.Nat.Defs

/-!
# Digits read back

The digits of a number have its value (`digitsValue_toString`), and still have it behind any number
of zeros (`digitsValue_padNat`). Where digits are followed by something else, both parts can be told
apart (`takeWhile_digits`, `dropWhile_digits`).
-/

namespace GuestVault.Text

variable {s r : List Char} {n places : Nat}

/-- There is nothing but digits in the text. -/
def AllDigits (s : List Char) : Prop :=
  ∀ c ∈ s, (digit? c).isSome = true

theorem isSome_digit? {c : Char} (h : c.isDigit = true) : (digit? c).isSome = true := by
  unfold digit?
  rw [if_pos (show ('0' ≤ c && c ≤ '9') = true from h)]
  rfl

theorem digit?_eq_some {c : Char} (h : (digit? c).isSome = true) : digit? c = some (c.toNat - 48) := by
  unfold digit? at h ⊢
  split at h
  · rw [if_pos ‹_›]
    rfl
  · cases h

theorem toNat_bounds_of_digit {c : Char} (h : (digit? c).isSome = true) :
    48 ≤ c.toNat ∧ c.toNat ≤ 57 := by
  unfold digit? at h
  split at h
  · rename_i hrange
    rw [Bool.and_eq_true, decide_eq_true_eq, decide_eq_true_eq] at hrange
    exact hrange
  · cases h

/-! ## Digits of numbers -/

theorem toList_toString (n : Nat) : (toString n).toList = Nat.toDigits 10 n := by
  rw [Nat.toString_eq_repr, Nat.toList_repr]

theorem allDigits_toString (n : Nat) : AllDigits (toString n).toList := by
  intro c hc
  rw [toList_toString] at hc
  exact isSome_digit? (Nat.isDigit_of_mem_toDigits (by decide) (by decide) hc)

theorem toString_ne_nil (n : Nat) : (toString n).toList ≠ [] := by
  rw [toList_toString]
  exact Nat.toDigits_ne_nil

theorem digitsValue_eq (h : AllDigits s) : digitsValue s = Nat.ofDigitChars 10 s 0 := by
  have hfold (acc : Nat) : s.foldl (fun acc c => acc * 10 + (digit? c).getD 0) acc =
      s.foldl (fun acc c => 10 * acc + (c.toNat - 48)) acc := by
    induction s generalizing acc with
    | nil => rfl
    | cons c s ih =>
      obtain ⟨hc, hs⟩ := List.forall_mem_cons.mp h
      rw [List.foldl_cons, List.foldl_cons, digit?_eq_some hc, Nat.mul_comm]
      exact ih hs _
  exact (hfold 0).trans Nat.ofDigitChars_eq_foldl.symm

/-- **The digits of a number have its value.** -/
theorem digitsValue_toString (n : Nat) : digitsValue (toString n).toList = n := by
  rw [digitsValue_eq (allDigits_toString n), toList_toString, Nat.ofDigitChars_ten_toDigits]

theorem toString_eq_zero_cons (h : (toString n).toList = '0' :: r) : r = [] := by
  by_cases hn : n < 10
  · rw [toList_toString, Nat.toDigits_of_lt_base hn] at h
    exact (List.cons_eq_cons.mp h).2.symm
  -- otherwise the first digit would be that of the part without the last one
  · exfalso
    induction n using Nat.strongRecOn generalizing r with
    | _ n ih =>
      rw [toList_toString, Nat.toDigits_of_base_le (by decide) (Nat.not_lt.mp hn)] at h
      obtain ⟨c, t, hfirst⟩ := List.exists_cons_of_ne_nil (Nat.toDigits_ne_nil (n := n / 10) (b := 10))
      rw [hfirst, List.cons_append] at h
      obtain ⟨rfl, -⟩ := List.cons_eq_cons.mp h
      by_cases hsmall : n / 10 < 10
      · rw [Nat.toDigits_of_lt_base hsmall] at hfirst
        have hzero := Nat.digitChar_eq_zero.mp (List.cons_eq_cons.mp hfirst).1
        omega
      · exact ih (n / 10) (by omega) (by rw [toList_toString]; exact hfirst) hsmall

theorem toList_toString_negSucc (n : Nat) :
    (toString (Int.negSucc n)).toList = '-' :: (toString (n + 1)).toList := by
  rw [Int.toString_eq_repr, Int.repr_eq_if, if_neg (Int.not_le.mpr (Int.negSucc_lt_zero n)),
    String.toList_append, Nat.toString_eq_repr]
  rfl

/-! ## Zeros in front -/

theorem toList_padNat (places n : Nat) :
    (padNat places n).toList =
      List.replicate (places - (toString n).length) '0' ++ (toString n).toList := by
  unfold padNat
  rw [String.toList_append, String.toList_ofList]

theorem allDigits_padNat (places n : Nat) : AllDigits (padNat places n).toList := by
  intro c hc
  rw [toList_padNat, List.mem_append] at hc
  rcases hc with hzero | hdigit
  · rw [List.eq_of_mem_replicate hzero]
    rfl
  · exact allDigits_toString n c hdigit

/-- **So have its digits behind zeros.** -/
theorem digitsValue_padNat (places n : Nat) : digitsValue (padNat places n).toList = n := by
  rw [digitsValue_eq (allDigits_padNat places n), toList_padNat, Nat.ofDigitChars_append,
    Nat.ofDigitChars_replicate_zero, Nat.mul_zero, toList_toString, Nat.ofDigitChars_ten_toDigits]

theorem length_padNat (hplaces : 0 < places) (hn : n < 10 ^ places) :
    (padNat places n).toList.length = places := by
  have hlength : (toString n).toList.length ≤ places := by
    rw [toList_toString]
    exact (Nat.length_toDigits_le_iff (by decide) hplaces).mpr hn
  rw [toList_padNat, List.length_append, List.length_replicate, ← String.length_toList]
  omega

theorem padInt_of_nonneg {n : Int} (hn : 0 ≤ n) : padInt places n = padNat places n.natAbs :=
  if_neg (Int.not_lt.mpr hn)

/-! ## Digits and what follows them -/

/-- The text does not go on with a digit. -/
def EndsDigits (r : List Char) : Prop :=
  ∀ c t, r = c :: t → (digit? c).isSome = false

theorem takeWhile_digits (hs : AllDigits s) (hr : EndsDigits r) :
    (s ++ r).takeWhile (fun c => (digit? c).isSome) = s := by
  rw [List.takeWhile_append_of_pos hs]
  rcases r with _ | ⟨c, t⟩
  · exact List.append_nil _
  · rw [List.takeWhile_cons_of_neg (by rw [hr c t rfl]; exact Bool.false_ne_true), List.append_nil]

theorem dropWhile_digits (hs : AllDigits s) (hr : EndsDigits r) :
    (s ++ r).dropWhile (fun c => (digit? c).isSome) = r := by
  rw [List.dropWhile_append_of_pos hs]
  rcases r with _ | ⟨c, t⟩
  · rfl
  · rw [List.dropWhile_cons_of_neg (by rw [hr c t rfl]; exact Bool.false_ne_true)]

end GuestVault.Text
