import GuestVault.Proofs.Text.Digits

/-!
# Numbers told apart and ordered by their digits

Numbers that are followed by something other than a digit can be told apart, with what follows them
(`padNat_append_inj`, `padInt_append_inj`). With the same number of places they are ordered as their
digits are, and what follows only counts between equal numbers (`padNat_append_lt_iff`).
-/

namespace GuestVault.Text

variable {s s' r r' : List Char} {places n n' : Nat}

/-! ## Telling numbers apart -/

/-- Digits and what follows them can only be put together in one way. -/
theorem AllDigits.append_inj (hs : AllDigits s) (hs' : AllDigits s') (hr : EndsDigits r)
    (hr' : EndsDigits r') (h : s ++ r = s' ++ r') : s = s' ∧ r = r' := by
  have htake := congrArg (List.takeWhile fun c => (digit? c).isSome) h
  have hdrop := congrArg (List.dropWhile fun c => (digit? c).isSome) h
  rw [takeWhile_digits hs hr, takeWhile_digits hs' hr'] at htake
  rw [dropWhile_digits hs hr, dropWhile_digits hs' hr'] at hdrop
  exact ⟨htake, hdrop⟩

theorem padNat_ne_nil (places n : Nat) : (padNat places n).toList ≠ [] := by
  rw [toList_padNat]
  exact List.append_ne_nil_of_right_ne_nil _ (toString_ne_nil n)

theorem padNat_append_inj (hr : EndsDigits r) (hr' : EndsDigits r')
    (h : (padNat places n).toList ++ r = (padNat places n').toList ++ r') : n = n' ∧ r = r' := by
  obtain ⟨hdigits, hrest⟩ :=
    (allDigits_padNat places n).append_inj (allDigits_padNat places n') hr hr' h
  have hvalue := congrArg digitsValue hdigits
  rw [digitsValue_padNat, digitsValue_padNat] at hvalue
  exact ⟨hvalue, hrest⟩

theorem minus_cons_ne_padNat (s r : List Char) (places n : Nat) :
    '-' :: s ≠ (padNat places n).toList ++ r := by
  obtain ⟨c, t, hdigits⟩ := List.exists_cons_of_ne_nil (padNat_ne_nil places n)
  intro h
  rw [hdigits, List.cons_append] at h
  obtain ⟨rfl, -⟩ := List.cons_eq_cons.mp h
  have hminus := allDigits_padNat places n '-' (by rw [hdigits]; exact List.mem_cons_self)
  exact absurd hminus (by decide)

theorem toList_padInt_of_neg {z : Int} (hz : z < 0) :
    (padInt places z).toList = '-' :: (padNat places z.natAbs).toList := by
  unfold padInt
  rw [if_pos hz, String.toList_append]
  rfl

theorem padInt_append_inj {z z' : Int} (hr : EndsDigits r) (hr' : EndsDigits r')
    (h : (padInt places z).toList ++ r = (padInt places z').toList ++ r') : z = z' ∧ r = r' := by
  by_cases hz : z < 0 <;> by_cases hz' : z' < 0
  · rw [toList_padInt_of_neg hz, toList_padInt_of_neg hz', List.cons_append, List.cons_append] at h
    obtain ⟨habs, hrest⟩ := padNat_append_inj hr hr' (List.cons_eq_cons.mp h).2
    exact ⟨by omega, hrest⟩
  · rw [toList_padInt_of_neg hz, padInt_of_nonneg (Int.not_lt.mp hz'), List.cons_append] at h
    exact absurd h (minus_cons_ne_padNat _ _ _ _)
  · rw [padInt_of_nonneg (Int.not_lt.mp hz), toList_padInt_of_neg hz', List.cons_append] at h
    exact absurd h.symm (minus_cons_ne_padNat _ _ _ _)
  · rw [padInt_of_nonneg (Int.not_lt.mp hz), padInt_of_nonneg (Int.not_lt.mp hz')] at h
    obtain ⟨habs, hrest⟩ := padNat_append_inj hr hr' h
    exact ⟨by omega, hrest⟩

/-! ## Order -/

/-- Of two texts that begin with parts of the same length, these parts decide. -/
theorem append_lt_append_iff (hlength : s.length = s'.length) :
    s ++ r < s' ++ r' ↔ s < s' ∨ s = s' ∧ r < r' := by
  induction s generalizing s' with
  | nil =>
    obtain rfl := List.length_eq_zero_iff.mp hlength.symm
    simp
  | cons c s ih =>
    obtain ⟨c', s', rfl⟩ := List.exists_cons_of_length_eq_add_one hlength.symm
    have hrest := ih (Nat.succ.inj hlength)
    simp only [List.cons_append, List.cons_lt_cons_iff, hrest, List.cons.injEq]
    grind

theorem ofDigitChars_cons_eq (c : Char) (s : List Char) :
    Nat.ofDigitChars 10 (c :: s) 0 =
      10 ^ s.length * (c.toNat - 48) + Nat.ofDigitChars 10 s 0 := by
  rw [Nat.ofDigitChars_cons, Nat.ofDigitChars_eq_ofDigitChars_zero, Nat.mul_zero, Nat.zero_add]
  rfl

theorem ofDigitChars_lt (hs : AllDigits s) : Nat.ofDigitChars 10 s 0 < 10 ^ s.length := by
  induction s with
  | nil => exact Nat.one_pos
  | cons c s ih =>
    obtain ⟨hc, hs⟩ := List.forall_mem_cons.mp hs
    have hrest := ih hs
    have hbounds := toNat_bounds_of_digit hc
    have hfirst : 10 ^ s.length * (c.toNat - 48) ≤ 10 ^ s.length * 9 :=
      Nat.mul_le_mul_left _ (by omega)
    rw [ofDigitChars_cons_eq, List.length_cons, Nat.pow_succ]
    omega

/-- Of two numbers that are divided by the same number, the quotients decide. -/
theorem mul_add_lt_iff {p x x' v v' : Nat} (hv : v < p) (hv' : v' < p) :
    p * x + v < p * x' + v' ↔ x < x' ∨ x = x' ∧ v < v' := by
  rcases Nat.lt_trichotomy x x' with hlt | rfl | hgt
  · have hnext := Nat.mul_le_mul_left p (Nat.succ_le_of_lt hlt)
    rw [Nat.mul_succ] at hnext
    omega
  · omega
  · have hnext := Nat.mul_le_mul_left p (Nat.succ_le_of_lt hgt)
    rw [Nat.mul_succ] at hnext
    omega

theorem lt_iff_ofDigitChars_lt (hs : AllDigits s) (hs' : AllDigits s')
    (hlength : s.length = s'.length) :
    s < s' ↔ Nat.ofDigitChars 10 s 0 < Nat.ofDigitChars 10 s' 0 := by
  induction s generalizing s' with
  | nil =>
    obtain rfl := List.length_eq_zero_iff.mp hlength.symm
    simp
  | cons c s ih =>
    obtain ⟨c', s', rfl⟩ := List.exists_cons_of_length_eq_add_one hlength.symm
    obtain ⟨hc, hs⟩ := List.forall_mem_cons.mp hs
    obtain ⟨hc', hs'⟩ := List.forall_mem_cons.mp hs'
    have hsame : s.length = s'.length := Nat.succ.inj hlength
    have hbounds := toNat_bounds_of_digit hc
    have hbounds' := toNat_bounds_of_digit hc'
    have hlt : c < c' ↔ c.toNat - 48 < c'.toNat - 48 := by
      show c.toNat < c'.toNat ↔ _
      omega
    have heq : c = c' ↔ c.toNat - 48 = c'.toNat - 48 := by
      rw [← Char.toNat_inj]
      omega
    rw [List.cons_lt_cons_iff, ih hs hs' hsame, hlt, heq, ofDigitChars_cons_eq,
      ofDigitChars_cons_eq, hsame,
      mul_add_lt_iff (hsame ▸ ofDigitChars_lt hs) (ofDigitChars_lt hs')]

/-- **Numbers of the same number of places are ordered as their texts**, whatever follows; that
counts only between equal numbers. -/
theorem padNat_append_lt_iff (hplaces : 0 < places) (hn : n < 10 ^ places)
    (hn' : n' < 10 ^ places) :
    (padNat places n).toList ++ r < (padNat places n').toList ++ r' ↔ n < n' ∨ n = n' ∧ r < r' := by
  have hlength : (padNat places n).toList.length = (padNat places n').toList.length := by
    rw [length_padNat hplaces hn, length_padNat hplaces hn']
  have hvalue (n : Nat) : Nat.ofDigitChars 10 (padNat places n).toList 0 = n := by
    rw [← digitsValue_eq (allDigits_padNat places n), digitsValue_padNat]
  have hsame : (padNat places n).toList = (padNat places n').toList ↔ n = n' := by
    refine ⟨fun h => ?_, fun h => h ▸ rfl⟩
    rw [← hvalue n, h, hvalue]
  rw [append_lt_append_iff hlength,
    lt_iff_ofDigitChars_lt (allDigits_padNat places n) (allDigits_padNat places n') hlength,
    hvalue, hvalue, hsame]

end GuestVault.Text
