import GuestVault.Proofs.Text.DigitOrder
import GuestVault.Proofs.Time.Order

/-!
# Stamps of moments

The stamp of a moment says what the local clock shows, so two moments have the same stamp exactly if
their local seconds are the same (`stamp_eq_iff`). As long as years have four digits and no sign,
stamps are ordered as local seconds are (`stamp_lt_iff`).
-/

namespace GuestVault.Time.Moment

open GuestVault.Text

variable {m m' : Moment}

theorem toList_stamp (m : Moment) :
    m.stamp.toList = (padInt 4 m.date.year).toList ++ '_' :: ((padNat 2 m.date.month).toList ++
      '_' :: ((padNat 2 m.date.day).toList ++ '-' :: ((padNat 2 m.hour).toList ++
        '_' :: ((padNat 2 m.minute).toList ++ '_' :: (padNat 2 m.second).toList)))) := by
  have hlow : "_".toList = ['_'] := rfl
  have hdash : "-".toList = ['-'] := rfl
  unfold stamp
  simp only [String.toList_append, hlow, hdash, List.append_assoc, List.cons_append,
    List.nil_append]

theorem endsDigits_cons {c : Char} (hc : (digit? c).isSome = false) (r : List Char) :
    EndsDigits (c :: r) := by
  rintro c' t ⟨⟩
  exact hc

/-- **Two moments have the same stamp if their local seconds are the same**, and only then. -/
theorem stamp_eq_iff : m.stamp = m'.stamp ↔ m.localSecond = m'.localSecond := by
  constructor
  · intro h
    have hchars := congrArg String.toList h
    rw [toList_stamp, toList_stamp] at hchars
    have hlow (r : List Char) : EndsDigits ('_' :: r) := endsDigits_cons rfl r
    have hdash (r : List Char) : EndsDigits ('-' :: r) := endsDigits_cons rfl r
    obtain ⟨hyear, hchars⟩ := padInt_append_inj (hlow _) (hlow _) hchars
    obtain ⟨hmonth, hchars⟩ := padNat_append_inj (hlow _) (hlow _) (List.cons_eq_cons.mp hchars).2
    obtain ⟨hday, hchars⟩ := padNat_append_inj (hdash _) (hdash _) (List.cons_eq_cons.mp hchars).2
    obtain ⟨hhour, hchars⟩ := padNat_append_inj (hlow _) (hlow _) (List.cons_eq_cons.mp hchars).2
    obtain ⟨hminute, hchars⟩ := padNat_append_inj (hlow _) (hlow _) (List.cons_eq_cons.mp hchars).2
    have hsecond := congrArg digitsValue (List.cons_eq_cons.mp hchars).2
    rw [digitsValue_padNat, digitsValue_padNat] at hsecond
    exact localSecond_eq_iff.mpr ⟨Date.eq_iff.mpr ⟨hyear, hmonth, hday⟩, hhour, hminute, hsecond⟩
  · intro h
    obtain ⟨hdate, hhour, hminute, hsecond⟩ := localSecond_eq_iff.mp h
    unfold stamp
    rw [hdate, hhour, hminute, hsecond]

/-- **Stamps are ordered as local seconds are**, in years of four digits. -/
theorem stamp_lt_iff (hyear : 0 ≤ m.date.year ∧ m.date.year ≤ 9999)
    (hyear' : 0 ≤ m'.date.year ∧ m'.date.year ≤ 9999) :
    m.stamp.toList < m'.stamp.toList ↔ m.localSecond < m'.localSecond := by
  have hbounds := Date.le_of_isValid (isValid_ofDays (m.localSecond / 86400))
  have hbounds' := Date.le_of_isValid (isValid_ofDays (m'.localSecond / 86400))
  have hmonth : m.date.month ≤ 12 := hbounds.1
  have hmonth' : m'.date.month ≤ 12 := hbounds'.1
  have hday : m.date.day ≤ 31 := hbounds.2
  have hday' : m'.date.day ≤ 31 := hbounds'.2
  have hclock := m.clock_le
  have hclock' := m'.clock_le
  have hend : (padNat 2 m.second).toList < (padNat 2 m'.second).toList ↔ m.second < m'.second := by
    have h : (padNat 2 m.second).toList ++ [] < (padNat 2 m'.second).toList ++ [] ↔
        m.second < m'.second ∨ m.second = m'.second ∧ ([] : List Char) < [] :=
      padNat_append_lt_iff (by decide) (by omega) (by omega)
    simpa using h
  rw [toList_stamp, toList_stamp, padInt_of_nonneg hyear.1, padInt_of_nonneg hyear'.1,
    padNat_append_lt_iff (by decide) (by omega) (by omega), List.cons_lt_cons_iff,
    padNat_append_lt_iff (by decide) (by omega) (by omega), List.cons_lt_cons_iff,
    padNat_append_lt_iff (by decide) (by omega) (by omega), List.cons_lt_cons_iff,
    padNat_append_lt_iff (by decide) (by omega) (by omega), List.cons_lt_cons_iff,
    padNat_append_lt_iff (by decide) (by omega) (by omega), List.cons_lt_cons_iff, hend,
    localSecond_lt_iff, Date.eq_iff]
  unfold Date.Precedes
  simp only [Std.Irrefl.irrefl, false_or, true_and]
  omega

end GuestVault.Time.Moment
