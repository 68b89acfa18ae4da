import GuestVault.Time.Calendar
import Mathlib.Tactic.IntervalCases

/-!
# Dates and days

Years are taken to begin in March, and 400 of them make an era. A day of an era lies in the year
that `yearOfEra` says (`yearOfEra_spec`), so every day has a date that exists (`isValid_ofDays`), and
the date leads back to the day (`toDays_ofDays`).
-/

namespace GuestVault.Time

/-! ## Years of an era -/

/-- The days of an era before its year `y`. -/
def daysBefore (y : Nat) : Nat :=
  365 * y + y / 4 - y / 100 + y / 400

/-- The year of an era that its day `n` lies in. -/
def yearOfEra (n : Nat) : Nat :=
  (n - n / 1460 + n / 36524 - n / 146096) / 365

theorem yearOfEra_spec {n : Nat} (hn : n < 146097) :
    yearOfEra n ≤ 399 ∧ daysBefore (yearOfEra n) ≤ n ∧ n < daysBefore (yearOfEra n + 1) := by
  by_cases hlast : n = 146096
  · subst hlast
    decide
  obtain ⟨y, hy⟩ : ∃ y, y = yearOfEra n := ⟨_, rfl⟩
  rw [← hy]
  unfold yearOfEra at hy
  unfold daysBefore
  rw [show n / 146096 = 0 by omega] at hy
  generalize hfours : n / 1460 = fours at *
  generalize hcenturies : n / 36524 = centuries at *
  have hcenturies' : centuries ≤ 3 := by omega
  have hcentury : y / 100 = centuries := by omega
  have hfour : y / 4 ≤ fours := by omega
  have hnext : fours ≤ (y + 1) / 4 := by omega
  -- the last year of a century is followed by one of the next century
  by_cases hend : y = 100 * centuries + 99
  · exact ⟨by omega, by omega, by omega⟩
  · have hcentury' : (y + 1) / 100 = centuries := by omega
    omega

/-! ## Days of a year -/

/-- The date of a day of a year that begins in March. -/
def Date.ofMarch (year : Int) (dayOfYear : Nat) : Date :=
  let shifted := (5 * dayOfYear + 2) / 153
  let month := if shifted < 10 then shifted + 3 else shifted - 9
  { year := if month ≤ 2 then year + 1 else year
    month
    day := dayOfYear - (153 * shifted + 2) / 5 + 1 }

/-- A day lies in some year of some era. -/
theorem exists_ofMarch (days : Int) :
    ∃ (era : Int) (y dayOfYear : Nat), y ≤ 399 ∧ dayOfYear < daysBefore (y + 1) - daysBefore y ∧
      days + 719468 = 146097 * era + daysBefore y + dayOfYear ∧
      Date.ofDays days = .ofMarch (y + era * 400) dayOfYear := by
  obtain ⟨n, hn⟩ : ∃ n, n = ((days + 719468) % 146097).toNat := ⟨_, rfl⟩
  obtain ⟨hlast, hfrom, hto⟩ := yearOfEra_spec (n := n) (by omega)
  refine ⟨(days + 719468) / 146097, yearOfEra n, n - daysBefore (yearOfEra n), hlast, by omega,
    by omega, ?_⟩
  have hdays : daysBefore (yearOfEra n) = 365 * yearOfEra n + yearOfEra n / 4 -
      yearOfEra n / 100 := by
    unfold daysBefore
    omega
  rw [hdays, hn]
  rfl

theorem toDays_ofMarch {y dayOfYear : Nat} (era : Int) (hy : y ≤ 399) (hday : dayOfYear ≤ 365) :
    (Date.ofMarch (y + era * 400) dayOfYear).toDays =
      146097 * era + daysBefore y + dayOfYear - 719468 := by
  unfold Date.ofMarch Date.toDays daysBefore
  have hmonth : (5 * dayOfYear + 2) / 153 ≤ 11 := by omega
  have hstart : (153 * ((5 * dayOfYear + 2) / 153) + 2) / 5 ≤ dayOfYear := by omega
  dsimp only
  generalize (5 * dayOfYear + 2) / 153 = shifted at *
  by_cases hten : shifted < 10
  · simp only [if_pos hten, show ¬ shifted + 3 ≤ 2 by omega, if_false, Nat.add_sub_cancel]
    omega
  · simp only [if_neg hten, show shifted - 9 ≤ 2 by omega, if_true,
      show shifted - 9 + 9 = shifted by omega]
    omega

theorem daysInMonth_eq {shifted : Nat} (h : shifted ≤ 10) (year : Int) :
    daysInMonth year (if shifted < 10 then shifted + 3 else shifted - 9) =
      (153 * (shifted + 1) + 2) / 5 - (153 * shifted + 2) / 5 := by
  interval_cases shifted <;> rfl

/-- A year is long enough for its days: the last one of February exists in leap years only. -/
theorem isValid_ofMarch {y dayOfYear : Nat} (era : Int) (hy : y ≤ 399)
    (hday : dayOfYear < daysBefore (y + 1) - daysBefore y) :
    (Date.ofMarch (y + era * 400) dayOfYear).isValid = true := by
  unfold daysBefore at hday
  have hmonth : (5 * dayOfYear + 2) / 153 ≤ 11 := by omega
  unfold Date.ofMarch Date.isValid
  simp only [Bool.and_eq_true, decide_eq_true_eq]
  generalize hshifted : (5 * dayOfYear + 2) / 153 = shifted at *
  refine ⟨⟨⟨by split <;> omega, by split <;> omega⟩, by omega⟩, ?_⟩
  by_cases hfebruary : shifted = 11
  · subst hfebruary
    have hleap : dayOfYear = 365 → isLeapYear (y + era * 400 + 1) = true := by
      intro hlast
      unfold isLeapYear
      simp only [Bool.and_eq_true, Bool.or_eq_true, beq_iff_eq, bne_iff_ne]
      omega
    show _ ≤ if isLeapYear (y + era * 400 + 1) then 29 else 28
    by_cases hlast : dayOfYear = 365
    · rw [if_pos (hleap hlast)]
      omega
    · split <;> omega
  · rw [daysInMonth_eq (by omega)]
    omega

/-! ## Dates and days -/

/-- **Every day has a date that exists.** -/
theorem isValid_ofDays (days : Int) : (Date.ofDays days).isValid = true := by
  obtain ⟨era, y, dayOfYear, hy, hday, -, hdate⟩ := exists_ofMarch days
  rw [hdate]
  exact isValid_ofMarch era hy hday

theorem Date.le_of_isValid {d : Date} (h : d.isValid = true) : d.month ≤ 12 ∧ d.day ≤ 31 := by
  unfold isValid at h
  simp only [Bool.and_eq_true, decide_eq_true_eq] at h
  refine ⟨h.1.1.2, Nat.le_trans h.2 ?_⟩
  unfold daysInMonth
  split
  · split <;> decide
  · decide
  · decide
  · decide
  · decide
  · decide

/-- **The date of a day leads back to it.** -/
theorem toDays_ofDays (days : Int) : (Date.ofDays days).toDays = days := by
  obtain ⟨era, y, dayOfYear, hy, hday, hdays, hdate⟩ := exists_ofMarch days
  have hlength : dayOfYear ≤ 365 := by
    unfold daysBefore at hday
    omega
  rw [hdate, toDays_ofMarch era hy hlength]
  omega

end GuestVault.Time
