import GuestVault.Proofs.Time.Rfc3339
import Mathlib.Order.Monotone.Basic

/-!
# The order of dates

Of two dates the earlier one has the smaller number of days (`Date.toDays_lt_iff`), so local seconds
are ordered as what the clock shows (`Moment.localSecond_lt_iff`): the date first, then the hour,
the minute and the second. The same clock time is the same local second
(`Moment.localSecond_eq_iff`).
-/

namespace GuestVault.Time

/-! ## Years that begin in March -/

/-- The days before the year `y` that begins in March. -/
def yearStart (y : Int) : Int :=
  365 * y + y / 4 - y / 100 + y / 400

/-- A year is longer if its February belongs to a leap year. -/
theorem yearStart_succ (y : Int) :
    yearStart (y + 1) = yearStart y + if isLeapYear (y + 1) then 366 else 365 := by
  unfold yearStart isLeapYear
  simp only [Bool.and_eq_true, Bool.or_eq_true, beq_iff_eq, bne_iff_ne]
  by_cases h4 : (y + 1) % 4 = 0
  · by_cases h100 : (y + 1) % 100 = 0
    · by_cases h400 : (y + 1) % 400 = 0
      · rw [if_pos ⟨h4, Or.inr h400⟩]
        omega
      · rw [if_neg fun h => h.2.elim (absurd h100) h400]
        omega
    · rw [if_pos ⟨h4, Or.inl h100⟩]
      omega
  · rw [if_neg fun h => h4 h.1]
    omega

theorem yearStart_mono {y y' : Int} (h : y ≤ y') : yearStart y ≤ yearStart y' := by
  refine monotone_int_of_le_succ (fun y => ?_) h
  rw [yearStart_succ]
  split <;> omega

/-- The days of a year before its month `k`, where March is month 0. -/
def monthStart (k : Nat) : Nat :=
  (153 * k + 2) / 5

namespace Date

variable {d d' : Date}

/-- The year that began in March. -/
def marchYear (d : Date) : Int :=
  if d.month ≤ 2 then d.year - 1 else d.year

/-- The months since March. -/
def marchMonth (d : Date) : Nat :=
  if d.month ≤ 2 then d.month + 9 else d.month - 3

/-- One date is earlier than another. -/
def Precedes (d d' : Date) : Prop :=
  d.year < d'.year ∨ d.year = d'.year ∧ (d.month < d'.month ∨ d.month = d'.month ∧ d.day < d'.day)

theorem eq_iff : d = d' ↔ d.year = d'.year ∧ d.month = d'.month ∧ d.day = d'.day := by
  cases d
  cases d'
  simp only [mk.injEq]

theorem bounds_of_isValid (h : d.isValid = true) :
    1 ≤ d.month ∧ d.month ≤ 12 ∧ 1 ≤ d.day ∧ d.day ≤ daysInMonth d.year d.month := by
  unfold isValid at h
  simp only [Bool.and_eq_true, decide_eq_true_eq] at h
  exact ⟨h.1.1.1, h.1.1.2, h.1.2, h.2⟩

theorem toDays_eq (h : d.isValid = true) :
    d.toDays = yearStart d.marchYear + monthStart d.marchMonth + d.day - 719469 := by
  obtain ⟨-, -, hday, -⟩ := bounds_of_isValid h
  show yearStart d.marchYear + ((monthStart d.marchMonth + d.day - 1 : Nat) : Int) - 719468 = _
  omega

/-- A month of 31 or 30 days ends where the next one begins; February is the last one. -/
theorem monthStart_add_le (h : d.isValid = true) (hlast : d.marchMonth ≤ 10) :
    monthStart d.marchMonth + d.day ≤ monthStart (d.marchMonth + 1) := by
  obtain ⟨hfirst, htwelve, -, hday⟩ := bounds_of_isValid h
  have hmonth : (if d.marchMonth < 10 then d.marchMonth + 3 else d.marchMonth - 9) = d.month := by
    unfold marchMonth
    split <;> split <;> omega
  have hlength := daysInMonth_eq hlast d.year
  rw [hmonth] at hlength
  unfold monthStart
  omega

theorem monthStart_add_le_length (h : d.isValid = true) :
    yearStart d.marchYear + monthStart d.marchMonth + d.day ≤ yearStart (d.marchYear + 1) := by
  obtain ⟨hfirst, htwelve, -, hday⟩ := bounds_of_isValid h
  rw [yearStart_succ]
  by_cases hlast : d.marchMonth ≤ 10
  · have hend := monthStart_add_le h hlast
    have hstart : monthStart (d.marchMonth + 1) ≤ 337 := by
      unfold monthStart
      omega
    split <;> omega
  · have hfebruary : d.month = 2 := by
      unfold marchMonth at hlast
      split at hlast <;> omega
    have hyear : d.marchYear + 1 = d.year := by
      unfold marchYear
      rw [hfebruary, if_pos (Nat.le_refl 2)]
      omega
    have hstart : monthStart d.marchMonth = 337 := by
      unfold marchMonth
      rw [hfebruary]
      rfl
    rw [hfebruary] at hday
    have hlength : d.day ≤ if isLeapYear d.year then 29 else 28 := hday
    rw [hyear, hstart]
    cases hleap : isLeapYear d.year with
    | true =>
      rw [hleap, if_pos rfl] at hlength
      rw [if_pos rfl]
      omega
    | false =>
      rw [hleap, if_neg Bool.false_ne_true] at hlength
      rw [if_neg Bool.false_ne_true]
      omega

theorem Precedes.march (h : d.Precedes d') (hd : d.isValid = true) (hd' : d'.isValid = true) :
    d.marchYear < d'.marchYear ∨ d.marchYear = d'.marchYear ∧
      (d.marchMonth < d'.marchMonth ∨ d.marchMonth = d'.marchMonth ∧ d.day < d'.day) := by
  obtain ⟨hfirst, htwelve, -, -⟩ := bounds_of_isValid hd
  obtain ⟨hfirst', htwelve', -, -⟩ := bounds_of_isValid hd'
  unfold Precedes at h
  unfold marchYear marchMonth
  split <;> split <;> omega

theorem toDays_lt_of_precedes (hd : d.isValid = true) (hd' : d'.isValid = true)
    (h : d.Precedes d') : d.toDays < d'.toDays := by
  obtain ⟨-, -, hday', -⟩ := bounds_of_isValid hd'
  rw [toDays_eq hd, toDays_eq hd']
  rcases h.march hd hd' with hyear | ⟨hyear, hmonth | ⟨hmonth, hday⟩⟩
  · have hend := monthStart_add_le_length hd
    have hnext := yearStart_mono (show d.marchYear + 1 ≤ d'.marchYear from hyear)
    omega
  · have hlast : d'.marchMonth ≤ 11 := by
      obtain ⟨-, htwelve', -, -⟩ := bounds_of_isValid hd'
      unfold marchMonth
      split <;> omega
    have hend := monthStart_add_le hd (by omega)
    have hnext : monthStart (d.marchMonth + 1) ≤ monthStart d'.marchMonth := by
      unfold monthStart
      omega
    rw [hyear]
    omega
  · rw [hyear, hmonth]
    omega

theorem precedes_trichotomy (d d' : Date) : d.Precedes d' ∨ d = d' ∨ d'.Precedes d := by
  unfold Precedes
  rw [eq_iff]
  omega

/-- **Dates are ordered as their days are.** -/
theorem toDays_lt_iff (hd : d.isValid = true) (hd' : d'.isValid = true) :
    d.toDays < d'.toDays ↔ d.Precedes d' := by
  refine ⟨fun h => ?_, toDays_lt_of_precedes hd hd'⟩
  rcases precedes_trichotomy d d' with hlt | rfl | hgt
  · exact hlt
  · exact absurd h (Int.lt_irrefl _)
  · exact absurd h (Int.lt_asymm (toDays_lt_of_precedes hd' hd hgt))

end Date

/-! ## Moments -/

namespace Moment

variable {m m' : Moment}

theorem localSecond_eq (m : Moment) :
    m.localSecond = m.date.toDays * 86400 + (m.hour * 3600 + m.minute * 60 + m.second : Nat) := by
  have h := m.unix_eq
  unfold localSecond
  omega

/-- **Local seconds are the same if the clock shows the same.** -/
theorem localSecond_eq_iff : m.localSecond = m'.localSecond ↔
    m.date = m'.date ∧ m.hour = m'.hour ∧ m.minute = m'.minute ∧ m.second = m'.second := by
  constructor
  · intro h
    unfold date hour minute second secondOfDay
    rw [h]
    exact ⟨rfl, rfl, rfl, rfl⟩
  · rintro ⟨hdate, hhour, hminute, hsecond⟩
    rw [localSecond_eq, localSecond_eq, hdate, hhour, hminute, hsecond]

/-- **Local seconds are ordered as what the clock shows.** -/
theorem localSecond_lt_iff : m.localSecond < m'.localSecond ↔
    m.date.Precedes m'.date ∨ m.date = m'.date ∧ (m.hour < m'.hour ∨ m.hour = m'.hour ∧
      (m.minute < m'.minute ∨ m.minute = m'.minute ∧ m.second < m'.second)) := by
  have hvalid : m.date.isValid = true := isValid_ofDays _
  have hvalid' : m'.date.isValid = true := isValid_ofDays _
  have hclock := m.clock_le
  have hclock' := m'.clock_le
  have hsame : m.date = m'.date ↔ m.date.toDays = m'.date.toDays := by
    refine ⟨congrArg _, fun h => ?_⟩
    rcases Date.precedes_trichotomy m.date m'.date with hlt | heq | hgt
    · exact absurd h (Int.ne_of_lt (Date.toDays_lt_of_precedes hvalid hvalid' hlt))
    · exact heq
    · exact absurd h.symm (Int.ne_of_lt (Date.toDays_lt_of_precedes hvalid' hvalid hgt))
  rw [← Date.toDays_lt_iff hvalid hvalid', hsame, localSecond_eq, localSecond_eq]
  omega

end Moment

end GuestVault.Time
