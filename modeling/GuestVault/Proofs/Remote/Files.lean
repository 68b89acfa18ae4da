import GuestVault.Proofs.Text.Numeral
import GuestVault.Proofs.Text.Words
import GuestVault.Remote.Files

/-!
# What a remote host says of a file

An answer begins with a size and a word for the time (`FileStat.Begins`), or it is malformed. The time
is the second that its word counts if clocks can show it, and else there is none (`FileStat.Tells`).
All answers are read like this except those whose time is a 64-bit number beyond the last second of
clocks: they are not read at all (`answer_read_iff`).
-/

namespace GuestVault

open GuestVault.Text

namespace FileStat

variable {stdout : String} {size second : Nat} {mtime : List Char}

/-- The first word of an answer is the number `size`, and the second word is `mtime`. -/
def Begins (stdout : String) (size : Nat) (mtime : List Char) : Prop :=
  ∃ front rest, Spaced stdout.toList (front :: mtime :: rest) ∧ IsNumber maxWord64 front size

/-- The time that a word tells: the second that it counts, if clocks can show that one. -/
def Tells (mtime : List Char) (modified : Option Nat) : Prop :=
  ∀ second, modified = some second ↔ IsNumber maxWord64 mtime second ∧ second ≤ maxSecond

/-- An answer that begins with a size and a time is read as these, and any other is malformed. -/
def IsRead (stdout : String) : Prop :=
  (∀ size mtime, Begins stdout size mtime →
    ∃ modified, parse stdout = .ok { size, modified } ∧ Tells mtime modified) ∧
  ((∀ size mtime, ¬ Begins stdout size mtime) →
    ∃ text, parse stdout = .error (.error (.parse text)))

/-- The time in an answer is a number, but clocks cannot show that second. -/
def IsBeyond (stdout : String) : Prop :=
  ∃ size mtime second, Begins stdout size mtime ∧ IsNumber maxWord64 mtime second ∧
    maxSecond < second

theorem tells_some (hnumber : IsNumber maxWord64 mtime second) (hle : second ≤ maxSecond) :
    Tells mtime (some second) := by
  refine fun second' => ⟨?_, fun h => congrArg some (hnumber.unique h.1)⟩
  rintro ⟨⟩
  exact ⟨hnumber, hle⟩

theorem tells_none (h : ∀ second, ¬ IsNumber maxWord64 mtime second) : Tells mtime none :=
  fun second => iff_of_false nofun fun hnumber => h second hnumber.1

/-- A size and a second are read as long as clocks can show the second. -/
theorem parse_of_counted (h : Begins stdout size mtime)
    (hnumber : IsNumber maxWord64 mtime second) :
    parse stdout =
      if second ≤ maxSecond then .ok { size, modified := some second }
      else .error .unrepresentable := by
  obtain ⟨front, rest, hwords, hsize⟩ := h
  unfold parse
  rw [words_eq_iff.mpr hwords]
  simp only [List.map_cons, String.toList_ofList, readNumber_eq_ok_iff.mpr hsize,
    readNumber_eq_ok_iff.mpr hnumber]

theorem parse_of_uncounted (h : Begins stdout size mtime)
    (hnone : ∀ second, ¬ IsNumber maxWord64 mtime second) :
    parse stdout = .ok { size, modified := none } := by
  obtain ⟨front, rest, hwords, hsize⟩ := h
  unfold parse
  rw [words_eq_iff.mpr hwords]
  cases hmtime : readNumber maxWord64 mtime with
  | error fault =>
    simp only [List.map_cons, String.toList_ofList, readNumber_eq_ok_iff.mpr hsize, hmtime]
  | ok second => exact absurd (readNumber_eq_ok_iff.mp hmtime) (hnone second)

theorem parse_of_unbegun (h : ∀ size mtime, ¬ Begins stdout size mtime) :
    ∃ text, parse stdout = .error (.error (.parse text)) := by
  obtain ⟨ws, hwords⟩ := exists_spaced stdout.toList
  unfold parse
  rw [words_eq_iff.mpr hwords]
  rcases ws with _ | ⟨front, _ | ⟨mtime, rest⟩⟩
  · exact ⟨_, rfl⟩
  · exact ⟨_, rfl⟩
  · simp only [List.map_cons, String.toList_ofList]
    cases hsize : readNumber maxWord64 front with
    | error fault => exact ⟨_, rfl⟩
    | ok size => exact absurd ⟨front, rest, hwords, readNumber_eq_ok_iff.mp hsize⟩ (h size mtime)

theorem parse_of_beyond (h : IsBeyond stdout) : parse stdout = .error .unrepresentable := by
  obtain ⟨size, mtime, second, hbegins, hnumber, hbeyond⟩ := h
  rw [parse_of_counted hbegins hnumber]
  exact if_neg (Nat.not_le_of_lt hbeyond)

/-- A word that tells no time beyond all clocks is read as the time that it tells. -/
theorem parse_of_not_beyond (h : Begins stdout size mtime) (hshown : ¬ IsBeyond stdout) :
    ∃ modified, parse stdout = .ok { size, modified } ∧ Tells mtime modified := by
  by_cases hcounted : ∃ second, IsNumber maxWord64 mtime second
  · obtain ⟨second, hnumber⟩ := hcounted
    have hle : second ≤ maxSecond :=
      Nat.le_of_not_lt fun hlt => hshown ⟨size, mtime, second, h, hnumber, hlt⟩
    refine ⟨some second, ?_, tells_some hnumber hle⟩
    rw [parse_of_counted h hnumber, if_pos hle]
  · simp only [not_exists] at hcounted
    exact ⟨none, parse_of_uncounted h hcounted, tells_none hcounted⟩

theorem not_isRead_of_beyond (h : IsBeyond stdout) : ¬ IsRead stdout := by
  rintro ⟨hread, -⟩
  have hparse := parse_of_beyond h
  obtain ⟨size, mtime, -, hbegins, -⟩ := h
  obtain ⟨modified, hok, -⟩ := hread size mtime hbegins
  rw [hparse] at hok
  cases hok

/-- **An answer is read exactly if its time is not beyond all clocks.** It then gives size and time if
it begins with them, and is malformed if it does not. An answer whose time is a 64-bit number beyond
the last second of clocks gives neither. -/
theorem answer_read_iff (stdout : String) :
    (IsRead stdout ↔ ¬ IsBeyond stdout) ∧
      (parse stdout = .error .unrepresentable ↔ IsBeyond stdout) := by
  have hread (h : ¬ IsBeyond stdout) : IsRead stdout :=
    ⟨fun _ _ hbegins => parse_of_not_beyond hbegins h, parse_of_unbegun⟩
  refine ⟨⟨fun h hbeyond => not_isRead_of_beyond hbeyond h, hread⟩, fun h => ?_, parse_of_beyond⟩
  refine Classical.byContradiction fun hshown => ?_
  by_cases hbegins : ∃ size mtime, Begins stdout size mtime
  · obtain ⟨size, mtime, hbegins⟩ := hbegins
    obtain ⟨modified, hok, -⟩ := (hread hshown).1 size mtime hbegins
    rw [h] at hok
    cases hok
  · simp only [not_exists] at hbegins
    obtain ⟨text, hmalformed⟩ := (hread hshown).2 hbegins
    rw [h] at hmalformed
    cases hmalformed

/-- The first second that clocks cannot show is a 64-bit number. An answer with that time begins with a
size, and yet it is not read. -/
theorem far_time_unread :
    Begins "5 9223372036854775808" 5 "9223372036854775808".toList ∧
      parse "5 9223372036854775808" = .error .unrepresentable ∧
      ¬ IsRead "5 9223372036854775808" := by
  have hfar : IsNumber maxWord64 "9223372036854775808".toList 9223372036854775808 :=
    readNumber_eq_ok_iff.mp rfl
  have hbegins : Begins "5 9223372036854775808" 5 "9223372036854775808".toList :=
    ⟨['5'], [], words_eq_iff.mp (by decide +kernel), readNumber_eq_ok_iff.mp rfl⟩
  have hbeyond : IsBeyond "5 9223372036854775808" := ⟨5, _, _, hbegins, hfar, by decide⟩
  exact ⟨hbegins, parse_of_beyond hbeyond, not_isRead_of_beyond hbeyond⟩

end FileStat

end GuestVault
