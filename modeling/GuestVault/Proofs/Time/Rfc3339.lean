import GuestVault.Proofs.Text.Digits
import GuestVault.Proofs.Time.Calendar
import GuestVault.Time.Rfc3339
import Mathlib.Tactic.SplitIfs

/-!
# RFC 3339 texts read back

Each part of a text is read as it was written, whatever follows it; so the text of a moment names
that moment (`ofRfc3339?_of_toRfc3339`), with its offset and to the nanosecond.
-/

namespace GuestVault.Time

open GuestVault.Text

variable {r : List Char} {n places : Nat}

/-! ## Parts -/

theorem takeDigits?_padNat (hplaces : 0 < places) (hn : n < 10 ^ places) (r : List Char) :
    takeDigits? places ((padNat places n).toList ++ r) = some (n, r) := by
  have hlength := length_padNat hplaces hn
  have hall : (padNat places n).toList.all (fun c => (digit? c).isSome) = true :=
    List.all_eq_true.mpr (allDigits_padNat places n)
  unfold takeDigits?
  dsimp only
  rw [List.take_left' hlength, List.drop_left' hlength, if_pos ⟨hlength, hall⟩, digitsValue_padNat]

theorem takeChar?_cons (c : Char) (r : List Char) : takeChar? c (c :: r) = some r :=
  if_pos rfl

theorem takeSeparator?_cons {c : Char} (hc : c.toNat < 128) (r : List Char) :
    takeSeparator? (c :: r) = some r :=
  if_pos hc

theorem dropTrailing_append (x : Char) (s : List Char) :
    dropTrailing x s ++ List.replicate (s.length - (dropTrailing x s).length) x = s := by
  unfold dropTrailing
  have hsplit := List.takeWhile_append_dropWhile (p := (· == x)) (l := s.reverse)
  have hx : s.reverse.takeWhile (· == x) =
      List.replicate (s.reverse.takeWhile (· == x)).length x :=
    List.eq_replicate_iff.mpr ⟨rfl, fun c hc => by
      simpa using List.all_eq_true.mp List.all_takeWhile c hc⟩
  have hlength := congrArg List.length hsplit
  rw [List.length_append, List.length_reverse] at hlength
  rw [List.length_reverse, show s.length - (s.reverse.dropWhile (· == x)).length =
    (s.reverse.takeWhile (· == x)).length by omega, ← List.reverse_replicate, ← hx,
    ← List.reverse_append, hsplit, List.reverse_reverse]

theorem takeFraction?_fractionText (hn : n ≤ 999999999) (hdigits : EndsDigits r)
    (hpoint : ∀ t, r ≠ '.' :: t) :
    takeFraction? ((fractionText n).toList ++ r) = some (n, r) := by
  unfold fractionText
  by_cases hzero : n = 0
  · rw [if_pos hzero, hzero]
    unfold takeFraction?
    split
    · exact absurd ‹_› (hpoint _)
    · rfl
  rw [if_neg hzero, String.toList_append, String.toList_ofList]
  have hback := dropTrailing_append '0' (padNat 9 n).toList
  have hlength : (padNat 9 n).toList.length = 9 := length_padNat (by decide) (by omega)
  have hvalue := digitsValue_padNat 9 n
  have hall := allDigits_padNat 9 n
  generalize (padNat 9 n).toList = nine at *
  generalize dropTrailing '0' nine = shown at *
  have hshown : AllDigits shown := fun c hc =>
    hall c (by rw [← hback]; exact List.mem_append_left _ hc)
  have hne : shown ≠ [] := by
    rintro rfl
    rw [digitsValue_eq hall, ← hback, List.nil_append, Nat.ofDigitChars_replicate_zero] at hvalue
    omega
  rw [String.toList_ofList]
  show takeFraction? ('.' :: (shown ++ r)) = _
  rw [takeFraction?]
  dsimp only
  rw [takeWhile_digits hshown hdigits, if_neg (by simpa using hne), List.drop_left]
  -- zeros behind the digits that are shown fill them up to nine again
  have hnine : (shown ++ List.replicate 9 '0').take 9 = nine := by
    have hle : nine.length - shown.length ≤ 9 := by omega
    rw [← Nat.add_sub_cancel' hle, ← List.replicate_append_replicate, ← List.append_assoc, hback,
      Nat.add_sub_cancel' hle, List.take_left' hlength]
  rw [hnine, hvalue]

theorem takeOffset?_signed {hours minutes : Nat} (hhours : hours ≤ 23) (hminutes : minutes ≤ 59)
    (negative : Bool) :
    takeOffset? ((if negative then '-' else '+') ::
        ((padNat 2 hours).toList ++ ':' :: (padNat 2 minutes).toList)) =
      some (if negative then -((hours * 3600 + minutes * 60 : Nat) : Int)
        else (hours * 3600 + minutes * 60 : Nat)) := by
  have htwo {n : Nat} (hn : n ≤ 59) (r : List Char) :
      takeDigits? 2 ((padNat 2 n).toList ++ r) = some (n, r) :=
    takeDigits?_padNat (by decide) (by omega) r
  have hfirst := htwo (Nat.le_trans hhours (by decide))
  have hsecond := htwo hminutes []
  rw [List.append_nil] at hsecond
  cases negative <;>
    simp [takeOffset?, takeChar?, hfirst, hsecond, hhours, hminutes]

theorem takeOffset?_offsetText {offset : Int} (hhours : offset.natAbs / 3600 < 24)
    (hseconds : offset.natAbs % 60 = 0) : takeOffset? (offsetText offset).toList = some offset := by
  unfold offsetText
  by_cases hzero : offset = 0
  · rw [if_pos hzero, hzero]
    rfl
  rw [if_neg hzero]
  have hhour : offset.natAbs / 3600 ≤ 23 := by omega
  have hminute : offset.natAbs / 60 % 60 ≤ 59 := by omega
  have hread := takeOffset?_signed hhour hminute (offset < 0)
  have hvalue : offset.natAbs / 3600 * 3600 + offset.natAbs / 60 % 60 * 60 = offset.natAbs := by
    omega
  rw [hvalue] at hread
  have hminus : "-".toList = ['-'] := rfl
  have hplus : "+".toList = ['+'] := rfl
  have hcolon : ":".toList = [':'] := rfl
  simp only [String.toList_append, List.append_assoc, hcolon, List.singleton_append]
  by_cases hsign : offset < 0
  · rw [decide_eq_true hsign, if_pos rfl, if_pos rfl] at hread
    rw [if_pos hsign, hminus, List.singleton_append, hread]
    exact congrArg some (by omega)
  · rw [decide_eq_false hsign, if_neg Bool.false_ne_true, if_neg Bool.false_ne_true] at hread
    rw [if_neg hsign, hplus, List.singleton_append, hread]
    exact congrArg some (by omega)

/-- No offset goes on with a digit or a fraction. -/
theorem offsetText_eq_cons (offset : Int) :
    ∃ c r, (offsetText offset).toList = c :: r ∧ (digit? c).isSome = false ∧ c ≠ '.' := by
  unfold offsetText
  split
  · exact ⟨'Z', [], rfl, rfl, by decide⟩
  · simp only [String.toList_append, List.append_assoc]
    split
    · exact ⟨'-', _, rfl, rfl, by decide⟩
    · exact ⟨'+', _, rfl, rfl, by decide⟩

/-! ## Whole texts -/

theorem Moment.clock_le (m : Moment) : m.hour ≤ 23 ∧ m.minute ≤ 59 ∧ m.second ≤ 59 := by
  unfold hour minute second secondOfDay
  omega

theorem Moment.unix_eq (m : Moment) :
    m.date.toDays * 86400 + (m.hour * 3600 + m.minute * 60 + m.second : Nat) - m.offset =
      m.unix := by
  rw [show m.date.toDays = m.localSecond / 86400 from toDays_ofDays _]
  unfold hour minute second secondOfDay localSecond
  omega

theorem bind_eq_of_eq_some {α β : Type} {x : Option α} {f : α → Option β} {a : α} {b : Option β}
    (hx : x = some a) (hf : f a = b) : (x >>= f) = b := by
  rw [hx]
  exact hf

/-- **The text of a moment names that moment.** -/
theorem ofRfc3339?_of_toRfc3339 {m : Moment} (hnanos : m.nanos ≤ 999999999) {text : String}
    (h : m.toRfc3339 = .ok text) : Moment.ofRfc3339? text = some m := by
  unfold Moment.toRfc3339 at h
  dsimp only at h
  split_ifs at h with hyear hhours hseconds
  obtain rfl := Except.ok.inj h
  simp only [Bool.or_eq_true, decide_eq_true_eq, not_or, Int.not_lt] at hyear
  have hvalid : m.date.isValid = true := isValid_ofDays _
  have hbounds := Date.le_of_isValid hvalid
  have hclock := m.clock_le
  obtain ⟨c, r, hoffset, hdigit, hpoint⟩ := offsetText_eq_cons m.offset
  have hfraction := takeFraction?_fractionText (r := (offsetText m.offset).toList) hnanos
    (fun c' r' h => by rw [hoffset] at h; cases h; exact hdigit)
    (fun t h => by rw [hoffset] at h; cases h; exact hpoint rfl)
  have hdash : "-".toList = ['-'] := rfl
  have hcolon : ":".toList = [':'] := rfl
  have hseparator : "T".toList = ['T'] := rfl
  unfold Moment.ofRfc3339?
  simp only [padInt_of_nonneg hyear.1, String.toList_append, List.append_assoc, hdash, hcolon,
    hseparator, List.cons_append, List.nil_append]
  -- part by part
  refine bind_eq_of_eq_some (takeDigits?_padNat (by decide) (by omega) _) ?_
  refine bind_eq_of_eq_some (takeChar?_cons _ _) ?_
  refine bind_eq_of_eq_some (takeDigits?_padNat (by decide) (by omega) _) ?_
  refine bind_eq_of_eq_some (takeChar?_cons _ _) ?_
  refine bind_eq_of_eq_some (takeDigits?_padNat (by decide) (by omega) _) ?_
  refine bind_eq_of_eq_some (takeSeparator?_cons (by decide) _) ?_
  refine bind_eq_of_eq_some (takeDigits?_padNat (by decide) (by omega) _) ?_
  refine bind_eq_of_eq_some (takeChar?_cons _ _) ?_
  refine bind_eq_of_eq_some (takeDigits?_padNat (by decide) (by omega) _) ?_
  refine bind_eq_of_eq_some (takeChar?_cons _ _) ?_
  refine bind_eq_of_eq_some (takeDigits?_padNat (by decide) (by omega) _) ?_
  refine bind_eq_of_eq_some hfraction ?_
  refine bind_eq_of_eq_some
    (takeOffset?_offsetText (Nat.lt_of_not_le hhours) (Decidable.not_not.mp hseconds)) ?_
  have hdate : ({ year := (m.date.year.natAbs : Int), month := m.date.month, day := m.date.day } :
      Date) = m.date := by
    rw [Int.natAbs_of_nonneg hyear.1]
  have hleap : (m.second == 60) = false := by
    rw [beq_eq_false_iff_ne]
    omega
  have hinRange : (m.date.isValid && decide (m.hour ≤ 23) && decide (m.minute ≤ 59) &&
      decide (m.second ≤ 59)) = true := by
    simp only [hvalid, Bool.true_and, Bool.and_eq_true, decide_eq_true_eq]
    exact ⟨⟨hclock.1, hclock.2.1⟩, hclock.2.2⟩
  dsimp only
  rw [hdate, hleap, if_neg Bool.false_ne_true, if_neg Bool.false_ne_true, if_pos hinRange,
    Bool.false_and, if_neg Bool.false_ne_true, m.unix_eq]

/-! ## Moments with a text -/

/-- **The moments that have a text**: the year has four digits and no sign, and the offset is of
whole minutes below a day. -/
theorem exists_toRfc3339_iff (m : Moment) :
    (∃ text, m.toRfc3339 = .ok text) ↔
      0 ≤ m.date.year ∧ m.date.year ≤ 9999 ∧ m.offset.natAbs / 3600 ≤ 23 ∧
        m.offset.natAbs % 60 = 0 := by
  unfold Moment.toRfc3339
  dsimp only
  split_ifs with hyear hhours hseconds <;>
    simp only [Bool.or_eq_true, decide_eq_true_eq, not_or, Int.not_lt] at hyear
  · refine iff_of_false (fun ⟨_, h⟩ => nomatch h) ?_
    omega
  · refine iff_of_false (fun ⟨_, h⟩ => nomatch h) ?_
    omega
  · exact iff_of_false (fun ⟨_, h⟩ => nomatch h) fun h => hseconds h.2.2.2
  · exact iff_of_true ⟨_, rfl⟩ ⟨hyear.1, hyear.2, by omega, Decidable.not_not.mp hseconds⟩

/-- The moment has a text, and its nanoseconds are less than a second. -/
structure Moment.Encodable (m : Moment) : Prop where
  nanos_le : m.nanos ≤ 999999999
  exists_text : ∃ text, m.toRfc3339 = .ok text

theorem Moment.Encodable.year_bounds {m : Moment} (h : m.Encodable) :
    0 ≤ m.date.year ∧ m.date.year ≤ 9999 := by
  obtain ⟨hle, hlt, -⟩ := (exists_toRfc3339_iff m).mp h.exists_text
  exact ⟨hle, hlt⟩

end GuestVault.Time
