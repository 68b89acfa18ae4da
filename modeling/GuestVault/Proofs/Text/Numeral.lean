import GuestVault.Proofs.Text.Digits

/-!
# Numerals

A numeral is a text of ASCII digits. An unsigned number is read from exactly the numerals, perhaps
behind one plus sign, whose value is within the bound (`readNumber_eq_ok_iff`); so a text is one
number at most (`IsNumber.unique`).
-/

namespace GuestVault.Text

variable {s : List Char} {bound acc n n' : Nat}

/-- A text of ASCII digits, and at least one of them. -/
def IsNumeral (s : List Char) : Prop :=
  s ≠ [] ∧ ∀ c ∈ s, c.isDigit = true

/-- The number that a numeral stands for. -/
def numeralValue (s : List Char) : Nat :=
  Nat.ofDigitChars 10 s 0

theorem isSome_digit?_iff (c : Char) : (digit? c).isSome = true ↔ c.isDigit = true := by
  refine ⟨fun h => ?_, isSome_digit?⟩
  unfold digit? at h
  split at h
  · assumption
  · cases h

theorem IsNumeral.allDigits (h : IsNumeral s) : AllDigits s :=
  fun c hc => isSome_digit? (h.2 c hc)

theorem isNumeral_iff : IsNumeral s ↔ s ≠ [] ∧ AllDigits s :=
  and_congr_right fun _ => forall₂_congr fun c _ => (isSome_digit?_iff c).symm

theorem IsNumeral.digitsValue_eq (h : IsNumeral s) : digitsValue s = numeralValue s :=
  Text.digitsValue_eq h.allDigits

theorem allDigits_takeWhile (s : List Char) :
    AllDigits (s.takeWhile fun c => (digit? c).isSome) :=
  List.all_eq_true.mp List.all_takeWhile

/-! ## Numbers within a bound -/

/-- The text is a numeral of a number within a bound; one plus sign may precede it. -/
def IsNumber (bound : Nat) (s : List Char) (n : Nat) : Prop :=
  ∃ digits, (s = digits ∨ s = '+' :: digits) ∧ IsNumeral digits ∧ numeralValue digits = n ∧ n ≤ bound

theorem le_ofDigitChars (acc : Nat) (s : List Char) : acc ≤ Nat.ofDigitChars 10 s acc := by
  rw [Nat.ofDigitChars_eq_ofDigitChars_zero]
  have hpower : 0 < 10 ^ s.length := Nat.pow_pos (by decide)
  exact Nat.le_trans (Nat.le_mul_of_pos_left acc hpower) (Nat.le_add_right _ _)

/-- Digits are read to their end exactly if the whole number is within the bound: a number that is
too large at some digit stays so. -/
theorem readDigits_eq_ok_iff (hacc : acc ≤ bound) :
    readDigits bound acc s = .ok n ↔ AllDigits s ∧ Nat.ofDigitChars 10 s acc = n ∧ n ≤ bound := by
  induction s generalizing acc with
  | nil =>
    rw [readDigits, Nat.ofDigitChars_nil]
    constructor
    · rintro ⟨⟩
      exact ⟨nofun, rfl, hacc⟩
    · rintro ⟨-, rfl, -⟩
      rfl
  | cons c s ih =>
    have hall : AllDigits (c :: s) ↔ (digit? c).isSome = true ∧ AllDigits s := List.forall_mem_cons
    rw [readDigits, hall]
    cases hdigit : digit? c with
    | none => exact iff_of_false nofun fun h => Bool.false_ne_true h.1.1
    | some d =>
      obtain rfl : c.toNat - 48 = d :=
        Option.some.inj ((digit?_eq_some (by rw [hdigit]; rfl)).symm.trans hdigit)
      have hnext : Nat.ofDigitChars 10 (c :: s) acc =
          Nat.ofDigitChars 10 s (acc * 10 + (c.toNat - 48)) := by
        rw [Nat.ofDigitChars_cons, Nat.mul_comm]
        rfl
      dsimp only
      rw [hnext]
      split
      · rw [ih ‹_›]
        exact and_congr_left fun _ => ⟨fun h => ⟨rfl, h⟩, And.right⟩
      · refine iff_of_false nofun ?_
        rintro ⟨-, rfl, hle⟩
        exact absurd (Nat.le_trans (le_ofDigitChars _ s) hle) ‹_›

/-- **A number is read exactly from its numerals.** -/
theorem readNumber_eq_ok_iff : readNumber bound s = .ok n ↔ IsNumber bound s n := by
  have hread {digits : List Char} (hne : digits ≠ []) : readDigits bound 0 digits = .ok n ↔
      IsNumeral digits ∧ numeralValue digits = n ∧ n ≤ bound := by
    rw [readDigits_eq_ok_iff (Nat.zero_le bound), isNumeral_iff, and_iff_right hne]
    rfl
  -- a numeral does not begin with a plus sign
  have hplus {r : List Char} : ¬ IsNumeral ('+' :: r) := fun h =>
    absurd (h.2 '+' List.mem_cons_self) (by decide)
  unfold readNumber
  split
  · refine iff_of_false nofun ?_
    rintro ⟨digits, rfl | hcons, hnumeral, -⟩
    · exact hnumeral.1 rfl
    · cases hcons
  · refine iff_of_false nofun ?_
    rintro ⟨digits, rfl | hcons, hnumeral, -⟩
    · exact hplus hnumeral
    · cases hcons
      exact hnumeral.1 rfl
  · rename_i r hne
    rw [hread hne]
    constructor
    · exact fun h => ⟨r, Or.inr rfl, h⟩
    · rintro ⟨digits, rfl | hcons, h⟩
      · exact absurd h.1 hplus
      · cases hcons
        exact h
  · rename_i hnil hlone hsigned
    rw [hread hnil]
    constructor
    · exact fun h => ⟨s, Or.inl rfl, h⟩
    · rintro ⟨digits, rfl | rfl, h⟩
      · exact h
      · exact absurd rfl (hsigned digits)

theorem IsNumber.unique (h : IsNumber bound s n) (h' : IsNumber bound s n') : n = n' :=
  Except.ok.inj ((readNumber_eq_ok_iff.mpr h).symm.trans (readNumber_eq_ok_iff.mpr h'))

end GuestVault.Text
