import GuestVault.Text.Lower

/-!
# Phrases in lower case

A search for an ASCII phrase does not need to know all of lower case. `Lowered` has what the tables of
Unicode say of it and what bears on ASCII: `A` to `Z` are lowered among themselves, the Kelvin sign
and the dotted capital I give ASCII letters, and all other characters give others, at least one each,
in a way that may depend on where they stand. `infix_iff_of_lowered`: a phrase occurs in such a text
exactly if it occurs where `lower` leaves all others alone.
-/

namespace GuestVault.Text

theorem occursIn_iff {part s : List Char} : occursIn part s = true ↔ part <:+: s := by
  induction s with
  | nil => simp [occursIn]
  | cons c s ih => simp [occursIn, List.infix_cons_iff, ih]

/-- The second text is the first one in lower case. -/
inductive Lowered : List Char → List Char → Prop where
  | nil : Lowered [] []
  | ascii {c : Char} {s t : List Char} (hc : c.toNat < 128) (h : Lowered s t) :
    Lowered (c :: s) (c.toLower :: t)
  | kelvin {s t : List Char} (h : Lowered s t) : Lowered ('\u212a' :: s) ('k' :: t)
  | dottedI {s t : List Char} (h : Lowered s t) : Lowered ('\u0130' :: s) ('i' :: '\u0307' :: t)
  /-- One of the others. -/
  | other {c : Char} {block s t : List Char} (hc : 128 ≤ c.toNat) (hkelvin : c ≠ '\u212a')
      (hdotted : c ≠ '\u0130') (hne : block ≠ []) (hblock : ∀ d ∈ block, 128 ≤ d.toNat)
      (h : Lowered s t) : Lowered (c :: s) (block ++ t)

theorem lower_cons (c : Char) (s : List Char) : lower (c :: s) = lowerChar c ++ lower s :=
  List.flatMap_cons

theorem lowerChar_of_ascii {c : Char} (hc : c.toNat < 128) : lowerChar c = [c.toLower] := by
  unfold lowerChar
  rw [if_neg, if_neg]
  · rintro rfl
    exact absurd hc (by decide)
  · rintro rfl
    exact absurd hc (by decide)

theorem lowerChar_of_other {c : Char} (hc : 128 ≤ c.toNat) (hkelvin : c ≠ '\u212a')
    (hdotted : c ≠ '\u0130') : lowerChar c = [c] := by
  have hlower : c.toLower = c := by
    unfold Char.toLower
    rw [dif_neg]
    rintro ⟨-, hle⟩
    have : c.toNat ≤ 90 := hle
    omega
  unfold lowerChar
  rw [if_neg hkelvin, if_neg hdotted, hlower]

theorem lowered_lower (s : List Char) : Lowered s (lower s) := by
  induction s with
  | nil => exact .nil
  | cons c s ih =>
    rw [lower_cons]
    by_cases hc : c.toNat < 128
    · rw [lowerChar_of_ascii hc]
      exact .ascii hc ih
    · by_cases hkelvin : c = '\u212a'
      · subst hkelvin
        exact .kelvin ih
      · by_cases hdotted : c = '\u0130'
        · subst hdotted
          exact .dottedI ih
        · have hother := lowerChar_of_other (Nat.le_of_not_lt hc) hkelvin hdotted
          rw [hother]
          exact .other (Nat.le_of_not_lt hc) hkelvin hdotted (by simp) (by simp; omega) ih

section Phrase

variable {phrase s t : List Char} (hphrase : ∀ c ∈ phrase, c.toNat < 128)

include hphrase

theorem not_prefix_of_other {c : Char} (hc : 128 ≤ c.toNat) (hne : phrase ≠ []) :
    ¬ phrase <+: c :: t := by
  cases phrase with
  | nil => exact absurd rfl hne
  | cons p phrase =>
    intro h
    obtain ⟨rfl, -⟩ := List.cons_prefix_cons.mp h
    have := hphrase p (by simp)
    omega

theorem infix_block_iff {block : List Char} (hblock : ∀ d ∈ block, 128 ≤ d.toNat)
    (hne : phrase ≠ []) : phrase <:+: block ++ t ↔ phrase <:+: t := by
  induction block with
  | nil => rfl
  | cons d block ih =>
    have hd := hblock d (by simp)
    rw [List.cons_append, List.infix_cons_iff, ih fun d' h => hblock d' (by simp [h])]
    exact or_iff_right (not_prefix_of_other hphrase hd hne)

theorem prefix_iff_of_lowered (h : Lowered s t) : phrase <+: t ↔ phrase <+: lower s := by
  induction h generalizing phrase with
  | nil => rfl
  | ascii hc _ ih =>
    rw [lower_cons, lowerChar_of_ascii hc]
    cases phrase with
    | nil => simp
    | cons p phrase =>
      have htail : ∀ c ∈ phrase, c.toNat < 128 := fun c h => hphrase c (by simp [h])
      have ih := ih htail
      simp [List.cons_prefix_cons, ih]
  | kelvin _ ih =>
    cases phrase with
    | nil => simp
    | cons p phrase =>
      have htail : ∀ c ∈ phrase, c.toNat < 128 := fun c h => hphrase c (by simp [h])
      have ih := ih htail
      simp [lower_cons, lowerChar, List.cons_prefix_cons, ih]
  | dottedI _ ih =>
    rcases phrase with _ | ⟨p, _ | ⟨q, phrase⟩⟩
    · simp
    · simp [lower_cons, lowerChar, List.cons_prefix_cons]
    · have htail : ∀ c ∈ phrase, c.toNat < 128 := fun c h => hphrase c (by simp [h])
      have ih := ih htail
      simp [lower_cons, lowerChar, List.cons_prefix_cons, ih]
  | @other c block s t hc hkelvin hdotted hne hblock _ ih =>
    rw [lower_cons, lowerChar_of_other hc hkelvin hdotted]
    by_cases hnil : phrase = []
    · simp [hnil]
    · obtain ⟨d, block, rfl⟩ := List.exists_cons_of_ne_nil hne
      have hd := hblock d (by simp)
      exact iff_of_false (not_prefix_of_other hphrase hd hnil)
        (not_prefix_of_other hphrase hc hnil)

omit hphrase in
theorem infix_cons_congr {c : Char} {t t' : List Char}
    (hfront : phrase <+: c :: t ↔ phrase <+: c :: t') (hrest : phrase <:+: t ↔ phrase <:+: t') :
    phrase <:+: c :: t ↔ phrase <:+: c :: t' := by
  rw [List.infix_cons_iff, List.infix_cons_iff, hfront, hrest]

/-- **An ASCII phrase is found in lower case** whatever becomes of all other characters. -/
theorem infix_iff_of_lowered (h : Lowered s t) : phrase <:+: t ↔ phrase <:+: lower s := by
  by_cases hnil : phrase = []
  · simp [hnil]
  induction h with
  | nil => rfl
  | ascii hc h ih =>
    have hfront := prefix_iff_of_lowered hphrase (h.ascii hc)
    rw [lower_cons, lowerChar_of_ascii hc] at hfront ⊢
    exact infix_cons_congr hfront ih
  | kelvin h ih =>
    have hfront := prefix_iff_of_lowered hphrase h.kelvin
    rw [lower_cons, show lowerChar '\u212a' = ['k'] from rfl] at hfront ⊢
    exact infix_cons_congr hfront ih
  | @dottedI s t h ih =>
    have hfront := prefix_iff_of_lowered hphrase h.dottedI
    rw [lower_cons, show lowerChar '\u0130' = ['i', '\u0307'] from rfl] at hfront ⊢
    -- no phrase has the dot
    have hdot (t : List Char) : phrase <:+: ['\u0307'] ++ t ↔ phrase <:+: t :=
      infix_block_iff hphrase (List.forall_mem_singleton.mpr (by decide)) hnil
    exact infix_cons_congr hfront ((hdot t).trans (ih.trans (hdot (lower s)).symm))
  | other hc hkelvin hdotted hne hblock h ih =>
    rw [lower_cons, lowerChar_of_other hc hkelvin hdotted]
    rw [infix_block_iff hphrase hblock hnil, ih, infix_block_iff hphrase (by simp [hc]) hnil]

end Phrase

end GuestVault.Text
