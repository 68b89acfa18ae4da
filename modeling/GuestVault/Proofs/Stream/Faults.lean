import GuestVault.Proofs.Stream.Rooms

/-!
# Output with a fault

Output that has an error other than an interruption before its end never comes to a clean end. What
such readers have in common is `NeverEnds`: each read fails, or takes some bytes, or is interrupted,
and the reader stays one of them. Reading to the end then fails (`NeverEnds.readToEnd`).
-/

namespace GuestVault

section
variable {ρ : Type} [ByteSource ρ] {P : ρ → Prop} {r r' : ρ} {bytes : Bytes}

/-- A reader of this kind is never told that there is no more. -/
structure NeverEnds (P : ρ → Prop) : Prop where
  reads : ∀ {n r}, n ≠ 0 → P r →
    (∃ e r', ByteSource.read n r = (.error e, r') ∧ e.isInterrupted = false) ∨
      ReadsOn (ByteSource.read n r).1 ∧ P (ByteSource.read n r).2 ∧
        ByteSource.bound (ByteSource.read n r).2 < ByteSource.bound r
  bound_pos : ∀ {r}, P r → 0 < ByteSource.bound r

theorem NeverEnds.readOn (h : NeverEnds P) {fuel : Nat} (hr : P r)
    (hfuel : ByteSource.bound r ≤ fuel) : ∃ e, (readOn fuel r).1 = .error e := by
  induction fuel generalizing r with
  | zero => exact absurd hfuel (Nat.not_le_of_lt (h.bound_pos hr))
  | succ fuel ih =>
    rcases h.reads (show pieceSize ≠ 0 by decide) hr with ⟨e, r', hread, hint⟩ | ⟨hon, hnext, hless⟩
    · refine ⟨e, ?_⟩
      rw [readOn_of_not_readsOn fuel (by rw [hread]; simp [ReadsOn, hint]), hread]
      rfl
    · rw [(readOn_of_readsOn fuel hon).1]
      exact ih hnext (by omega)

/-- **Reading to the end fails.** -/
theorem NeverEnds.readToEnd (h : NeverEnds P) (hr : P r) :
    ∃ e data r', readToEnd r = (.error e, data, r') := by
  obtain ⟨e, he⟩ := h.readOn hr (Nat.le_refl _)
  exact ⟨e, _, _, Prod.ext he rfl⟩

theorem NeverEnds.readUpToOn (h : NeverEnds P) {fuel n : Nat} (hr : P r)
    (hread : readUpToOn fuel n r = (.ok bytes, r')) : P r' := by
  induction fuel generalizing n r bytes with
  | zero =>
    cases hread
    exact hr
  | succ fuel ih =>
    unfold GuestVault.readUpToOn at hread
    by_cases hn : n = 0
    · rw [if_pos hn] at hread
      cases hread
      exact hr
    rw [if_neg hn] at hread
    rcases h.reads hn hr with ⟨e, r₁, hnext, hint⟩ | ⟨hon, hkept, -⟩
    · rw [hnext] at hread
      dsimp only at hread
      rw [if_neg (by rw [hint]; exact Bool.false_ne_true)] at hread
      cases hread
    rcases hnext : ByteSource.read n r with ⟨e | (_ | ⟨b, bs⟩), r₁⟩
    · rw [hnext] at hread hon hkept
      dsimp only at hread
      rw [if_pos (show e.isInterrupted = true from hon)] at hread
      exact ih hkept hread
    · rw [hnext] at hon
      exact absurd rfl hon
    · rw [hnext] at hread hkept
      dsimp only at hread
      rcases hmore : GuestVault.readUpToOn fuel (n - (bs.length + 1)) r₁ with ⟨e | more, r₂⟩
      · rw [hmore] at hread
        cases hread
      · rw [hmore] at hread
        cases hread
        exact ih hkept hmore

end

namespace StreamHandle

/-- The handle is left to itself, and its output has a fault. -/
def Faulty (h : StreamHandle) : Prop :=
  h.Waiting ∧ h.stdout.fault?.isSome

theorem neverEnds_faulty : NeverEnds Faulty where
  reads := by
    rintro n h hn ⟨hw, hfault⟩
    have hread : ByteSource.read n h = h.read n := rfl
    rw [hread, read_of_open hw.1]
    rcases Script.read_cases hn h.stdout with
      ⟨-, hnone, -⟩ | ⟨e, stdout, hnext, hfails⟩ | ⟨b, bs, stdout, htakes, -, -, hsame, hless⟩
    · rw [hnone] at hfault
      cases hfault
    · rw [hfails]
      dsimp only
      rw [if_neg (by rw [hw.2]; exact Bool.false_ne_true)]
      cases hint : e.isInterrupted with
      | false => exact Or.inl ⟨e, _, rfl, hint⟩
      | true =>
        rw [hnext, Script.fault?, if_pos hint] at hfault
        refine Or.inr ⟨hint, ⟨hw, hfault⟩, ?_⟩
        show Script.bound stdout + 2 < h.stdout.bound + 2
        rw [hnext]
        exact Nat.lt_succ_self _
    · rw [htakes]
      dsimp only
      rw [if_neg fun hnil => List.cons_ne_nil _ _ hnil.1]
      refine Or.inr ⟨List.cons_ne_nil b bs, ⟨hw, ?_⟩, Nat.add_lt_add_right hless 2⟩
      exact hsame ▸ hfault
  bound_pos _ := Nat.succ_pos _

end StreamHandle

end GuestVault
