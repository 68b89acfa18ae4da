import GuestVault.Stream.Handle

/-!
# What a script delivers

A script ends at its first read of no bytes. `Script.delivered` is all that comes before this end,
if errors are passed over, and `Script.deliveredUntilFault` what comes before the first error that
is no mere interruption. One read takes its bytes off the front (`delivered_read`), and reading to
the end gives exactly the bytes before the first such error (`readToEnd_script`).
-/

namespace GuestVault

/-- The bytes that a read gave. -/
def bytesRead : Except IoError Bytes → Bytes
  | .ok bytes => bytes
  | .error _ => []

section
variable {ρ : Type} [ByteSource ρ] {r : ρ} (fuel : Nat)

/-- Reading to the end goes on after a read that took some bytes, or was merely interrupted. -/
def ReadsOn : Except IoError Bytes → Prop
  | .ok bytes => bytes ≠ []
  | .error e => e.isInterrupted = true

theorem readOn_of_readsOn (h : ReadsOn (ByteSource.read pieceSize r).1) :
    (readOn (fuel + 1) r).1 = (readOn fuel (ByteSource.read pieceSize r).2).1 ∧
      (readOn (fuel + 1) r).2.2 = (readOn fuel (ByteSource.read pieceSize r).2).2.2 := by
  rw [readOn]
  generalize ByteSource.read pieceSize r = result at h ⊢
  rcases result with ⟨e | (_ | ⟨b, bs⟩), rest⟩
  · have hint : e.isInterrupted = true := h
    dsimp only
    rw [if_pos hint]
    exact ⟨rfl, rfl⟩
  · exact absurd rfl h
  · exact ⟨rfl, rfl⟩

theorem readOn_of_not_readsOn (h : ¬ ReadsOn (ByteSource.read pieceSize r).1) :
    readOn (fuel + 1) r =
      ((ByteSource.read pieceSize r).1.map fun _ => (), [], (ByteSource.read pieceSize r).2) := by
  rw [readOn]
  generalize ByteSource.read pieceSize r = result at h ⊢
  rcases result with ⟨e | (_ | ⟨b, bs⟩), rest⟩
  · have hint : ¬ e.isInterrupted = true := h
    dsimp only
    rw [if_neg hint]
    rfl
  · rfl
  · exact absurd (List.cons_ne_nil b bs) h

end

namespace Script

/-- The bytes before the end, whatever errors lie between them. -/
def delivered : Script → Bytes
  | [] => []
  | .fail _ :: r => delivered r
  | .data [] :: _ => []
  | .data (b :: bs) :: r => b :: bs ++ delivered r

/-- The bytes before the end or the first error that is no mere interruption. -/
def deliveredUntilFault : Script → Bytes
  | [] => []
  | .fail e :: r => if e.isInterrupted then deliveredUntilFault r else []
  | .data [] :: _ => []
  | .data (b :: bs) :: r => b :: bs ++ deliveredUntilFault r

/-- The first error before the end that is no mere interruption. -/
def fault? : Script → Option IoError
  | [] => none
  | .fail e :: r => if e.isInterrupted then fault? r else some e
  | .data [] :: _ => none
  | .data (_ :: _) :: r => fault? r

variable {n : Nat} {s s' : Script}

theorem delivered_eq (hfault : s.fault? = none) :
    s.delivered = s.deliveredUntilFault := by
  induction s with
  | nil => rfl
  | cons item r ih =>
    rcases item with (_ | ⟨b, bs⟩) | e
    · rfl
    · simp only [delivered, deliveredUntilFault]
      rw [ih hfault]
    · simp only [fault?, deliveredUntilFault, delivered] at hfault ⊢
      cases hint : e.isInterrupted with
      | false => simp [hint] at hfault
      | true =>
        simp only [hint, if_true] at hfault ⊢
        exact ih hfault

/-! ## One read -/

/-- A read with room for a byte finds the end, an error, or some bytes that were due. -/
theorem read_cases (hn : n ≠ 0) (s : Script) :
    (s.delivered = [] ∧ s.fault? = none ∧ s.deliveredUntilFault = [] ∧ (s.read n).1 = .ok []) ∨
    (∃ e r, s = .fail e :: r ∧ s.read n = (.error e, r)) ∨
    ∃ b bs r, s.read n = (.ok (b :: bs), r) ∧ s.delivered = b :: bs ++ r.delivered ∧
      s.deliveredUntilFault = b :: bs ++ r.deliveredUntilFault ∧ s.fault? = r.fault? ∧
      r.bound < s.bound := by
  rcases s with _ | ⟨bytes | e, r⟩
  · exact Or.inl ⟨rfl, rfl, rfl, rfl⟩
  · rcases bytes with _ | ⟨b, bs⟩
    · refine Or.inl ⟨rfl, rfl, rfl, ?_⟩
      simp [Script.read]
    right; right
    by_cases hfits : (b :: bs).length ≤ n
    · refine ⟨b, bs, r, ?_, rfl, rfl, rfl, ?_⟩
      · rw [Script.read, if_pos hfits]
      · simp only [bound, List.length_cons]
        omega
    -- only the front of the piece is taken
    obtain ⟨m, rfl⟩ := Nat.exists_eq_succ_of_ne_zero hn
    obtain ⟨c, cs, hrest⟩ : ∃ c cs, bs.drop m = c :: cs := by
      refine List.exists_cons_of_ne_nil fun h => hfits ?_
      have hlength := List.drop_eq_nil_iff.mp h
      simp only [List.length_cons]
      omega
    have hsplit : b :: bs = b :: bs.take m ++ c :: cs := by
      rw [← hrest, List.cons_append, List.take_append_drop]
    refine ⟨b, bs.take m, .data (c :: cs) :: r, ?_, ?_, ?_, rfl, ?_⟩
    · rw [Script.read, if_neg hfits, List.take_succ_cons, List.drop_succ_cons, hrest]
    · simp only [delivered]
      rw [hsplit, List.append_assoc]
    · simp only [deliveredUntilFault]
      rw [hsplit, List.append_assoc]
    · have hlength := congrArg List.length hrest
      simp only [bound, List.length_drop, List.length_cons] at hlength ⊢
      omega
  · exact Or.inr (Or.inl ⟨e, r, rfl, rfl⟩)

/-! ## Reading to the end -/

theorem bound_pos (s : Script) : 0 < s.bound := by
  rcases s with _ | ⟨_ | _, r⟩
  · exact Nat.one_pos
  · exact Nat.succ_pos _
  · exact Nat.succ_pos _

theorem readOn_script {fuel : Nat} (hfuel : s.bound ≤ fuel) :
    (readOn fuel s).2.1 = s.deliveredUntilFault ∧
      (readOn fuel s).1 = (match s.fault? with | none => .ok () | some e => .error e) := by
  have hread (s : Script) : ByteSource.read pieceSize s = s.read pieceSize := rfl
  induction fuel generalizing s with
  | zero => exact absurd hfuel (Nat.not_le_of_lt s.bound_pos)
  | succ fuel ih =>
    unfold readOn
    rw [hread]
    rcases read_cases (show pieceSize ≠ 0 by decide) s with
      ⟨-, hfault, hempty, hend⟩ | ⟨e, r, rfl, herror⟩ | ⟨b, bs, r, hpiece, -, hbytes, hfault, hless⟩
    · rw [hfault, hempty]
      rcases hpiece : s.read pieceSize with ⟨result, r⟩
      rw [hpiece] at hend
      obtain rfl : result = .ok [] := hend
      exact ⟨rfl, rfl⟩
    · rw [herror]
      simp only [bound, deliveredUntilFault, fault?] at hfuel ⊢
      by_cases hint : e.isInterrupted = true
      · simp only [if_pos hint]
        exact ih (by omega)
      · simp [hint]
    · obtain ⟨hmore, hresult⟩ := ih (s := r) (by omega)
      rw [hpiece, hbytes, hfault, ← hresult, ← hmore]
      exact ⟨rfl, rfl⟩

/-- **Reading a script to the end gives the bytes before its first error, and that error.** -/
theorem readToEnd_script (s : Script) :
    (readToEnd s).2.1 = s.deliveredUntilFault ∧
      (readToEnd s).1 = (match s.fault? with | none => .ok () | some e => .error e) :=
  readOn_script (Nat.le_refl _)

end Script

/-- The diagnostic output of a process is all that it says before its first error, trimmed. -/
theorem StreamHandle.diagnosticOf_eq (stderr : Script) :
    diagnosticOf stderr = Text.trim (Text.lossy stderr.deliveredUntilFault) := by
  unfold diagnosticOf
  rw [(Script.readToEnd_script stderr).1]

end GuestVault
