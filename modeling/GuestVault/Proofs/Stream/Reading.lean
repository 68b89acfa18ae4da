import GuestVault.Proofs.Stream.Moves

/-!
# Reading what is due

What a reader has still to deliver can be told from its state. A `Delivery` is such an account,
kept by every read: it takes some bytes off the front, or is interrupted, or finds the end. Then
reading to the end, and reading a number of bytes, are what they should be
(`Delivery.readToEnd`, `Delivery.readUpTo`). Two readers have one: those of some given bytes
(`delivery_holding`), and a command that is left to end by itself (`StreamHandle.delivery_due`).
-/

namespace GuestVault

/-- What a read finds at the end: no more bytes, or an error. -/
def endOf : Except IoError Unit → Except IoError Bytes
  | .ok () => .ok []
  | .error e => .error e

variable {ρ : Type} [ByteSource ρ]

/-- One read finds the end, is interrupted, or takes some bytes that were due; all but the first
bring the end nearer. -/
def ReadsDue (Due : ρ → Bytes → Prop) (Ended : ρ → Prop) (stop : Except IoError Unit) (n : Nat)
    (r : ρ) (due : Bytes) : Prop :=
  (due = [] ∧ ∃ r', ByteSource.read n r = (endOf stop, r') ∧ Due r' [] ∧ Ended r') ∨
  (∃ e r', ByteSource.read n r = (.error e, r') ∧ e.isInterrupted = true ∧ Due r' due ∧
    ByteSource.bound r' < ByteSource.bound r) ∨
  ∃ b bs more r', ByteSource.read n r = (.ok (b :: bs), r') ∧ due = b :: bs ++ more ∧
    bs.length < n ∧ Due r' more ∧ ByteSource.bound r' < ByteSource.bound r

/-- An account of what a reader has still to deliver, and of the end that comes after it. -/
structure Delivery (Due : ρ → Bytes → Prop) (Ended : ρ → Prop) (stop : Except IoError Unit) :
    Prop where
  reads : ∀ {n r due}, n ≠ 0 → Due r due → ReadsDue Due Ended stop n r due
  bound_pos : ∀ {r due}, Due r due → 0 < ByteSource.bound r
  stop_final : ∀ e, stop = .error e → e.isInterrupted = false

namespace Delivery

variable {Due : ρ → Bytes → Prop} {Ended : ρ → Prop} {stop : Except IoError Unit} {r : ρ}
  {due : Bytes}

/-- Reads with enough fuel give all that is due, and the end. -/
theorem readOn (h : Delivery Due Ended stop) {fuel : Nat} (hr : Due r due)
    (hfuel : ByteSource.bound r ≤ fuel) :
    ∃ r', GuestVault.readOn fuel r = (stop, due, r') ∧ Due r' [] ∧ Ended r' := by
  induction fuel generalizing r due with
  | zero => exact absurd hfuel (Nat.not_le_of_lt (h.bound_pos hr))
  | succ fuel ih =>
    unfold GuestVault.readOn
    rcases h.reads (show pieceSize ≠ 0 by decide) hr with
      ⟨rfl, r', hread, hdue, hended⟩ | ⟨e, r', hread, hint, hdue, hless⟩ |
        ⟨b, bs, more, r', hread, rfl, -, hdue, hless⟩
    · refine ⟨r', ?_, hdue, hended⟩
      rw [hread]
      rcases stop with e | ⟨⟩
      · dsimp only [endOf]
        rw [if_neg (by rw [h.stop_final e rfl]; exact Bool.false_ne_true)]
      · rfl
    · obtain ⟨r'', hmore, hend⟩ := ih hdue (by omega)
      refine ⟨r'', ?_, hend⟩
      rw [hread]
      dsimp only
      rw [if_pos hint, hmore]
    · obtain ⟨r'', hmore, hend⟩ := ih hdue (by omega)
      refine ⟨r'', ?_, hend⟩
      rw [hread]
      dsimp only
      rw [hmore]

/-- **Reading to the end gives all that is due, and the end.** -/
theorem readToEnd (h : Delivery Due Ended stop) (hr : Due r due) :
    ∃ r', GuestVault.readToEnd r = (stop, due, r') ∧ Due r' [] ∧ Ended r' :=
  h.readOn hr (Nat.le_refl _)

theorem readUpToOn (h : Delivery Due Ended stop) {fuel n : Nat} (hr : Due r due)
    (hfuel : ByteSource.bound r ≤ fuel) :
    ∃ r', GuestVault.readUpToOn fuel n r =
        (if due.length < n then stop.map fun () => due else .ok (due.take n), r') ∧
      Due r' (due.drop n) := by
  induction fuel generalizing r due n with
  | zero => exact absurd hfuel (Nat.not_le_of_lt (h.bound_pos hr))
  | succ fuel ih =>
    unfold GuestVault.readUpToOn
    by_cases hn : n = 0
    · subst hn
      rw [if_pos rfl, if_neg (Nat.not_lt_zero _), List.take_zero, List.drop_zero]
      exact ⟨r, rfl, hr⟩
    rw [if_neg hn]
    rcases h.reads hn hr with ⟨rfl, r', hread, hdue, -⟩ | ⟨e, r', hread, hint, hdue, hless⟩ |
      ⟨b, bs, more, r', hread, rfl, hroom, hdue, hless⟩
    · refine ⟨r', ?_, by rwa [List.drop_nil]⟩
      rw [hread, if_pos (by exact Nat.pos_of_ne_zero hn)]
      rcases stop with e | ⟨⟩
      · dsimp only [endOf]
        rw [if_neg (by rw [h.stop_final e rfl]; exact Bool.false_ne_true)]
        rfl
      · rfl
    · obtain ⟨r'', hmore, hrest⟩ := ih hdue (by omega)
      refine ⟨r'', ?_, hrest⟩
      rw [hread]
      dsimp only
      rw [if_pos hint, hmore]
    · obtain ⟨r'', hmore, hrest⟩ := ih (n := n - (bs.length + 1)) hdue (by omega)
      have hlength : (b :: bs).length = bs.length + 1 := rfl
      have htake : (b :: bs).take n = b :: bs := List.take_of_length_le (by rw [hlength]; omega)
      have hdrop : (b :: bs).drop n = [] := List.drop_of_length_le (by rw [hlength]; omega)
      refine ⟨r'', ?_, ?_⟩
      · rw [hread]
        dsimp only
        rw [hmore]
        by_cases hshort : more.length < n - (bs.length + 1)
        · rw [if_pos hshort, if_pos (by rw [List.length_append, hlength]; omega)]
          rcases stop with e | ⟨⟩
          · rfl
          · rfl
        · rw [if_neg hshort, if_neg (by rw [List.length_append, hlength]; omega)]
          dsimp only
          rw [List.take_append, hlength, htake]
      · rwa [List.drop_append, hlength, hdrop, List.nil_append]

/-- **Reading a number of bytes gives as many, or all that is due and the end.** -/
theorem readUpTo (h : Delivery Due Ended stop) (hr : Due r due) (n : Nat) :
    ∃ r', GuestVault.readUpTo n r =
        (if due.length < n then stop.map fun () => due else .ok (due.take n), r') ∧
      Due r' (due.drop n) :=
  h.readUpToOn hr (Nat.le_refl _)

end Delivery

/-! ## Readers of given bytes -/

namespace Script

/-- A reader of some bytes, as far as it was read. -/
def Holding (s : Script) (due : Bytes) : Prop :=
  s = ofBytes due ∨ s = [] ∧ due = []

theorem holding_ofBytes (bytes : Bytes) : Holding (ofBytes bytes) bytes :=
  Or.inl rfl

theorem delivery_holding : Delivery Holding (fun _ => True) (.ok ()) where
  reads := by
    intro n s due hn hs
    have hempty : (Holding [] [] ∧ True) := ⟨Or.inr ⟨rfl, rfl⟩, trivial⟩
    rcases hs with rfl | ⟨rfl, rfl⟩
    · rcases due with _ | ⟨b, bs⟩
      · refine Or.inl ⟨rfl, [], ?_, hempty⟩
        show Script.read n [.data []] = (.ok [], [])
        rw [Script.read, if_pos (show ([] : Bytes).length ≤ n from Nat.zero_le n)]
      · obtain ⟨n, rfl⟩ := Nat.exists_eq_succ_of_ne_zero hn
        by_cases hfits : (b :: bs).length ≤ n + 1
        · refine Or.inr (Or.inr ⟨b, bs, [], [], if_pos hfits, (List.append_nil _).symm, ?_,
            hempty.1, ?_⟩)
          · exact hfits
          · show 1 < (b :: bs).length + 1 + 1
            exact Nat.lt_add_of_pos_left (Nat.succ_pos _)
        · refine Or.inr (Or.inr ⟨b, bs.take n, bs.drop n, ofBytes (bs.drop n), if_neg hfits, ?_, ?_,
            Or.inl rfl, ?_⟩)
          · rw [List.cons_append, List.take_append_drop]
          · exact Nat.lt_succ_of_le (List.length_take_le _ _)
          · show (bs.drop n).length + 1 + 1 < (b :: bs).length + 1 + 1
            rw [List.length_drop, List.length_cons]
            omega
    · exact Or.inl ⟨rfl, [], rfl, hempty⟩
  bound_pos _ := bound_pos _
  stop_final := nofun

theorem length_read_le {n : Nat} {s : Script} {bytes : Bytes} (h : (s.read n).1 = .ok bytes) :
    bytes.length ≤ n := by
  unfold Script.read at h
  split at h
  · cases h
    exact Nat.zero_le _
  · cases h
  · split at h
    · cases h
      assumption
    · cases h
      exact List.length_take_le _ _

end Script

/-! ## Commands -/

namespace StreamHandle

variable {h : StreamHandle} {due : Bytes} {done : Except Error Unit}

/-- A command that is left to end by itself, as far as its output was read. Its output has no errors
but interruptions, and waiting for it finds `done`. -/
def Due (done : Except Error Unit) (h : StreamHandle) (due : Bytes) : Prop :=
  (h.outcome = none ∧ h.cancelled = false ∧ h.stdout.fault? = none ∧
      h.stdout.deliveredUntilFault = due ∧
      conclude h.program (diagnosticOf h.stderr) false h.process.ended = done) ∨
    h.outcome = some done ∧ due = []

theorem readOutcome_eq (done : Except Error Unit) :
    readOutcome done = endOf (done.mapError Error.toIo) := by
  rcases done with e | ⟨⟩
  · rfl
  · rfl

theorem finalize_of_ends (hopen : h.outcome = none) (hcancelled : h.cancelled = false)
    (hends : conclude h.program (diagnosticOf h.stderr) false h.process.ended = done) :
    h.finalize.1 = done ∧ h.finalize.2.outcome = some done := by
  rw [finalize_of_open hopen, hcancelled, hends]
  exact ⟨rfl, rfl⟩

theorem Due.finalize (hdue : h.Due done due) :
    h.finalize.1 = done ∧ h.finalize.2.outcome = some done := by
  rcases hdue with ⟨hopen, hcancelled, -, -, hends⟩ | ⟨hdone, -⟩
  · exact finalize_of_ends hopen hcancelled hends
  · rw [finalize_of_done hdone]
    exact ⟨rfl, hdone⟩

/-- **The output of a command that is left to end by itself**, and its end. -/
theorem delivery_due (done : Except Error Unit) :
    Delivery (Due done) (fun h => h.outcome = some done) (done.mapError Error.toIo) where
  reads := by
    intro n h due hn hdue
    show ReadsDue _ _ _ n h due
    have hread : ByteSource.read n h = h.read n := rfl
    unfold ReadsDue
    rw [hread]
    rcases hdue with ⟨hopen, hcancelled, hfault, rfl, hends⟩ | ⟨hdone, rfl⟩
    · rw [read_of_open hopen]
      rcases Script.read_cases hn h.stdout with
        ⟨-, -, hempty, hend⟩ | ⟨e, stdout, hnext, hfails⟩ |
          ⟨b, bs, stdout, htakes, -, hbytes, hmore, hless⟩
      · obtain ⟨hdone, houtcome⟩ := finalize_of_ends
          (h := { h with stdout := (h.stdout.read n).2 }) hopen hcancelled hends
        refine Or.inl ⟨hempty, _, ?_, Or.inr ⟨houtcome, rfl⟩, houtcome⟩
        rw [hend]
        dsimp only
        rw [if_pos ⟨rfl, hn⟩, hdone, readOutcome_eq]
      · rw [hnext] at hfault
        have hint : e.isInterrupted = true := by
          cases he : e.isInterrupted with
          | true => rfl
          | false =>
            rw [Script.fault?, he, if_neg Bool.false_ne_true] at hfault
            cases hfault
        rw [Script.fault?, if_pos hint] at hfault
        refine Or.inr (Or.inl ⟨e, { h with stdout }, ?_, hint,
          Or.inl ⟨hopen, hcancelled, hfault, ?_, hends⟩, ?_⟩)
        · rw [hfails]
          dsimp only
          rw [hcancelled]
          exact if_neg Bool.false_ne_true
        · rw [hnext, Script.deliveredUntilFault, if_pos hint]
        · show Script.bound stdout + 2 < h.stdout.bound + 2
          rw [hnext]
          exact Nat.lt_succ_self _
      · have hroom := Script.length_read_le (congrArg Prod.fst htakes)
        refine Or.inr (Or.inr ⟨b, bs, stdout.deliveredUntilFault, { h with stdout }, ?_, hbytes,
          hroom, Or.inl ⟨hopen, hcancelled, hmore ▸ hfault, rfl, hends⟩, ?_⟩)
        · rw [htakes]
          exact if_neg fun hnil => List.cons_ne_nil _ _ hnil.1
        · exact Nat.add_lt_add_right hless 2
    · left
      refine ⟨rfl, h, ?_, Or.inr ⟨hdone, rfl⟩, hdone⟩
      rw [read_of_done hdone, readOutcome_eq]
  bound_pos _ := Nat.succ_pos _
  stop_final e he := by
    rcases done with c | ⟨⟩
    · cases he
      rfl
    · cases he

end StreamHandle

end GuestVault
