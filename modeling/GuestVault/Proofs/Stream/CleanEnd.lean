import GuestVault.Proofs.Stream.Finalization

/-!
# What a clean end is worth

A consumer reads a handle piece by piece, tries again after a mere interruption, and stops at the
end or at any other error; in between, the work may be cancelled (`StreamHandle.consume`). A clean
end always means that the process ended well. It means that the output is complete, too, except in
one case: a read was interrupted after a cancellation while bytes were still to come. Such a read
ends the handle, and if the process ends well all the same, the consumer tries again, is told that
this is the end, and never sees the rest.

1. `reads_read`: what one read of an open handle does.
2. `consume_clean`: what was received and what was lost make up what was delivered.
3. `clean_end_complete_iff`: nothing was lost exactly if no interruption cut the output off.
-/

namespace GuestVault

/-- One thing that happens to a handle that is being read. -/
inductive Demand where
  /-- The consumer reads with room for `n` bytes. -/
  | read (n : Nat) (room : n ≠ 0)
  /-- The work is cancelled. The flag is looked at only after the output was read, so a cancellation
  that comes during a read counts as one before it. -/
  | cancel

/-- How far a consumer came. -/
inductive Progress where
  /-- It would read on. -/
  | reading
  /-- It was told that this is the end. -/
  | finished
  /-- It stopped at an error. -/
  | stopped (error : IoError)
deriving Repr, DecidableEq

namespace StreamHandle

variable {h h' : StreamHandle} {n : Nat} {got : Bytes} {demands : List Demand}

/-- Reads a handle as demanded, until it ends or a read fails with more than an interruption. Gives
the bytes that were received. -/
def consume (h : StreamHandle) : List Demand → Progress × Bytes × StreamHandle
  | [] => (.reading, [], h)
  | .cancel :: rest => h.cancel.consume rest
  | .read n _ :: rest =>
    match h.read n with
    | (.ok [], h) => (.finished, [], h)
    | (.ok (b :: bs), h) =>
      ((h.consume rest).1, b :: bs ++ (h.consume rest).2.1, (h.consume rest).2.2)
    | (.error e, h) => if e.isInterrupted then h.consume rest else (.stopped e, [], h)

/-- An interruption after a cancellation cuts the output off: the handle is still open when a read
meets it, and bytes are still to come. -/
inductive CutOff : StreamHandle → List Demand → Prop where
  /-- The next read meets it. -/
  | here {h : StreamHandle} {n : Nat} {room : n ≠ 0} {rest : List Demand} (e : IoError)
      (stdout : Script) (hopen : h.outcome = none) (hcancelled : h.cancelled = true)
      (hnext : h.stdout = .fail e :: stdout) (hinterrupted : e.isInterrupted = true)
      (hmore : Script.delivered stdout ≠ []) : CutOff h (.read n room :: rest)
  /-- A later read meets it. -/
  | afterRead {h : StreamHandle} {n : Nat} {room : n ≠ 0} {rest : List Demand}
      (hlater : CutOff (h.read n).2 rest) : CutOff h (.read n room :: rest)
  | afterCancel {h : StreamHandle} {rest : List Demand} (hlater : CutOff h.cancel rest) :
      CutOff h (.cancel :: rest)

/-! ## One read -/

/-- What a read with room for a byte makes of an open handle. -/
inductive Reads (h : StreamHandle) : Except IoError Bytes × StreamHandle → Prop where
  /-- It takes some bytes. -/
  | takes (b : UInt8) (bs : Bytes) (stdout : Script) (hnext : ∀ e r, h.stdout ≠ .fail e :: r)
      (hbytes : h.stdout.delivered = b :: bs ++ stdout.delivered) :
      Reads h (.ok (b :: bs), { h with stdout })
  /-- It finds the end, which settles the outcome. -/
  | ends (stdout : Script) (hnext : ∀ e r, h.stdout ≠ .fail e :: r)
      (hempty : h.stdout.delivered = []) :
      Reads h (readOutcome ({ h with stdout } : StreamHandle).finalize.1,
        ({ h with stdout } : StreamHandle).finalize.2)
  /-- It finds an error and passes it on. -/
  | fails (e : IoError) (stdout : Script) (hnext : h.stdout = .fail e :: stdout)
      (hcancelled : h.cancelled = false) : Reads h (.error e, { h with stdout })
  /-- It finds an error after a cancellation and ends the handle. The error is still passed on if
  the process ended well. -/
  | cutsOff (e : IoError) (stdout : Script) (hnext : h.stdout = .fail e :: stdout)
      (hcancelled : h.cancelled = true)
      (hwell : ({ h with stdout } : StreamHandle).abort.1 = .ok ()) :
      Reads h (.error e, ({ h with stdout } : StreamHandle).abort.2)
  /-- It finds an error after a cancellation and ends the handle, whose own error comes first. -/
  | reports (c : Error) (stdout : Script) (hcancelled : h.cancelled = true)
      (hfailed : ({ h with stdout } : StreamHandle).abort.1 = .error c) :
      Reads h (.error c.toIo, ({ h with stdout } : StreamHandle).abort.2)

theorem reads_read (hopen : h.outcome = none) (hroom : n ≠ 0) : h.Reads (h.read n) := by
  rw [read_of_open hopen]
  rcases Script.read_cases hroom h.stdout with
    ⟨hempty, -, -, hend⟩ | ⟨e, stdout, hnext, hread⟩ | ⟨b, bs, stdout, hread, hbytes, -⟩
  · have hnext (e : IoError) (r : Script) : h.stdout ≠ .fail e :: r := by
      intro hnext
      rw [hnext] at hend
      cases hend
    rw [hend]
    dsimp only
    rw [if_pos ⟨rfl, hroom⟩]
    exact .ends _ hnext hempty
  · rw [hread]
    dsimp only
    cases hcancelled : h.cancelled with
    | false =>
      rw [if_neg nofun, ← hcancelled]
      exact .fails e stdout hnext hcancelled
    | true =>
      rw [if_pos rfl, ← hcancelled]
      have hwell := Reads.cutsOff (h := h) e stdout hnext hcancelled
      have hfailed (c : Error) := Reads.reports (h := h) c stdout hcancelled
      generalize ({ h with stdout } : StreamHandle).abort = ended at hwell hfailed ⊢
      rcases ended with ⟨c | ⟨⟩, h'⟩
      · exact hfailed c rfl
      · exact hwell rfl
  · have hnext (e : IoError) (r : Script) : h.stdout ≠ .fail e :: r := by
      intro hnext
      rw [hnext] at hread
      cases hread
    rw [hread]
    dsimp only
    rw [if_neg fun h => nomatch h.1]
    exact .takes b bs stdout hnext hbytes

/-! ## Handles that ended well -/

theorem cancel_of_cancelled (hcancelled : h.cancelled = true) : h.cancel = h := by
  unfold cancel
  rw [if_pos hcancelled]

theorem consume_of_ended (hdone : h.outcome = some (.ok ())) (hcancelled : h.cancelled = true)
    (demands : List Demand) : (h.consume demands).2 = ([], h) := by
  induction demands with
  | nil => rfl
  | cons demand rest ih =>
    cases demand with
    | read n room =>
      rw [consume, read_of_done hdone]
      rfl
    | cancel =>
      rw [consume, cancel_of_cancelled hcancelled]
      exact ih

theorem endedWell_of_finalize (hopen : h.outcome = none) (hdone : h.finalize.1 = .ok ()) :
    h.finalize.2.outcome = some (.ok ()) ∧ EndedWell h.finalize.2.process.ended := by
  refine ⟨by rw [outcome_finalize, hdone], ?_⟩
  rw [finalize_of_open hopen] at hdone ⊢
  exact (settles_conclude ..).ok_iff.mp hdone

theorem endedWell_of_abort (hopen : h.outcome = none) (hdone : h.abort.1 = .ok ()) :
    h.abort.2.outcome = some (.ok ()) ∧ EndedWell h.abort.2.process.ended := by
  refine ⟨by rw [outcome_abort, hdone], ?_⟩
  rw [abort_of_open hopen] at hdone ⊢
  exact (settles_conclude ..).ok_iff.mp hdone

/-! ## Consumers -/

theorem not_cutOff_of_done {done : Except Error Unit} (hdone : h.outcome = some done) :
    ¬ h.CutOff demands := by
  intro hcut
  induction hcut with
  | here e stdout hopen => rw [hdone] at hopen; cases hopen
  | afterRead _ ih => exact ih (by rw [read_of_done hdone]; exact hdone)
  | afterCancel _ ih => exact ih ((sameEnd_cancel _).outcome_eq.trans hdone)

theorem cutOff_cancel_iff : h.CutOff (.cancel :: demands) ↔ h.cancel.CutOff demands :=
  ⟨fun | .afterCancel hlater => hlater, .afterCancel⟩

/-- Without an error ahead after a cancellation, only a later read can meet one. -/
theorem cutOff_read_iff {room : n ≠ 0}
    (hnext : h.cancelled = true → ∀ e r, h.stdout ≠ .fail e :: r) :
    h.CutOff (.read n room :: demands) ↔ (h.read n).2.CutOff demands := by
  refine ⟨fun hcut => ?_, .afterRead⟩
  cases hcut with
  | here e stdout _ hcancelled hstdout => exact absurd hstdout (hnext hcancelled e stdout)
  | afterRead hlater => exact hlater

/-- A read that is interrupted, and ends the handle, cuts off what was still to come. -/
theorem cutOff_read_iff_of_ended {room : n ≠ 0} {e : IoError} {stdout : Script}
    {done : Except Error Unit} (hopen : h.outcome = none) (hcancelled : h.cancelled = true)
    (hnext : h.stdout = .fail e :: stdout) (hinterrupted : e.isInterrupted = true)
    (hended : (h.read n).2.outcome = some done) :
    h.CutOff (.read n room :: demands) ↔ stdout.delivered ≠ [] := by
  refine ⟨fun hcut => ?_, .here e stdout hopen hcancelled hnext hinterrupted⟩
  cases hcut with
  | here e' stdout' _ _ hnext' _ hmore =>
    rw [hnext] at hnext'
    cases hnext'
    exact hmore
  | afterRead hlater => exact absurd hlater (not_cutOff_of_done hended)

/-- **What a consumer received before a clean end, and what it lost, is what was delivered**, and
something was lost exactly if an interruption cut the output off. -/
theorem consume_clean (hopen : h.outcome = none)
    (hclean : h.consume demands = (.finished, got, h')) :
    h'.outcome = some (.ok ()) ∧ EndedWell h'.process.ended ∧
      ∃ lost, h.stdout.delivered = got ++ lost ∧ (lost ≠ [] ↔ h.CutOff demands) := by
  induction demands generalizing h got with
  | nil => cases hclean
  | cons demand rest ih =>
    cases demand with
    | cancel =>
      have hopen' : h.cancel.outcome = none := (sameEnd_cancel h).outcome_eq.trans hopen
      have hstdout : h.cancel.stdout = h.stdout := by unfold cancel; split <;> rfl
      obtain ⟨hdone, hwell, lost, hbytes, hlost⟩ := ih hopen' hclean
      exact ⟨hdone, hwell, lost, hstdout ▸ hbytes, hlost.trans cutOff_cancel_iff.symm⟩
    | read n room =>
      have hlater := @cutOff_read_iff h n rest room
      have hcut := @cutOff_read_iff_of_ended h n rest room
      have hreads := reads_read hopen room
      rw [consume] at hclean
      generalize h.read n = result at hlater hcut hreads hclean
      cases hreads with
      | takes b bs stdout hnext hbytes =>
        obtain ⟨hprogress, hrest⟩ := Prod.mk.inj hclean
        obtain ⟨rfl, hended⟩ := Prod.mk.inj hrest
        obtain ⟨hdone, hwell, lost, hmore, hlost⟩ :=
          ih (h := { h with stdout }) hopen (Prod.ext hprogress (Prod.ext rfl hended))
        refine ⟨hdone, hwell, lost, ?_, hlost.trans (hlater fun _ => hnext).symm⟩
        rw [hbytes, hmore, List.append_assoc]
      | ends stdout hnext hempty =>
        have hwell := endedWell_of_finalize (h := { h with stdout }) hopen
        have hnone : ¬ h.CutOff (.read n room :: rest) := by
          rw [hlater fun _ => hnext]
          exact not_cutOff_of_done (outcome_finalize _)
        generalize ({ h with stdout } : StreamHandle).finalize = ended at hwell hclean
        obtain ⟨c | ⟨⟩, ended⟩ := ended
        · cases hclean
        · cases hclean
          exact ⟨(hwell rfl).1, (hwell rfl).2, [], hempty, iff_of_false (· rfl) hnone⟩
      | fails e stdout hnext hcancelled =>
        dsimp only at hclean
        by_cases hint : e.isInterrupted = true
        · rw [if_pos hint] at hclean
          obtain ⟨hdone, hwell, lost, hbytes, hlost⟩ := ih (h := { h with stdout }) hopen hclean
          refine ⟨hdone, hwell, lost, ?_, hlost.trans (hlater fun h => ?_).symm⟩
          · rw [hnext]
            exact hbytes
          · rw [hcancelled] at h
            cases h
        · rw [if_neg hint] at hclean
          cases hclean
      | cutsOff e stdout hnext hcancelled hgood =>
        dsimp only at hclean
        by_cases hint : e.isInterrupted = true
        · rw [if_pos hint] at hclean
          have hwell := endedWell_of_abort (h := { h with stdout }) hopen hgood
          have hstill : ({ h with stdout } : StreamHandle).abort.2.cancelled = true := by
            rw [abort_of_open (h := { h with stdout }) hopen]
            exact hcancelled
          have hnothing := consume_of_ended hwell.1 hstill rest
          rw [hclean] at hnothing
          cases hnothing
          exact ⟨hwell.1, hwell.2, stdout.delivered, by rw [hnext]; rfl,
            (hcut hopen hcancelled hnext hint hwell.1).symm⟩
        · rw [if_neg hint] at hclean
          cases hclean
      | reports c stdout hcancelled hfailed => cases hclean

/-- **A clean end means that the process ended well; and that the output is complete exactly if no
interruption after a cancellation cut it off.** -/
theorem clean_end_complete_iff {h h' : StreamHandle} {demands : List Demand} {got : Bytes}
    (hopen : h.outcome = none) (hclean : h.consume demands = (.finished, got, h')) :
    h'.outcome = some (.ok ()) ∧ EndedWell h'.process.ended ∧
      (got = h.stdout.delivered ↔ ¬ h.CutOff demands) := by
  obtain ⟨hdone, hwell, lost, hbytes, hlost⟩ := consume_clean hopen hclean
  refine ⟨hdone, hwell, ?_⟩
  rw [← hlost, Decidable.not_not, hbytes, List.self_eq_append_right]

/-- A dump in two pieces with an interruption between them, cancelled only after it: nothing is cut
off, so all of it is received. -/
theorem interrupted_dump_complete :
    let h : StreamHandle :=
      .start "vzdump" [.data [1, 2], .fail (.plain .interrupted), .data [3]] [] {} false
    let demands : List Demand :=
      [.read 8 nofun, .read 8 nofun, .cancel, .read 8 nofun, .read 8 nofun]
    (h.consume demands).1 = .finished ∧ ¬ h.CutOff demands ∧
      (h.consume demands).2.1 = h.stdout.delivered := by
  intro h demands
  have hclean : h.consume demands = (.finished, [1, 2, 3], (h.consume demands).2.2) := rfl
  exact ⟨rfl, (clean_end_complete_iff rfl hclean).2.2.mp rfl, rfl⟩

/-- The same dump, cancelled before the interruption, on a process that cannot be killed and ends
well: the consumer is told that one piece is all there is. -/
theorem cancelled_dump_truncated :
    let h : StreamHandle :=
      .start "vzdump" [.data [1, 2], .fail (.plain .interrupted), .data [3]] []
        { abort := .error (.plain .notFound) } false
    let run := h.consume [.read 8 nofun, .cancel, .read 8 nofun, .read 8 nofun]
    run.1 = .finished ∧ EndedWell run.2.2.process.ended ∧ run.2.1 = [1, 2] ∧
      h.stdout.delivered = [1, 2, 3] := by
  decide +kernel

end StreamHandle

end GuestVault
