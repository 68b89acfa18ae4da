import GuestVault.Proofs.Host.Agreement
import GuestVault.Proofs.Stream.Finalization

/-!
# Cancellations are reported

A handle whose work was cancelled, and whose process did not end well, ends with the cancellation.
Every operation that ends the handle answers it, save one: a collection whose output cannot be read
to its end answers the error of that read, and what the process said is lost.

1. `read_of_cancelled`, `collect_of_cancelled`: what the operations that read answer.
2. `cancellation_reported_iff`: the cancellation is answered exactly if the step is no collection
   of an output that cannot be read.
-/

namespace GuestVault

/-- The error in an answer; an input error may be the wrapping of another one. -/
def StreamAnswer.error? : StreamAnswer → Option Error
  | .read (.error e) | .readToEnd (.error e) _ => some (.ofIo e)
  | .done (.error e) | .collected (.error e) => some e
  | _ => none

namespace StreamHandle

variable {h h' : StreamHandle}

/-- The error of a handle whose work was cancelled. -/
def cancellation (h : StreamHandle) : Error :=
  .cancelled h.program (Text.trim (Text.lossy h.stderr.deliveredUntilFault))

theorem conclude_of_cancelled {waited : Except IoError Exit} (hfailed : ¬ EndedWell waited)
    (program diagnostic : String) :
    conclude program diagnostic true waited = .error (.cancelled program diagnostic) :=
  (settles_conclude program diagnostic true waited).cancelled_iff.mpr ⟨hfailed, rfl⟩

theorem finalize_of_cancelled (hopen : h.outcome = none) (hcancelled : h.cancelled = true)
    (hfailed : ¬ EndedWell h.finalize.2.process.ended) :
    h.finalize.1 = .error h.cancellation := by
  rw [finalize_of_open hopen] at hfailed ⊢
  rw [hcancelled, diagnosticOf_eq]
  exact conclude_of_cancelled hfailed _ _

theorem abort_of_cancelled (hopen : h.outcome = none) (hcancelled : h.cancelled = true)
    (hfailed : ¬ EndedWell h.abort.2.process.ended) :
    h.abort.1 = .error h.cancellation := by
  rw [abort_of_open hopen] at hfailed ⊢
  rw [hcancelled, diagnosticOf_eq]
  exact conclude_of_cancelled hfailed _ _

/-- A read that ends the handle answers the cancellation, whether the output ended or failed. -/
theorem read_of_cancelled (hopen : h.outcome = none) (hcancelled : h.cancelled = true) {n : Nat}
    (hended : (h.read n).2.outcome.isSome) (hfailed : ¬ EndedWell (h.read n).2.process.ended) :
    (h.read n).1 = .error h.cancellation.toIo := by
  rw [read_of_open hopen] at hended hfailed ⊢
  cases hread : (h.stdout.read n).1 with
  | error e =>
    rw [hread] at hended hfailed
    dsimp only at hended hfailed ⊢
    rw [if_pos hcancelled] at hended hfailed ⊢
    have habort : ({ h with stdout := (h.stdout.read n).2 } : StreamHandle).abort.1 =
        .error h.cancellation := by
      refine abort_of_cancelled hopen hcancelled fun hwell => hfailed ?_
      generalize ({ h with stdout := (h.stdout.read n).2 } : StreamHandle).abort = ended at hwell ⊢
      rcases ended with ⟨_ | _, h'⟩ <;> exact hwell
    generalize ({ h with stdout := (h.stdout.read n).2 } : StreamHandle).abort = ended at habort ⊢
    obtain ⟨result, h'⟩ := ended
    obtain rfl : result = .error h.cancellation := habort
    rfl
  | ok bytes =>
    rw [hread] at hended hfailed
    dsimp only at hended hfailed ⊢
    split at hfailed
    · rename_i hend
      have hfinal := finalize_of_cancelled (h := { h with stdout := (h.stdout.read n).2 })
        hopen hcancelled hfailed
      rw [if_pos hend, hfinal]
      rfl
    · rename_i hmore
      -- the handle is still open
      rw [if_neg hmore] at hended
      rw [show ({ h with stdout := (h.stdout.read n).2 } : StreamHandle).outcome = none from hopen]
        at hended
      cases hended

theorem readOn_of_cancelled (hopen : h.outcome = none) (hcancelled : h.cancelled = true)
    {fuel : Nat} (hended : (readOn fuel h).2.2.outcome.isSome)
    (hfailed : ¬ EndedWell (readOn fuel h).2.2.process.ended) :
    (readOn fuel h).1 = .error h.cancellation.toIo := by
  induction fuel generalizing h with
  | zero =>
    rw [show (readOn 0 h).2.2.outcome = none from hopen] at hended
    cases hended
  | succ fuel ih =>
    have hread : ByteSource.read pieceSize h = h.read pieceSize := rfl
    have hlast := read_of_cancelled (n := pieceSize) hopen hcancelled
    by_cases hgoes : ReadsOn (h.read pieceSize).1
    · obtain ⟨hresult, hnext⟩ := readOn_of_readsOn (r := h) fuel hgoes
      rw [hnext, hread] at hended hfailed
      rw [hresult, hread]
      rcases (Moves.read hopen pieceSize).cases hopen with ⟨stdout, hmove⟩ | ⟨hdone, -⟩
      · rw [hmove] at hended hfailed ⊢
        exact ih hopen hcancelled hended hfailed
      · -- a read that ends the handle is the last one
        rw [readOn_of_done hdone] at hfailed
        rw [hlast (Option.isSome_of_eq_some hdone) hfailed] at hgoes
        exact absurd hgoes (not_readsOn_readOutcome (.error h.cancellation))
    · rw [readOn_of_not_readsOn fuel hgoes, hread] at hended hfailed ⊢
      rw [hlast hended hfailed]
      rfl

/-- A collection answers the cancellation, unless its output cannot be read to the end. -/
theorem collect_of_cancelled (hopen : h.outcome = none) (hcancelled : h.cancelled = true)
    (hfailed : ¬ EndedWell h.collect.2.process.ended) :
    h.collect.1 = .error (match h.stdout.fault? with
      | none => h.cancellation
      | some e => .io ("read " ++ h.program ++ " output") e) := by
  have hresult := (Script.readToEnd_script h.stdout).2
  rw [collect_eq] at hfailed
  unfold collect
  rcases hread : readToEnd h.stdout with ⟨_ | ⟨⟩, bytes, stdout⟩
  · rw [hread] at hresult
    cases hfault : h.stdout.fault? with
    | none => rw [hfault] at hresult; cases hresult
    | some e =>
      rw [hfault] at hresult
      cases hresult
      rfl
  · rw [hread] at hresult hfailed
    cases hfault : h.stdout.fault? with
    | some e => rw [hfault] at hresult; cases hresult
    | none =>
      have hfinal := finalize_of_cancelled (h := { h with stdout }) hopen hcancelled hfailed
      dsimp only
      generalize ({ h with stdout } : StreamHandle).finalize = ended at hfinal ⊢
      obtain ⟨result, h'⟩ := ended
      obtain rfl := hfinal
      rfl

end StreamHandle

namespace StreamSession

open StreamHandle

theorem error_of_cancelled {s : StreamSession} (hgone : s.gone = false)
    (hopen : s.handle.outcome = none) (hcancelled : s.handle.cancelled = true) {step : StreamStep}
    (hdrop : step ≠ .drop) (hended : (s.step step).2.handle.outcome.isSome)
    (hfailed : ¬ EndedWell (s.step step).2.handle.process.ended) :
    (s.step step).1.error? = some (match step, s.handle.stdout.fault? with
      | .collect, some e => .io ("read " ++ s.handle.program ++ " output") e
      | _, _ => s.handle.cancellation) := by
  by_cases hstep : step = .cancel
  · subst hstep
    rw [(step_cancel s).1, (sameEnd_cancel s.handle).outcome_eq, hopen] at hended
    cases hended
  unfold StreamSession.step at hended hfailed ⊢
  rw [if_neg hstep, if_neg (by rw [hgone]; exact Bool.false_ne_true)] at hended hfailed ⊢
  cases step with
  | read n =>
    show (StreamAnswer.read (s.handle.read n).1).error? = _
    rw [read_of_cancelled hopen hcancelled hended hfailed]
    rfl
  | readToEnd =>
    show (StreamAnswer.readToEnd (GuestVault.readToEnd s.handle).1 _).error? = _
    unfold GuestVault.readToEnd at hended hfailed ⊢
    rw [readOn_of_cancelled hopen hcancelled hended hfailed]
    rfl
  | close =>
    show (StreamAnswer.done s.handle.finalize.1).error? = _
    rw [finalize_of_cancelled hopen hcancelled hfailed]
    rfl
  | abort =>
    show (StreamAnswer.done s.handle.abort.1).error? = _
    rw [abort_of_cancelled hopen hcancelled hfailed]
    rfl
  | finalize =>
    show (StreamAnswer.done s.handle.finalize.1).error? = _
    rw [finalize_of_cancelled hopen hcancelled hfailed]
    rfl
  | collect =>
    show (StreamAnswer.collected s.handle.collect.1).error? = _
    rw [collect_of_cancelled hopen hcancelled hfailed]
    cases s.handle.stdout.fault? <;> rfl
  | drop => exact absurd rfl hdrop
  | cancel => exact absurd rfl hstep

end StreamSession

theorem Host.run_fst {σ κ : Type} {host : Host σ κ} {command : Command} {t t' : σ}
    {handle : StreamHandle} (hstarted : host.openStream command t = (.ok handle, t')) :
    ((host.run command).run t).1 = handle.collect.1 := by
  unfold Host.run
  rw [Action.run_bind_of_ok hstarted, Action.run_bind_of_ok (Action.run_lift _ _)]
  cases handle.collect.1 <;> rfl

namespace StreamSession

open StreamHandle

/-- **A cancellation is reported by the step that ends the handle, unless that is a collection whose
output cannot be read.** This is so for every handle that was cancelled while it was open and whose
process does not end well; a command that is run to its end is collected. -/
theorem cancellation_reported_iff (s : StreamSession) (step : StreamStep) (hgone : s.gone = false)
    (hopen : s.handle.outcome = none) (hcancelled : s.handle.cancelled = true)
    (hdrop : step ≠ .drop) (hended : (s.step step).2.handle.outcome.isSome)
    (hfailed : ¬ EndedWell (s.step step).2.handle.process.ended) :
    ((s.step step).1.error? = some s.handle.cancellation ↔
        ¬ (step = .collect ∧ ∃ e, s.handle.stdout.fault? = some e)) ∧
      ∀ (σ κ : Type) (host : Host σ κ) (command : Command) (t t' : σ), step = .collect →
        host.openStream command t = (.ok s.handle, t') →
          (((host.run command).run t).1 = .error s.handle.cancellation ↔
            ¬ ∃ e, s.handle.stdout.fault? = some e) := by
  refine ⟨?_, fun σ κ host command t t' hcollect hstarted => ?_⟩
  · rw [error_of_cancelled hgone hopen hcancelled hdrop hended hfailed]
    by_cases hcollect : step = .collect
    · subst hcollect
      cases s.handle.stdout.fault? with
      | none => exact iff_of_true rfl fun ⟨_, _, h⟩ => nomatch h
      | some e => exact iff_of_false nofun fun h => h ⟨rfl, e, rfl⟩
    · refine iff_of_true ?_ fun h => hcollect h.1
      split
      · exact absurd rfl hcollect
      · rfl
  · subst hcollect
    unfold StreamSession.step at hfailed
    rw [if_neg nofun, if_neg (by rw [hgone]; exact Bool.false_ne_true)] at hfailed
    rw [Host.run_fst hstarted, collect_of_cancelled hopen hcancelled hfailed]
    cases s.handle.stdout.fault? with
    | none => exact iff_of_true rfl fun ⟨_, h⟩ => nomatch h
    | some e => exact iff_of_false nofun fun h => h ⟨e, rfl⟩

/-- A connection that breaks after the cancellation: reading it reports the cancellation. -/
theorem cancelled_read_reported :
    let s : StreamSession :=
      { handle := .start "qm" [.fail (.plain .connectionReset)] (.ofBytes (Text.utf8 "killed\n")) {}
          true }
    (s.step (.read 8)).2.handle.outcome.isSome ∧
      ¬ EndedWell (s.step (.read 8)).2.handle.process.ended ∧
      (s.step (.read 8)).1.error? = some (.cancelled "qm" "killed") := by
  refine ⟨by decide +kernel, by decide +kernel, ?_⟩
  have hreported := (cancellation_reported_iff
    { handle := .start "qm" [.fail (.plain .connectionReset)]
        (.ofBytes (Text.utf8 "killed\n")) {} true }
    (.read 8) rfl rfl rfl nofun (by decide +kernel) (by decide +kernel)).1.mpr fun h => nomatch h.1
  rw [hreported]
  decide +kernel

/-- The same connection, collected, hides it, and what the process said as well. -/
theorem failed_collect_hides_cancellation :
    let h : StreamHandle :=
      .start "qm" [.fail (.plain .connectionReset)] (.ofBytes (Text.utf8 "killed\n")) {} true
    h.outcome = none ∧ h.cancelled = true ∧ ¬ EndedWell h.collect.2.process.ended ∧
      h.collect.1 = .error (.io "read qm output" (.plain .connectionReset)) := by
  decide +kernel

end StreamSession

end GuestVault
