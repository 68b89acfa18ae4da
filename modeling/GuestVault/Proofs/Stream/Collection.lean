import GuestVault.Proofs.Stream.Cancellation

/-!
# What a collection answers

A handle that is collected while it is open ends in one of five ways (`Collects`), each with a
condition on what its process did; `collects_collect` is the one that says that there are no others.
Output that cannot be read comes before all else, an exit that is a success comes before a
cancellation, and a cancellation comes before what waiting found.
-/

namespace GuestVault

namespace StreamHandle

variable {h : StreamHandle} {result : Except Error Output} {e : Error}

/-- What a process says on its diagnostic output. -/
def said (h : StreamHandle) : String :=
  Text.trim (Text.lossy h.stderr.deliveredUntilFault)

/-- What the failure of a process is described by: its diagnostic output, or its output if there is
nothing in the former. -/
def complaint (h : StreamHandle) : String :=
  if h.said = "" then Text.trim (Text.lossy h.stdout.deliveredUntilFault) else h.said

/-- The ways in which a collection ends. -/
inductive Collects (h : StreamHandle) : Except Error Output → Prop where
  | unread {e : IoError} (hfault : h.stdout.fault? = some e) :
    Collects h (.error (.io ("read " ++ h.program ++ " output") e))
  | well (hread : h.stdout.fault? = none) (hwell : EndedWell h.process.ended) :
    Collects h (.ok { stdout := Text.lossy h.stdout.deliveredUntilFault, stderr := h.said })
  | cancelled (hread : h.stdout.fault? = none) (hfailed : ¬ EndedWell h.process.ended)
      (hcancelled : h.cancelled = true) : Collects h (.error h.cancellation)
  | unwaited {e : IoError} (hread : h.stdout.fault? = none) (hwait : h.process.ended = .error e)
      (hleft : h.cancelled = false) : Collects h (.error (.io ("wait for " ++ h.program) e))
  | failed {exit : Exit} (hread : h.stdout.fault? = none) (hwait : h.process.ended = .ok exit)
      (hfailed : exit.success = false) (hleft : h.cancelled = false) :
    Collects h (.error (.command h.program exit.text h.complaint))

/-- A collection whose output can be read answers what waiting concludes, in the words of
`describeBy`. -/
theorem collect_of_read (hopen : h.outcome = none) (hread : h.stdout.fault? = none) :
    h.collect.1 = match conclude h.program h.said h.cancelled h.process.ended with
      | .ok () => .ok { stdout := Text.lossy h.stdout.deliveredUntilFault, stderr := h.said }
      | .error e => .error (describeBy (Text.lossy h.stdout.deliveredUntilFault) e) := by
  obtain ⟨hbytes, hresult⟩ := Script.readToEnd_script h.stdout
  rw [hread] at hresult
  unfold collect
  rcases hend : readToEnd h.stdout with ⟨result, bytes, stdout⟩
  rw [hend] at hbytes hresult
  dsimp only at hbytes hresult ⊢
  subst hbytes hresult
  have hopen' : ({ h with stdout } : StreamHandle).outcome = none := hopen
  have hdone : ({ h with stdout } : StreamHandle).finalize.1 =
      conclude h.program h.said h.cancelled h.process.ended := by
    rw [finalize_of_open hopen', diagnosticOf_eq]
    rfl
  have hsaid : ({ h with stdout } : StreamHandle).finalize.2.diagnostic = h.said := by
    rw [finalize_of_open hopen', diagnosticOf_eq]
    rfl
  rw [← hdone]
  dsimp only
  generalize ({ h with stdout } : StreamHandle).finalize = ended at hsaid ⊢
  rcases ended with ⟨e | ⟨⟩, h'⟩
  · rfl
  · dsimp only at hsaid ⊢
    rw [hsaid]

theorem collect_of_unread {e : IoError} (hfault : h.stdout.fault? = some e) :
    h.collect.1 = .error (.io ("read " ++ h.program ++ " output") e) := by
  have hresult := (Script.readToEnd_script h.stdout).2
  rw [hfault] at hresult
  unfold collect
  rcases hend : readToEnd h.stdout with ⟨result, bytes, stdout⟩
  rw [hend] at hresult
  dsimp only at hresult
  subst hresult
  rfl

theorem describeBy_command (status : String) :
    describeBy (Text.lossy h.stdout.deliveredUntilFault) (.command h.program status h.said) =
      .command h.program status h.complaint := by
  by_cases hsilent : h.said = ""
  · rw [describeBy, complaint, if_pos hsilent, if_pos hsilent]
  · rw [describeBy, complaint, if_neg hsilent, if_neg hsilent]

/-- **A collection ends in one of these ways.** -/
theorem collects_collect (hopen : h.outcome = none) : h.Collects h.collect.1 := by
  cases hfault : h.stdout.fault? with
  | some e =>
    rw [collect_of_unread hfault]
    exact .unread hfault
  | none =>
    rw [collect_of_read hopen hfault]
    have hsettles := settles_conclude h.program h.said h.cancelled h.process.ended
    by_cases hwell : EndedWell h.process.ended
    · rw [hsettles.ok_iff.mpr hwell]
      exact .well hfault hwell
    · cases hleft : h.cancelled with
      | true =>
        rw [hleft] at hsettles
        rw [hsettles.cancelled_iff.mpr ⟨hwell, rfl⟩]
        exact .cancelled hfault hwell hleft
      | false =>
        rw [hleft] at hsettles
        cases hwait : h.process.ended with
        | error e =>
          rw [hwait] at hsettles
          rw [(hsettles.io_iff e).mpr ⟨rfl, rfl⟩]
          exact .unwaited hfault hwait hleft
        | ok exit =>
          have hfailed : exit.success = false :=
            Bool.eq_false_iff.mpr fun hsuccess => hwell ⟨exit, hwait, hsuccess⟩
          rw [hwait] at hsettles
          rw [(hsettles.command_iff exit.text).mpr ⟨exit, rfl, hfailed, rfl, rfl⟩]
          dsimp only
          rw [describeBy_command]
          exact .failed hfault hwait hfailed hleft

theorem Collects.ok_iff (hends : h.Collects result) :
    (∃ output, result = .ok output) ↔ h.stdout.fault? = none ∧ EndedWell h.process.ended := by
  cases hends with
  | unread hfault => simp [hfault]
  | well hread hwell => simp [hread, hwell]
  | cancelled hread hfailed hcancelled => simp [hfailed]
  | unwaited hread hwait hleft => simp [hwait, EndedWell]
  | failed hread hwait hfailed hleft => simp [hwait, EndedWell, hfailed]

end StreamHandle

end GuestVault
