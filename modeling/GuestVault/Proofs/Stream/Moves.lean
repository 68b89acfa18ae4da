import GuestVault.Proofs.Stream.Delivery

/-!
# How a handle moves

Five operations can end a handle, and all of them come down to one of three things: the handle only
reads on, it waits for its process, or it kills the process and waits (`StreamHandle.Moves`,
`Moves.cases`). A handle that has ended does not move any more.
-/

namespace GuestVault

namespace StreamHandle

/-- The handle of a command that was just started. -/
def start (program : String) (stdout stderr : Script) (process : ProcessFate)
    (cancelled : Bool) : StreamHandle :=
  { program, stdout, stderr, process, cancelled }

/-- What an operation makes of an open handle, however much of the output it reads. -/
inductive Moves (h : StreamHandle) : StreamHandle → Prop where
  | reads (stdout : Script) : Moves h { h with stdout }
  | waits (stdout : Script) : Moves h ({ h with stdout } : StreamHandle).finalize.2
  | kills (stdout : Script) : Moves h ({ h with stdout } : StreamHandle).abort.2

variable {h h' : StreamHandle} {done : Except Error Unit}

/-! ## Handles that have ended -/

theorem finalize_of_done (hdone : h.outcome = some done) : h.finalize = (done, h) := by
  unfold finalize
  rw [hdone]

theorem kill_of_done (hdone : h.outcome = some done) : h.kill = h := by
  unfold kill isFinalized
  rw [hdone]
  rfl

theorem abort_of_done (hdone : h.outcome = some done) : h.abort = (done, h) := by
  unfold abort
  rw [kill_of_done hdone, finalize_of_done hdone]

theorem read_of_done (hdone : h.outcome = some done) (n : Nat) :
    h.read n = (readOutcome done, h) := by
  unfold read
  rw [hdone]

theorem not_readsOn_readOutcome (done : Except Error Unit) : ¬ ReadsOn (readOutcome done) := by
  rcases done with e | ⟨⟩
  · exact Bool.false_ne_true
  · exact fun h => h rfl

theorem readOn_of_done (hdone : h.outcome = some done) (fuel : Nat) :
    (readOn fuel h).2.2 = h := by
  cases fuel with
  | zero => rfl
  | succ fuel =>
    have hread : ByteSource.read pieceSize h = (readOutcome done, h) := read_of_done hdone _
    rw [readOn_of_not_readsOn fuel (by rw [hread]; exact not_readsOn_readOutcome done), hread]

/-! ## Open handles -/

theorem finalize_of_open (hopen : h.outcome = none) :
    h.finalize =
      (conclude h.program (diagnosticOf h.stderr) h.cancelled h.process.ended,
        { h with
          stdout := [], stderr := [], diagnostic := diagnosticOf h.stderr
          outcome := some (conclude h.program (diagnosticOf h.stderr) h.cancelled h.process.ended)
          calls := h.calls ++ [.wait] }) := by
  unfold finalize
  rw [hopen]

theorem kill_of_open (hopen : h.outcome = none) :
    h.kill = { h with process := h.process.afterAbort, calls := h.calls ++ [.abort] } := by
  unfold kill isFinalized
  rw [hopen]
  rfl

theorem abort_of_open (hopen : h.outcome = none) :
    h.abort =
      (conclude h.program (diagnosticOf h.stderr) h.cancelled h.process.afterAbort.ended,
        { h with
          stdout := [], stderr := [], diagnostic := diagnosticOf h.stderr
          process := h.process.afterAbort
          outcome := some
            (conclude h.program (diagnosticOf h.stderr) h.cancelled h.process.afterAbort.ended)
          calls := h.calls ++ [.abort, .wait] }) := by
  unfold abort
  rw [kill_of_open hopen, finalize_of_open (by exact hopen), List.append_assoc]
  rfl

theorem outcome_finalize (h : StreamHandle) : h.finalize.2.outcome = some h.finalize.1 := by
  cases hout : h.outcome with
  | none => rw [finalize_of_open hout]
  | some done => rw [finalize_of_done hout, hout]

theorem outcome_abort (h : StreamHandle) : h.abort.2.outcome = some h.abort.1 :=
  outcome_finalize h.kill

/-- A read of an open handle is a move, and its result is the one of the output, unless it is the
end of the output or comes after a cancellation. -/
theorem read_of_open (hopen : h.outcome = none) (n : Nat) :
    h.read n =
      match (h.stdout.read n).1 with
      | .error e =>
        if h.cancelled then
          match ({ h with stdout := (h.stdout.read n).2 } : StreamHandle).abort with
          | (.ok (), h) => (.error e, h)
          | (.error c, h) => (.error c.toIo, h)
        else (.error e, { h with stdout := (h.stdout.read n).2 })
      | .ok bytes =>
        if bytes = [] ∧ n ≠ 0 then
          (readOutcome ({ h with stdout := (h.stdout.read n).2 } : StreamHandle).finalize.1,
            ({ h with stdout := (h.stdout.read n).2 } : StreamHandle).finalize.2)
        else (.ok bytes, { h with stdout := (h.stdout.read n).2 }) := by
  unfold read
  rw [hopen]
  rcases h.stdout.read n with ⟨e | bytes, stdout⟩
  · rfl
  · rfl

theorem Moves.read (hopen : h.outcome = none) (n : Nat) : h.Moves (h.read n).2 := by
  rw [read_of_open hopen]
  cases (h.stdout.read n).1 with
  | error e =>
    dsimp only
    split
    · have hkills := Moves.kills (h := h) (h.stdout.read n).2
      generalize ({ h with stdout := (h.stdout.read n).2 } : StreamHandle).abort = ended at hkills ⊢
      rcases ended with ⟨_ | _, h'⟩
      · exact hkills
      · exact hkills
    · exact .reads _
  | ok bytes =>
    dsimp only
    split
    · exact .waits _
    · exact .reads _

theorem Moves.of_stdout {stdout : Script}
    (hmoves : ({ h with stdout } : StreamHandle).Moves h') : h.Moves h' := by
  cases hmoves with
  | reads stdout => exact .reads stdout
  | waits stdout => exact .waits stdout
  | kills stdout => exact .kills stdout

theorem Moves.readOn (hopen : h.outcome = none) (fuel : Nat) :
    h.Moves (readOn fuel h).2.2 := by
  induction fuel generalizing h with
  | zero => exact .reads h.stdout
  | succ fuel ih =>
    have hread : ByteSource.read pieceSize h = h.read pieceSize := rfl
    have hmoves := Moves.read hopen pieceSize
    by_cases hgoes : ReadsOn (h.read pieceSize).1
    · -- after a read the handle is still open, or it has ended and stays as it is
      rw [(readOn_of_readsOn fuel hgoes).2, hread]
      generalize (h.read pieceSize).2 = next at hmoves ⊢
      cases hmoves with
      | reads stdout => exact (ih (h := { h with stdout }) hopen).of_stdout
      | waits stdout => rw [readOn_of_done (outcome_finalize _)]; exact .waits stdout
      | kills stdout => rw [readOn_of_done (outcome_abort _)]; exact .kills stdout
    · rw [readOn_of_not_readsOn fuel hgoes]
      exact hmoves

theorem collect_eq (h : StreamHandle) :
    h.collect.2 =
      match (readToEnd h.stdout).1 with
      | .error _ => ({ h with stdout := (readToEnd h.stdout).2.2 } : StreamHandle).abort.2
      | .ok () => ({ h with stdout := (readToEnd h.stdout).2.2 } : StreamHandle).finalize.2 := by
  unfold collect
  rcases readToEnd h.stdout with ⟨_ | ⟨⟩, bytes, stdout⟩
  · rfl
  · dsimp only
    rcases ({ h with stdout } : StreamHandle).finalize with ⟨_ | ⟨⟩, h'⟩
    · rfl
    · rfl

theorem Moves.collect (h : StreamHandle) : h.Moves h.collect.2 := by
  rw [collect_eq]
  cases (readToEnd h.stdout).1 with
  | error _ => exact .kills _
  | ok _ => exact .waits _

theorem outcome_collect (h : StreamHandle) : h.collect.2.outcome.isSome := by
  rw [collect_eq]
  cases (readToEnd h.stdout).1 with
  | error _ => exact Option.isSome_of_eq_some (outcome_abort _)
  | ok _ => exact Option.isSome_of_eq_some (outcome_finalize _)

theorem collect_of_done (hdone : h.outcome = some done) :
    ∃ stdout, h.collect.2 = { h with stdout } := by
  have hstdout (stdout : Script) : ({ h with stdout } : StreamHandle).outcome = some done := hdone
  refine ⟨(readToEnd h.stdout).2.2, ?_⟩
  rw [collect_eq]
  cases (readToEnd h.stdout).1 with
  | error _ => rw [abort_of_done (hstdout _)]
  | ok _ => rw [finalize_of_done (hstdout _)]

theorem drop_of_open (hopen : h.outcome = none) : h.drop = h.abort.2 := by
  unfold drop isFinalized
  rw [hopen]
  rfl

theorem drop_of_done (hdone : h.outcome = some done) : h.drop = h := by
  unfold drop isFinalized
  rw [hdone]
  rfl

/-! ## Accounts -/

/-- The calls on the process fit the outcome. -/
def Accounted (h : StreamHandle) : Prop :=
  (h.outcome = none ∧ h.calls = []) ∨
    h.outcome.isSome ∧ (h.calls = [.wait] ∨ h.calls = [.abort, .wait])

/-- A move waits at most once, and what waiting finds settles the outcome. -/
theorem Moves.cases (hmoves : h.Moves h') (hopen : h.outcome = none) :
    (∃ stdout, h' = { h with stdout }) ∨
      (h'.outcome =
          some (conclude h.program (diagnosticOf h.stderr) h.cancelled h'.process.ended) ∧
        h'.diagnostic = diagnosticOf h.stderr ∧
        ((h'.calls = h.calls ++ [.wait] ∧ h'.process = h.process) ∨
          h'.calls = h.calls ++ [.abort, .wait] ∧ h'.process = h.process.afterAbort)) := by
  cases hmoves with
  | reads stdout => exact Or.inl ⟨stdout, rfl⟩
  | waits stdout =>
    right
    rw [finalize_of_open (h := { h with stdout }) hopen]
    exact ⟨rfl, rfl, Or.inl ⟨rfl, rfl⟩⟩
  | kills stdout =>
    right
    rw [abort_of_open (h := { h with stdout }) hopen]
    exact ⟨rfl, rfl, Or.inr ⟨rfl, rfl⟩⟩

theorem Moves.accounted (hmoves : h.Moves h') (hopen : h.outcome = none)
    (hcalls : h.calls = []) : h'.Accounted := by
  rcases hmoves.cases hopen with ⟨stdout, rfl⟩ | ⟨hdone, -, hwaits | hkills⟩
  · exact Or.inl ⟨hopen, hcalls⟩
  · exact Or.inr ⟨Option.isSome_of_eq_some hdone, Or.inl (by rw [hwaits.1, hcalls]; rfl)⟩
  · exact Or.inr ⟨Option.isSome_of_eq_some hdone, Or.inr (by rw [hkills.1, hcalls]; rfl)⟩

end StreamHandle

end GuestVault
