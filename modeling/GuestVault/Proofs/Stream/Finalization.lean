import GuestVault.Proofs.Stream.Moves
import GuestVault.Stream.Session

/-!
# Handles are finalized once

What the owner of a handle does is a session. Until the handle has ended, each step is one of its
moves (`step_moves`); after that, no step changes its outcome, its diagnostic text or the calls on
its process (`step_sameEnd`).

1. `sound_after`: in every session the calls on the process fit the outcome, and a handle that was
   given up has ended.
2. `finalized_once`: the outcome is settled once, by what waiting for the process found, and stays.
-/

namespace GuestVault

/-- Waiting found that the process ended well. -/
def EndedWell (waited : Except IoError Exit) : Prop :=
  ∃ exit, waited = .ok exit ∧ exit.success = true

instance : (waited : Except IoError Exit) → Decidable (EndedWell waited)
  | .ok exit =>
    decidable_of_iff (exit.success = true) ⟨fun h => ⟨exit, rfl, h⟩, fun ⟨_, heq, h⟩ => by
      cases heq
      exact h⟩
  | .error _ => isFalse nofun

/-- How an outcome follows from what waiting found: success counts before anything else, a
cancellation before the failures. -/
structure Settles (program diagnostic : String) (cancelled : Bool)
    (waited : Except IoError Exit) (done : Except Error Unit) : Prop where
  ok_iff : done = .ok () ↔ EndedWell waited
  cancelled_iff : done = .error (.cancelled program diagnostic) ↔
    ¬ EndedWell waited ∧ cancelled = true
  io_iff (e : IoError) : done = .error (.io ("wait for " ++ program) e) ↔
    waited = .error e ∧ cancelled = false
  command_iff (status : String) : done = .error (.command program status diagnostic) ↔
    ∃ exit, waited = .ok exit ∧ exit.success = false ∧ exit.text = status ∧ cancelled = false

theorem settles_conclude (program diagnostic : String) (cancelled : Bool)
    (waited : Except IoError Exit) :
    Settles program diagnostic cancelled waited
      (StreamHandle.conclude program diagnostic cancelled waited) := by
  unfold StreamHandle.conclude
  rcases waited with e | exit
  · cases cancelled <;> constructor <;> simp [EndedWell]
  · rcases hsuccess : exit.success with _ | _
    · cases cancelled <;> constructor <;> simp [EndedWell, hsuccess]
    · constructor <;> simp [EndedWell, hsuccess]

namespace StreamHandle

/-- Two handles have ended alike. -/
structure SameEnd (h h' : StreamHandle) : Prop where
  outcome_eq : h'.outcome = h.outcome
  diagnostic_eq : h'.diagnostic = h.diagnostic
  calls_eq : h'.calls = h.calls

theorem SameEnd.refl (h : StreamHandle) : h.SameEnd h :=
  ⟨rfl, rfl, rfl⟩

theorem SameEnd.trans {h h' h'' : StreamHandle} (hfirst : h.SameEnd h') (hsecond : h'.SameEnd h'') :
    h.SameEnd h'' :=
  ⟨hsecond.outcome_eq.trans hfirst.outcome_eq, hsecond.diagnostic_eq.trans hfirst.diagnostic_eq,
    hsecond.calls_eq.trans hfirst.calls_eq⟩

theorem sameEnd_cancel (h : StreamHandle) : h.SameEnd h.cancel := by
  unfold cancel
  split
  · exact .refl h
  · exact ⟨rfl, rfl, rfl⟩

theorem cancel_program (h : StreamHandle) : h.cancel.program = h.program := by
  unfold cancel
  split <;> rfl

theorem cancel_stderr (h : StreamHandle) : h.cancel.stderr = h.stderr := by
  unfold cancel
  split <;> rfl

end StreamHandle

namespace StreamSession

open StreamHandle

variable {s : StreamSession} {done : Except Error Unit} {program : String} {stderr : Script}

/-- The session after some steps. -/
def after (s : StreamSession) : List StreamStep → StreamSession
  | [] => s
  | step :: rest => (s.step step).2.after rest

/-! ## One step -/

theorem step_cancel (s : StreamSession) :
    (s.step .cancel).2.handle = s.handle.cancel ∧ (s.step .cancel).2.gone = s.gone :=
  ⟨rfl, rfl⟩

theorem step_of_gone (hgone : s.gone = true) {step : StreamStep} (hstep : step ≠ .cancel) :
    s.step step = (.gone, s) := by
  unfold StreamSession.step
  rw [if_neg hstep, if_pos hgone]

/-- Every step of the owner of an open handle is one of its moves. -/
theorem step_moves (hopen : s.handle.outcome = none) (hgone : s.gone = false) {step : StreamStep}
    (hstep : step ≠ .cancel) : s.handle.Moves (s.step step).2.handle := by
  unfold StreamSession.step
  rw [if_neg hstep, if_neg (by rw [hgone]; exact Bool.false_ne_true)]
  cases step with
  | read n => exact .read hopen n
  | readToEnd => exact .readOn hopen _
  | close => exact .waits s.handle.stdout
  | abort => exact .kills s.handle.stdout
  | finalize => exact .waits s.handle.stdout
  | collect => exact .collect s.handle
  | drop =>
    dsimp only [leave]
    rw [drop_of_open hopen]
    exact .kills s.handle.stdout
  | cancel => exact absurd rfl hstep

theorem outcome_of_step_gone (hgone : s.gone = false) {step : StreamStep}
    (hnext : (s.step step).2.gone = true) : (s.step step).2.handle.outcome.isSome := by
  by_cases hstep : step = .cancel
  · subst hstep
    rw [(step_cancel s).2, hgone] at hnext
    cases hnext
  unfold StreamSession.step at hnext ⊢
  rw [if_neg hstep, if_neg (by rw [hgone]; exact Bool.false_ne_true)] at hnext ⊢
  cases step with
  | collect => exact outcome_collect s.handle
  | drop =>
    show s.handle.drop.outcome.isSome
    cases hout : s.handle.outcome with
    | none => rw [drop_of_open hout, outcome_abort]; rfl
    | some done => rw [drop_of_done hout, hout]; rfl
  | cancel => exact absurd rfl hstep
  -- all other steps keep the handle
  | _ => rw [show s.gone = true from hnext] at hgone; cases hgone

theorem step_sameEnd (hdone : s.handle.outcome = some done) (step : StreamStep) :
    s.handle.SameEnd (s.step step).2.handle := by
  by_cases hstep : step = .cancel
  · subst hstep
    exact sameEnd_cancel s.handle
  by_cases hgone : s.gone = true
  · rw [step_of_gone hgone hstep]
    exact .refl _
  unfold StreamSession.step
  rw [if_neg hstep, if_neg hgone]
  cases step with
  | read n =>
    dsimp only
    rw [read_of_done hdone]
    exact .refl _
  | readToEnd =>
    show s.handle.SameEnd (GuestVault.readToEnd s.handle).2.2
    unfold GuestVault.readToEnd
    rw [readOn_of_done hdone]
    exact .refl _
  | close =>
    show s.handle.SameEnd s.handle.finalize.2
    rw [finalize_of_done hdone]
    exact .refl _
  | abort =>
    show s.handle.SameEnd s.handle.abort.2
    rw [abort_of_done hdone]
    exact .refl _
  | finalize =>
    show s.handle.SameEnd s.handle.finalize.2
    rw [finalize_of_done hdone]
    exact .refl _
  | collect =>
    obtain ⟨stdout, hcollect⟩ := collect_of_done hdone
    show s.handle.SameEnd s.handle.collect.2
    rw [hcollect]
    exact ⟨rfl, rfl, rfl⟩
  | drop =>
    show s.handle.SameEnd s.handle.drop
    rw [drop_of_done hdone]
    exact .refl _
  | cancel => exact absurd rfl hstep

/-! ## Sessions -/

/-- What holds at every point of a session on a fresh handle. -/
structure Sound (program : String) (stderr : Script) (s : StreamSession) : Prop where
  accounted : s.handle.Accounted
  ended_of_gone : s.gone = true → s.handle.outcome.isSome
  kept_of_open : s.handle.outcome = none → s.handle.program = program ∧ s.handle.stderr = stderr

theorem Sound.step (hsound : Sound program stderr s) (step : StreamStep) :
    Sound program stderr (s.step step).2 := by
  cases hout : s.handle.outcome with
  | some done =>
    have hsame := step_sameEnd hout step
    have hended : (s.step step).2.handle.outcome.isSome := by rw [hsame.outcome_eq, hout]; rfl
    refine ⟨?_, fun _ => hended, fun h => by rw [h] at hended; cases hended⟩
    have haccounted := hsound.accounted
    unfold Accounted at haccounted ⊢
    rwa [hsame.outcome_eq, hsame.calls_eq]
  | none =>
    have hcalls : s.handle.calls = [] := by
      rcases hsound.accounted with h | h
      · exact h.2
      · rw [hout] at h; cases h.1
    have hgone : s.gone = false := by
      cases hgone : s.gone with
      | false => rfl
      | true => have h := hsound.ended_of_gone hgone; rw [hout] at h; cases h
    have hkept := hsound.kept_of_open hout
    by_cases hstep : step = .cancel
    · subst hstep
      have hsame := sameEnd_cancel s.handle
      refine ⟨Or.inl ⟨hsame.outcome_eq.trans hout, hsame.calls_eq.trans hcalls⟩, ?_, ?_⟩
      · rw [(step_cancel s).2, hgone]
        nofun
      · intro _
        rw [(step_cancel s).1, cancel_program, cancel_stderr]
        exact hkept
    · have hmoves := step_moves hout hgone hstep
      refine ⟨hmoves.accounted hout hcalls, outcome_of_step_gone hgone, fun hnext => ?_⟩
      rcases hmoves.cases hout with ⟨stdout, hnext⟩ | ⟨hdone, -⟩
      · rw [hnext]
        exact hkept
      · rw [hdone] at hnext
        cases hnext

/-- **In every session the calls fit the outcome.** -/
theorem sound_after (hsound : Sound program stderr s) (steps : List StreamStep) :
    Sound program stderr (s.after steps) := by
  induction steps generalizing s with
  | nil => exact hsound
  | cons step rest ih => exact ih (hsound.step step)

theorem sameEnd_after (hdone : s.handle.outcome = some done) (steps : List StreamStep) :
    s.handle.SameEnd (s.after steps).handle := by
  induction steps generalizing s with
  | nil => exact .refl _
  | cons step rest ih =>
    have hsame := step_sameEnd hdone step
    exact hsame.trans (ih (hsame.outcome_eq.trans hdone))

theorem sound_start (program : String) (stdout stderr : Script) (process : ProcessFate)
    (cancelled hooked : Bool) :
    Sound program stderr { handle := .start program stdout stderr process cancelled, hooked } :=
  ⟨Or.inl ⟨rfl, rfl⟩, nofun, fun _ => ⟨rfl, rfl⟩⟩

/-- Every operation answers the outcome. -/
structure Answers (s : StreamSession) (done : Except Error Unit) : Prop where
  ends : ∀ step ∈ [StreamStep.close, .abort, .finalize], (s.step step).1 = .done done
  read_of_ok : done = .ok () → ∀ n, (s.step (.read n)).1 = .read (.ok [])
  read_of_error : ∀ e, done = .error e → ∀ n, (s.step (.read n)).1 = .read (.error e.toIo)

theorem answers_of_done (hdone : s.handle.outcome = some done) (hgone : s.gone = false) :
    s.Answers done := by
  have hstep {step : StreamStep} {answer : StreamAnswer}
      (h : (({ s with gone := false } : StreamSession).step step).1 = answer) :
      (s.step step).1 = answer := by
    rw [← hgone] at h
    exact h
  have hread (n : Nat) : (s.step (.read n)).1 = .read (readOutcome done) := by
    refine hstep ?_
    show StreamAnswer.read (s.handle.read n).1 = _
    rw [read_of_done hdone]
  refine ⟨?_, ?_, ?_⟩
  · simp only [List.forall_mem_cons, List.not_mem_nil, false_implies, implies_true, and_true]
    refine ⟨hstep ?_, hstep ?_, hstep ?_⟩
    · show StreamAnswer.done s.handle.finalize.1 = _
      rw [finalize_of_done hdone]
    · show StreamAnswer.done s.handle.abort.1 = _
      rw [abort_of_done hdone]
    · show StreamAnswer.done s.handle.finalize.1 = _
      rw [finalize_of_done hdone]
  · rintro rfl n
    exact hread n
  · rintro e rfl n
    exact hread n

theorem settles_of_step (hsound : Sound program stderr s) (hopen : s.handle.outcome = none)
    {step : StreamStep} (hdone : (s.step step).2.handle.outcome = some done) :
    Settles program (s.step step).2.handle.diagnostic s.handle.cancelled
        (s.step step).2.handle.process.ended done ∧
      (s.step step).2.handle.diagnostic =
        Text.trim (Text.lossy stderr.deliveredUntilFault) ∧
      (s.step step).2.handle.process =
        if .abort ∈ (s.step step).2.handle.calls then s.handle.process.afterAbort
        else s.handle.process := by
  have hcalls : s.handle.calls = [] := by
    rcases hsound.accounted with h | h
    · exact h.2
    · rw [hopen] at h; cases h.1
  have hgone : s.gone = false := by
    cases hgone : s.gone with
    | false => rfl
    | true => have h := hsound.ended_of_gone hgone; rw [hopen] at h; cases h
  by_cases hstep : step = .cancel
  · subst hstep
    rw [(step_cancel s).1, (sameEnd_cancel s.handle).outcome_eq, hopen] at hdone
    cases hdone
  obtain ⟨hprogram, hstderr⟩ := hsound.kept_of_open hopen
  rcases (step_moves hopen hgone hstep).cases hopen with ⟨stdout, hnext⟩ | ⟨hsettled, htext, hmoved⟩
  · rw [hnext] at hdone
    rw [show s.handle.outcome = some done from hdone] at hopen
    cases hopen
  · rw [hdone, Option.some.injEq] at hsettled
    rw [hsettled, htext, hprogram, hstderr, diagnosticOf_eq]
    refine ⟨settles_conclude _ _ _ _, rfl, ?_⟩
    rcases hmoved with ⟨hwaits, hprocess⟩ | ⟨hkills, hprocess⟩
    · rw [hwaits, hcalls, if_neg (by decide), hprocess]
    · rw [hkills, hcalls, if_pos (by decide), hprocess]

/-- **A handle is finalized once, and its outcome is stable.** In every session on a fresh handle
the process is waited for at most once, and killed at most once and before that. A handle that was
collected or dropped has been waited for. The step that ends the handle settles the outcome by what
waiting found, and from then on every operation answers that outcome, whatever else is done. -/
theorem finalized_once (program : String) (stdout stderr : Script) (process : ProcessFate)
    (cancelled hooked : Bool) (steps : List StreamStep) :
    let s := ({ handle := .start program stdout stderr process cancelled, hooked } :
      StreamSession).after steps
    (s.handle.calls = [] ∨ s.handle.calls = [.wait] ∨ s.handle.calls = [.abort, .wait]) ∧
      (s.gone = true → s.handle.calls.count .wait = 1) ∧
      (s.handle.outcome.isSome ↔ .wait ∈ s.handle.calls) ∧
      (∀ step done, s.handle.outcome = none → (s.step step).2.handle.outcome = some done →
        Settles program (s.step step).2.handle.diagnostic s.handle.cancelled
            (s.step step).2.handle.process.ended done ∧
          (s.step step).2.handle.diagnostic =
            Text.trim (Text.lossy stderr.deliveredUntilFault) ∧
          (s.step step).2.handle.process =
            if .abort ∈ (s.step step).2.handle.calls then s.handle.process.afterAbort
            else s.handle.process) ∧
      ∀ done, s.handle.outcome = some done → ∀ later,
        s.handle.SameEnd (s.after later).handle ∧
          ((s.after later).gone = false → (s.after later).Answers done) := by
  intro s
  have hsound : Sound program stderr s := sound_after (sound_start ..) steps
  refine ⟨?_, ?_, ?_, ?_, ?_⟩
  · exact hsound.accounted.imp And.right And.right
  · intro hgone
    rcases hsound.accounted with h | ⟨-, hcalls | hcalls⟩
    · have hended := hsound.ended_of_gone hgone
      rw [h.1] at hended
      cases hended
    · rw [hcalls]; rfl
    · rw [hcalls]; rfl
  · rcases hsound.accounted with ⟨hopen, hcalls⟩ | ⟨hended, hcalls | hcalls⟩
    · rw [hopen, hcalls]; simp
    · rw [hcalls]; simp [hended]
    · rw [hcalls]; simp [hended]
  · exact fun step done hopen hdone => settles_of_step hsound hopen hdone
  · intro done hdone later
    have hsame := sameEnd_after hdone later
    exact ⟨hsame, answers_of_done (hsame.outcome_eq.trans hdone)⟩

end StreamSession

end GuestVault
