import GuestVault.Proofs.Stream.Delivery
import GuestVault.Remote.Pump

/-!
# What a pump moves, and when it waits

Two streams share one buffer, and any operation may fail with part of its work done. What an
operation does is said by `Pump.Leads`: which bytes it gave out, that all others are still in the
buffer or in the streams, and that each of its waits came right after events that called for it. The
loops are put together from such operations (`Leads.trans`, `Leads.park`), so an account of a whole
run follows by induction on its steps (`passes_run`). The fuel of the loops never runs out: what a
read answers is what the output gave last (`read_ok`), and draining to the end succeeds only at the
end (`drainToEnd_ok`).

The main statement is that a pump loses nothing and never waits needlessly (`run_conserves`).
-/

namespace GuestVault

namespace Script

/-- All bytes of a script, those behind an early end too. -/
def bytes : Script → Bytes
  | [] => []
  | .fail _ :: r => bytes r
  | .data piece :: r => piece ++ bytes r

end Script

theorem Script.bytes_read (n : Nat) (s : Script) :
    s.bytes = bytesRead (s.read n).1 ++ (s.read n).2.bytes := by
  rcases s with _ | ⟨piece | e, r⟩
  · rfl
  · by_cases hfits : piece.length ≤ n
    · rw [Script.read, if_pos hfits]
      rfl
    · rw [Script.read, if_neg hfits]
      simp only [Script.bytes, bytesRead]
      rw [← List.append_assoc, List.take_append_drop]
  · rfl

theorem Script.length_read_of_error {n : Nat} {s : Script} {e : IoError}
    (h : (s.read n).1 = .error e) : (s.read n).2.length < s.length := by
  rcases s with _ | ⟨piece | _, r⟩
  · cases h
  · by_cases hfits : piece.length ≤ n
    · rw [Script.read, if_pos hfits] at h
      cases h
    · rw [Script.read, if_neg hfits] at h
      cases h
  · exact Nat.lt_succ_self _

namespace Pump

/-! ## What is pending -/

/-- The end was seen. -/
def sawEnd : Except IoError Bool → Bool
  | .ok ended => ended
  | .error _ => false

theorem bytes_pending (s : Script) : s.bytes = (pending s).2.1 ++ (pending s).2.2.bytes := by
  fun_induction pending s with
  | case1 => rfl
  | case2 => rfl
  | case3 b bs r ended more rest hrest ih =>
    rw [hrest] at ih
    simp only [Script.bytes, ih, List.append_assoc]
  | case4 => rfl
  | case5 => rfl

/-- What a stream still delivers, nothing once its end has been seen. -/
def remaining (ended : Bool) (s : Script) : Bytes :=
  if ended then [] else s.delivered

theorem delivered_pending (s : Script) :
    s.delivered = (pending s).2.1 ++ remaining (sawEnd (pending s).1) (pending s).2.2 := by
  fun_induction pending s with
  | case1 => rfl
  | case2 => rfl
  | case3 b bs r ended more rest hrest ih =>
    rw [hrest] at ih
    simp only [Script.delivered, ih, List.append_assoc]
  | case4 => rfl
  | case5 => rfl

theorem length_pending {s : Script} (h : sawEnd (pending s).1 = false) :
    (pending s).2.2.length < s.length := by
  fun_induction pending s with
  | case1 => cases h
  | case2 => cases h
  | case3 b bs r ended more rest hrest ih =>
    rw [hrest] at ih
    exact Nat.lt_succ_of_lt (ih h)
  | case4 => exact Nat.lt_succ_self _
  | case5 => exact Nat.lt_succ_self _

/-! ## What went before a wait -/

/-- Each wait comes right after events of the allowed kind. -/
def WaitsOnlyAfter (allowed : List PumpEvent → Prop) (events : List PumpEvent) : Prop :=
  ∀ before after, events = before ++ .parked :: after → ∃ last, allowed last ∧ last <:+ before

section
variable {allowed : List PumpEvent → Prop} {events more : List PumpEvent}

theorem waitsOnlyAfter_of_not_mem (h : .parked ∉ events) : WaitsOnlyAfter allowed events := by
  intro before after hsplit
  refine absurd ?_ h
  rw [hsplit]
  exact List.mem_append_right _ (List.mem_cons_self ..)

theorem WaitsOnlyAfter.append (h : WaitsOnlyAfter allowed events)
    (hmore : WaitsOnlyAfter allowed more) : WaitsOnlyAfter allowed (events ++ more) := by
  intro before after hsplit
  rcases List.append_eq_append_iff.mp hsplit with
    ⟨middle, rfl, hlater⟩ | ⟨middle, hearlier, hrest⟩
  · obtain ⟨last, hallowed, hlast⟩ := hmore _ _ hlater
    exact ⟨last, hallowed, hlast.trans (List.suffix_append ..)⟩
  · rcases middle with _ | ⟨event, middle⟩
    · obtain ⟨last, hallowed, hlast⟩ := hmore [] after (by simpa using hrest.symm)
      exact ⟨last, hallowed, (List.suffix_nil.mp hlast) ▸ List.nil_suffix⟩
    · rw [List.cons_append, List.cons.injEq] at hrest
      rw [← hrest.1] at hearlier
      exact h _ _ hearlier

theorem WaitsOnlyAfter.park (h : WaitsOnlyAfter allowed events) (hallowed : allowed events) :
    WaitsOnlyAfter allowed (events ++ [.parked]) := by
  intro before after hsplit
  rcases List.append_eq_append_iff.mp hsplit with ⟨middle, rfl, hlater⟩ | ⟨middle, rfl, hrest⟩
  · rcases middle with _ | ⟨_, middle⟩
    · exact ⟨events, hallowed, by simp⟩
    · simp at hlater
  · rcases middle with _ | ⟨event, middle⟩
    · exact ⟨_, hallowed, by simp⟩
    · rw [List.cons_append, List.cons.injEq] at hrest
      exact h before middle (by rw [hrest.1])

end

/-! ## What an operation does -/

/-- The diagnostic output that is still to come. -/
def due (p : Pump) : Bytes :=
  remaining p.stderrEnded p.stderr

/-- From one pump to the other, `returned` of the output and `handed` of the diagnostic output were
given out; everything else is still there. -/
structure Passes (p q : Pump) (returned handed : Bytes) : Prop where
  output : p.stdout.bytes = returned ++ q.stdout.bytes
  diagnostic : p.diagnostic ++ p.stderr.bytes = handed ++ q.diagnostic ++ q.stderr.bytes
  due : p.diagnostic ++ p.due = handed ++ q.diagnostic ++ q.due

/-- What some work on a pump gave out, and that it waited only after allowed events. -/
structure Leads (allowed : List PumpEvent → Prop) (p q : Pump) (returned handed : Bytes) : Prop
    extends Passes p q returned handed where
  waits : ∃ new, q.events = p.events ++ new ∧ WaitsOnlyAfter allowed new

section
variable {allowed : List PumpEvent → Prop} {p q r : Pump} {returned handed returned' handed' : Bytes}

theorem Passes.refl (p : Pump) : Passes p p [] [] :=
  ⟨rfl, rfl, rfl⟩

theorem Passes.trans (h : Passes p q returned handed) (h' : Passes q r returned' handed') :
    Passes p r (returned ++ returned') (handed ++ handed') where
  output := by rw [h.output, h'.output, List.append_assoc]
  diagnostic := by
    rw [h.diagnostic, List.append_assoc, h'.diagnostic]
    simp only [List.append_assoc]
  due := by
    rw [h.due, List.append_assoc, h'.due]
    simp only [List.append_assoc]

theorem Passes.leads (h : Passes p q returned handed) {new : List PumpEvent}
    (hnew : q.events = p.events ++ new) (hquiet : .parked ∉ new) :
    Leads allowed p q returned handed :=
  ⟨h, new, hnew, waitsOnlyAfter_of_not_mem hquiet⟩

theorem Leads.refl (allowed : List PumpEvent → Prop) (p : Pump) : Leads allowed p p [] [] :=
  (Passes.refl p).leads (List.append_nil _).symm List.not_mem_nil

theorem Leads.trans (h : Leads allowed p q returned handed)
    (h' : Leads allowed q r returned' handed') :
    Leads allowed p r (returned ++ returned') (handed ++ handed') := by
  obtain ⟨new, hnew, hwaits⟩ := h.waits
  obtain ⟨new', hnew', hwaits'⟩ := h'.waits
  refine ⟨h.toPasses.trans h'.toPasses, new ++ new', ?_, hwaits.append hwaits'⟩
  rw [hnew', hnew, List.append_assoc]

theorem park_eq (p : Pump) : p.park.2 = p.note .parked :=
  rfl

/-- A wait is no more than its event; it needs allowed events right before it. -/
theorem Leads.park {last : List PumpEvent} (h : Leads allowed p q returned handed)
    (hevents : q.events = p.events ++ last) (hallowed : allowed last) :
    Leads allowed p q.park.2 returned handed := by
  obtain ⟨new, hnew, hwaits⟩ := h.waits
  obtain rfl : last = new := List.append_cancel_left (hevents.symm.trans hnew)
  rw [park_eq]
  refine ⟨⟨h.output, h.diagnostic, h.due⟩, last ++ [.parked], ?_, hwaits.park hallowed⟩
  simp only [note, hnew, List.append_assoc]

theorem leads_readOutput (allowed : List PumpEvent → Prop) (n : Nat) (p : Pump) :
    Leads allowed p (p.readOutput n).2 (bytesRead (p.readOutput n).1) [] :=
  Passes.leads ⟨Script.bytes_read n p.stdout, rfl, rfl⟩ rfl (by simp)

/-! ## Draining -/

theorem drain_of_ended (h : p.stderrEnded = true) :
    p.drain = (.ok 0, p.note (.drained (.ok 0) true)) := by
  unfold drain
  rw [if_pos h]
  simp only [h]

/-- A drain before the end moves all that is pending, also when it fails. -/
theorem drain_of_open (h : p.stderrEnded = false) :
    p.drain.1 = (pending p.stderr).1.map (fun _ => (pending p.stderr).2.1.length) ∧
      p.drain.2 =
        { p with
          stderr := (pending p.stderr).2.2
          diagnostic := p.diagnostic ++ (pending p.stderr).2.1
          stderrEnded := sawEnd (pending p.stderr).1 }.note
        (.drained p.drain.1 (sawEnd (pending p.stderr).1)) := by
  unfold drain
  rw [if_neg (by simp [h])]
  rcases pending p.stderr with ⟨_ | ended, moved, rest⟩
  · refine ⟨rfl, ?_⟩
    simp only [h]
    rfl
  · exact ⟨rfl, rfl⟩

theorem events_drain (p : Pump) :
    p.drain.2.events = p.events ++ [.drained p.drain.1 p.drain.2.stderrEnded] := by
  cases h : p.stderrEnded with
  | true => rw [drain_of_ended h]; simp only [note, h]
  | false => rw [(drain_of_open h).2]; rfl

theorem leads_drain (allowed : List PumpEvent → Prop) (p : Pump) :
    Leads allowed p p.drain.2 [] [] := by
  refine Passes.leads ?_ (events_drain p) (by simp)
  cases h : p.stderrEnded with
  | true =>
    rw [drain_of_ended h]
    exact ⟨rfl, rfl, rfl⟩
  | false =>
    rw [(drain_of_open h).2]
    refine ⟨rfl, ?_, ?_⟩
    · simp only [note, List.nil_append, List.append_assoc]
      rw [← bytes_pending]
    · simp only [due, note, h, List.nil_append, List.append_assoc]
      rw [← delivered_pending]
      rfl

theorem Leads.drainOrPark {atEnd : Bool} {before : List PumpEvent}
    (h : Leads allowed p q returned handed) (hevents : q.events = p.events ++ before)
    (hallowed : ∀ ended, (atEnd = true ∨ ¬ ended = true) →
      allowed (before ++ [.drained (.ok 0) ended])) :
    Leads allowed p (q.drainOrPark atEnd).2 returned handed := by
  have hdrain : Leads allowed p q.drain.2 returned handed := by
    simpa only [List.append_nil] using h.trans (leads_drain allowed q)
  have hdrained := events_drain q
  rw [hevents, List.append_assoc] at hdrained
  unfold Pump.drainOrPark
  rcases hresult : q.drain with ⟨e | moved, r⟩
  · rw [hresult] at hdrain
    exact hdrain
  rw [hresult] at hdrain hdrained
  dsimp only at hdrain hdrained ⊢
  by_cases hidle : moved = 0 ∧ (atEnd = true ∨ ¬ r.stderrEnded = true)
  · rw [if_pos hidle]
    rw [hidle.1] at hdrained
    exact hdrain.park hdrained (hallowed _ hidle.2)
  · rw [if_neg hidle]
    exact hdrain

/-- Before the end of the diagnostic output, a drain sees that end or uses up an item. -/
theorem drainOrPark_progress (atEnd : Bool) (hopen : p.stderrEnded = false) :
    (p.drainOrPark atEnd).2.stderrEnded = true ∨
      (p.drainOrPark atEnd).2.stderr.length < p.stderr.length := by
  have hdrain : p.drain.2.stderrEnded = true ∨ p.drain.2.stderr.length < p.stderr.length := by
    rw [(drain_of_open hopen).2]
    cases hend : sawEnd (pending p.stderr).1 with
    | true => exact Or.inl rfl
    | false => exact Or.inr (length_pending hend)
  unfold drainOrPark
  rcases hresult : p.drain with ⟨e | moved, q⟩
  · rw [hresult] at hdrain
    exact hdrain
  rw [hresult] at hdrain
  dsimp only
  split
  · rw [park_eq]
    exact hdrain
  · exact hdrain

/-- What a drain to the end may wait after: a drain that moved nothing and saw no end. -/
def NothingMoved (last : List PumpEvent) : Prop :=
  last = [.drained (.ok 0) false]

theorem leads_drainToEndOn (fuel : Nat) (p : Pump) :
    Leads NothingMoved p (drainToEndOn fuel p).2 [] [] := by
  induction fuel generalizing p with
  | zero => exact .refl _ p
  | succ fuel ih =>
    unfold drainToEndOn
    by_cases hended : p.stderrEnded = true
    · rw [if_pos hended]
      exact .refl _ p
    rw [if_neg hended]
    have hturn : Leads NothingMoved p (p.drainOrPark false).2 [] [] :=
      (Leads.refl _ p).drainOrPark (List.append_nil _).symm (by simp [NothingMoved])
    rcases h : p.drainOrPark false with ⟨e | ⟨⟩, q⟩
    · rw [h] at hturn
      exact hturn
    · rw [h] at hturn
      exact hturn.trans (ih q)

theorem ended_of_drainToEndOn {fuel : Nat} (p : Pump)
    (hfuel : p.stderrEnded = true ∨ p.stderr.length < fuel)
    (hok : (drainToEndOn fuel p).1 = .ok ()) : (drainToEndOn fuel p).2.stderrEnded = true := by
  induction fuel generalizing p with
  | zero => exact hfuel.resolve_right (Nat.not_lt_zero _)
  | succ fuel ih =>
    unfold drainToEndOn at hok ⊢
    by_cases hended : p.stderrEnded = true
    · rw [if_pos hended]
      exact hended
    rw [if_neg hended] at hok ⊢
    have hprogress := drainOrPark_progress false (Bool.eq_false_iff.mpr hended)
    rcases h : p.drainOrPark false with ⟨e | ⟨⟩, q⟩
    · rw [h] at hok
      cases hok
    rw [h] at hok hprogress
    refine ih q (hprogress.imp_right fun hless => ?_) hok
    have hlength := hfuel.resolve_left hended
    dsimp only at hless
    omega

/-! ## Reading the output -/

/-- What a read of the output may wait after: the output would have blocked, and a drain then
moved nothing. -/
def OutputBlocked (last : List PumpEvent) : Prop :=
  ∃ e ended, e.isWouldBlock = true ∧ last = [.output (.error e), .drained (.ok 0) ended]

theorem leads_readOn (fuel n : Nat) (p : Pump) :
    Leads OutputBlocked p (readOn fuel n p).2 (bytesRead (readOn fuel n p).1) [] := by
  induction fuel generalizing p with
  | zero => exact .refl _ p
  | succ fuel ih =>
    have hread := leads_readOutput OutputBlocked n p
    have hnoted : (p.readOutput n).2.events = p.events ++ [.output (p.readOutput n).1] := rfl
    unfold readOn
    rcases houtput : p.readOutput n with ⟨e | bytes, q⟩
    · rw [houtput] at hread hnoted
      dsimp only at hnoted ⊢
      by_cases hblocked : e.isWouldBlock = true
      · rw [if_pos hblocked]
        have hturn : Leads OutputBlocked p (q.drainOrPark true).2 [] [] :=
          hread.drainOrPark hnoted fun ended _ => ⟨e, ended, hblocked, rfl⟩
        rcases h : q.drainOrPark true with ⟨e' | ⟨⟩, r⟩
        · rw [h] at hturn
          exact hturn
        · rw [h] at hturn
          exact hturn.trans (ih r)
      · rw [if_neg hblocked]
        exact hread
    · rw [houtput] at hread
      exact hread

@[simp] theorem drainOrPark_stdout (atEnd : Bool) (p : Pump) :
    (p.drainOrPark atEnd).2.stdout = p.stdout := by
  have hdrain : p.drain.2.stdout = p.stdout := by
    cases h : p.stderrEnded with
    | true => rw [drain_of_ended h]; rfl
    | false => rw [(drain_of_open h).2]; rfl
  unfold drainOrPark
  rcases hresult : p.drain with ⟨e | moved, q⟩
  · rw [hresult] at hdrain
    exact hdrain
  rw [hresult] at hdrain
  dsimp only
  split
  · rw [park_eq]
    exact hdrain
  · exact hdrain

theorem readOn_ok {fuel n : Nat} {p : Pump} {bytes : Bytes} (hfuel : p.stdout.length < fuel)
    (h : (readOn fuel n p).1 = .ok bytes) :
    [.output (.ok bytes)] <:+ (readOn fuel n p).2.events := by
  induction fuel generalizing p with
  | zero => exact absurd hfuel (Nat.not_lt_zero _)
  | succ fuel ih =>
    unfold readOn at h ⊢
    have hnoted : (p.readOutput n).2.events = p.events ++ [.output (p.readOutput n).1] := rfl
    have hless : ∀ e, (p.readOutput n).1 = .error e →
        (p.readOutput n).2.stdout.length < p.stdout.length :=
      fun e he => Script.length_read_of_error he
    rcases houtput : p.readOutput n with ⟨e | bytes', q⟩
    · rw [houtput] at h hless
      dsimp only at h ⊢
      by_cases hblocked : e.isWouldBlock = true
      · rw [if_pos hblocked] at h ⊢
        have hstdout := q.drainOrPark_stdout true
        rcases hturn : q.drainOrPark true with ⟨e' | ⟨⟩, r⟩
        · rw [hturn] at h
          cases h
        · rw [hturn] at h hstdout
          refine ih ?_ h
          have := hless e rfl
          dsimp only at this hstdout
          rw [hstdout]
          omega
      · rw [if_neg hblocked] at h
        cases h
    · rw [houtput] at h hnoted
      obtain rfl : bytes' = bytes := Except.ok.inj h
      exact ⟨p.events, hnoted.symm⟩

end

/-! ## Runs -/

end Pump

/-- One thing asked of a pump. Its diagnostic output may be read at any time here; a reader of a real
one is kept waiting until the pump is finished. -/
inductive PumpStep where
  | read (n : Nat)
  | drain
  | drainToEnd
  | finish
  | readDiagnostic (n : Nat)

/-- What a pump answers. -/
inductive PumpAnswer where
  | read (result : Except IoError Bytes)
  | drained (result : Except IoError Nat)
  | drainedToEnd (result : Except IoError Unit)
  | finished
  | diagnostic (bytes : Bytes)

namespace PumpAnswer

/-- The bytes of the output that the answer returns. -/
def returned : PumpAnswer → Bytes
  | .read result => bytesRead result
  | _ => []

/-- The bytes of the diagnostic output that the answer hands out. -/
def handed : PumpAnswer → Bytes
  | .diagnostic bytes => bytes
  | _ => []

end PumpAnswer

namespace PumpStep

/-- The events that a wait of this step may come right after. -/
def MayWaitAfter : PumpStep → List PumpEvent → Prop
  | .read _ => Pump.OutputBlocked
  | .drainToEnd => Pump.NothingMoved
  | _ => fun _ => False

end PumpStep

namespace Pump

/-- A pump over two streams that has done nothing yet, and how its waits are going to end. -/
def start (stdout stderr : Script) (parkResult : Nat → Except IoError Unit) : Pump :=
  { stdout, stderr, parkResult }

/-- Does one thing that is asked. -/
def step : PumpStep → Pump → PumpAnswer × Pump
  | .read n, p => (.read (p.read n).1, (p.read n).2)
  | .drain, p => (.drained p.drain.1, p.drain.2)
  | .drainToEnd, p => (.drainedToEnd p.drainToEnd.1, p.drainToEnd.2)
  | .finish, p => (.finished, p.finish)
  | .readDiagnostic n, p => (.diagnostic (p.readDiagnostic n).1, (p.readDiagnostic n).2)

/-- Does one thing after the other; gives all answers in order. -/
def run : List PumpStep → Pump → List PumpAnswer × Pump
  | [], p => ([], p)
  | step :: steps, p =>
    ((p.step step).1 :: (run steps (p.step step).2).1, (run steps (p.step step).2).2)

/-- Whatever is asked, nothing is lost, and waits come only where they may. -/
theorem leads_step (step : PumpStep) (p : Pump) :
    Leads step.MayWaitAfter p (p.step step).2 (p.step step).1.returned
      (p.step step).1.handed := by
  cases step with
  | read n =>
    simp only [Pump.step, read]
    split
    · exact .refl _ p
    · exact leads_readOn _ n p
  | drain => exact leads_drain _ p
  | drainToEnd => exact leads_drainToEndOn _ p
  | finish => exact Passes.leads ⟨rfl, rfl, rfl⟩ (List.append_nil _).symm List.not_mem_nil
  | readDiagnostic n =>
    have hsplit : p.diagnostic = p.diagnostic.take n ++ p.diagnostic.drop n :=
      (List.take_append_drop n _).symm
    refine Passes.leads ⟨rfl, ?_, ?_⟩ (List.append_nil _).symm List.not_mem_nil
    · exact congrArg (· ++ p.stderr.bytes) hsplit
    · exact congrArg (· ++ p.due) hsplit

theorem passes_run (steps : List PumpStep) (p : Pump) :
    Passes p (run steps p).2 ((run steps p).1.flatMap PumpAnswer.returned)
      ((run steps p).1.flatMap PumpAnswer.handed) := by
  induction steps generalizing p with
  | nil => exact .refl p
  | cons step steps ih => exact (leads_step step p).toPasses.trans (ih _)

theorem read_ok {n : Nat} {p : Pump} {bytes : Bytes} (hn : n ≠ 0) (h : (p.read n).1 = .ok bytes) :
    [.output (.ok bytes)] <:+ (p.read n).2.events := by
  unfold read at h ⊢
  rw [if_neg hn] at h ⊢
  exact readOn_ok (Nat.lt_succ_self _) h

theorem drainToEnd_ok {p : Pump} (h : p.drainToEnd.1 = .ok ()) :
    p.drainToEnd.2.stderrEnded = true :=
  ended_of_drainToEndOn p (Or.inr (by omega)) h

/-- **A pump loses nothing and never waits needlessly.** After any steps, what its reads returned
is the front of the output, and what was handed out, followed by what is in the buffer, the front of
the diagnostic output; the streams hold the rest. Every next step waits only right after events that
call for it, however earlier waits have ended. If it is a read with room for a byte and succeeds, it
answers what the output gave last; if it is to drain to the end and succeeds, that end has been seen
and all before it moved. -/
theorem run_conserves (stdout stderr : Script) (parkResult : Nat → Except IoError Unit)
    (steps : List PumpStep) :
    let answers := (run steps (start stdout stderr parkResult)).1
    let p := (run steps (start stdout stderr parkResult)).2
    stdout.bytes = answers.flatMap PumpAnswer.returned ++ p.stdout.bytes ∧
      stderr.bytes = answers.flatMap PumpAnswer.handed ++ p.diagnostic ++ p.stderr.bytes ∧
      (∀ step : PumpStep, ∃ new, (p.step step).2.events = p.events ++ new ∧
        WaitsOnlyAfter step.MayWaitAfter new) ∧
      (∀ n bytes, n ≠ 0 → (p.read n).1 = .ok bytes →
        [.output (.ok bytes)] <:+ (p.read n).2.events) ∧
      (p.drainToEnd.1 = .ok () → p.drainToEnd.2.stderrEnded = true ∧
        stderr.delivered = answers.flatMap PumpAnswer.handed ++ p.drainToEnd.2.diagnostic) := by
  intro answers p
  have hrun : Passes (start stdout stderr parkResult) p (answers.flatMap PumpAnswer.returned)
    (answers.flatMap PumpAnswer.handed) := passes_run steps _
  refine ⟨hrun.output, hrun.diagnostic, fun step => (leads_step step p).waits,
    fun _ _ hn hok => read_ok hn hok, fun hok => ?_⟩
  have hended := drainToEnd_ok hok
  have hdue := (hrun.trans (leads_step .drainToEnd p).toPasses).due
  refine ⟨hended, ?_⟩
  simpa [start, due, remaining, step, hended, PumpAnswer.handed] using hdue

/-- A wait that fails ends its read, and the next read goes on from there. -/
example :
    let p := start [.fail (.plain .wouldBlock), .data [1]] [.fail (.plain .wouldBlock), .data [7]]
      fun n => if n = 1 then .error (.plain .timedOut) else .ok ()
    let q := (p.read 4).2
    ((p.read 4).1.toOption, (q.read 4).1.toOption, (q.drain.2.diagnostic, q.parks)) =
      (none, some [1], ([7], 1)) := by
  decide

end Pump

end GuestVault
