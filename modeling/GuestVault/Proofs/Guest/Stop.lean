import GuestVault.Guest
import GuestVault.Host.Scripted
import GuestVault.Proofs.Stream.Collection
import GuestVault.Proofs.Text.Lower

/-!
# Which failures to stop a guest are ignored

A failed stop counts as none only if the tool itself failed, and says in any case that there is
nothing to stop. So the answer is decided by how the collection of its output ends
(`failures_ignored_iff`): the cases of `StreamHandle.Collects` that are no failures of the tool are
never ignored, whatever was said.

`SaysStopped` is the search for phrases with a lower case of which no more is known than `Lowered`
tells; it finds the same as the one here (`isAlreadyStopped_iff`).
-/

namespace GuestVault

namespace Guest

open Text

variable {σ κ : Type} {host : Host σ κ} {kind : Kind} {vmid : Nat} {s s' : σ} {e : Error}
  {low : List Char → List Char}

/-- A text in lower case has one of the phrases that mean that there is nothing to stop. -/
def SaysStopped (low : List Char → List Char) (text : String) : Prop :=
  ∃ phrase ∈ alreadyStoppedPhrases, phrase.toList <:+: low text.toList

theorem alreadyStoppedPhrases_ascii {phrase : String} (h : phrase ∈ alreadyStoppedPhrases) :
    ∀ c ∈ phrase.toList, c.toNat < 128 := by
  have hall : alreadyStoppedPhrases.all (·.toList.all (·.toNat < 128)) = true := by
    decide +kernel
  simp only [List.all_eq_true, decide_eq_true_eq] at hall
  exact hall phrase h

theorem isAlreadyStopped_iff (hlow : ∀ t, Lowered t (low t)) (text : String) :
    isAlreadyStopped text = true ↔ SaysStopped low text := by
  unfold isAlreadyStopped SaysStopped
  rw [List.any_eq_true]
  refine exists_congr fun phrase => and_congr_right fun hmem => ?_
  rw [occursIn_iff, infix_iff_of_lowered (alreadyStoppedPhrases_ascii hmem) (hlow _)]

theorem isBenign_iff :
    isBenign e = true ↔ ∃ program status text,
      e = .command program status text ∧ isAlreadyStopped text = true := by
  cases e with
  | command program status text =>
    refine ⟨fun h => ⟨program, status, text, rfl, h⟩, ?_⟩
    rintro ⟨program, status, text, heq, h⟩
    cases heq
    exact h
  | _ => exact iff_of_false Bool.false_ne_true fun ⟨_, _, _, heq, _⟩ => nomatch heq

/-- What the command that stops a guest answers. -/
def stopAnswer (host : Host σ κ) (kind : Kind) (vmid : Nat) (s : σ) : Except Error Output :=
  ((host.run (stopCommand kind vmid)).run s).1

/-- What stopping a guest answers. -/
def stopResult (host : Host σ κ) (kind : Kind) (vmid : Nat) (s : σ) : Except Error Unit :=
  (((ofHost host).stop kind vmid).run s).1

/-- The answer to stopping a guest is the answer of the command, but for the failures that are
ignored. -/
theorem stopResult_eq : stopResult host kind vmid s = match stopAnswer host kind vmid s with
    | .ok _ => .ok ()
    | .error e => if isBenign e then .ok () else .error e := by
  unfold stopResult stopAnswer ofHost
  dsimp only
  rcases hrun : (host.run (stopCommand kind vmid)).run s with ⟨answer, t⟩
  rw [Action.run_bind_of_ok (Action.run_attempt_of_eq hrun)]
  cases answer with
  | ok output => rfl
  | error e =>
    dsimp only
    split
    · rw [Action.run_lift]
    · rfl

theorem stopAnswer_of_refused (h : host.openStream (stopCommand kind vmid) s = (.error e, s')) :
    stopAnswer host kind vmid s = .error e := by
  unfold stopAnswer Host.run
  rw [Action.run_bind_of_error h]

theorem stopResult_of_error (h : stopAnswer host kind vmid s = .error e) :
    (stopResult host kind vmid s = .ok () ↔ isBenign e = true) ∧
      (isBenign e = false → stopResult host kind vmid s = .error e) := by
  rw [stopResult_eq, h]
  cases hbenign : isBenign e <;> simp [hbenign]

/-- A failure that ends a collection is ignored exactly if the tool ended with it by itself, and says
that there is nothing to stop. -/
theorem isBenign_iff_of_collects {h : StreamHandle} (hends : h.Collects (.error e)) :
    isBenign e = true ↔ h.stdout.fault? = none ∧
      (∃ exit, h.process.ended = .ok exit ∧ exit.success = false) ∧
      h.cancelled = false ∧ isAlreadyStopped h.complaint = true := by
  cases hends with
  | unread hfault =>
    rw [hfault]
    exact iff_of_false Bool.false_ne_true nofun
  | cancelled hread hfailed hcancelled =>
    rw [hcancelled]
    exact iff_of_false Bool.false_ne_true nofun
  | unwaited hread hwait hleft =>
    rw [hwait]
    exact iff_of_false Bool.false_ne_true nofun
  | @failed exit hread hwait hfailed hleft =>
    exact ⟨fun hsays => ⟨hread, ⟨exit, hwait, hfailed⟩, hleft, hsays⟩, fun h => h.2.2.2⟩

theorem stopResult_ok_iff {h : StreamHandle} (hends : h.Collects (stopAnswer host kind vmid s)) :
    stopResult host kind vmid s = .ok () ↔
      h.stdout.fault? = none ∧ EndedWell h.process.ended ∨
        h.stdout.fault? = none ∧ (∃ exit, h.process.ended = .ok exit ∧ exit.success = false) ∧
          h.cancelled = false ∧ isAlreadyStopped h.complaint = true := by
  have hwell := hends.ok_iff
  cases hanswer : stopAnswer host kind vmid s with
  | ok output =>
    rw [hanswer] at hwell
    rw [stopResult_eq, hanswer]
    exact iff_of_true rfl (.inl (hwell.mp ⟨output, rfl⟩))
  | error e =>
    rw [hanswer] at hends hwell
    rw [(stopResult_of_error hanswer).1, isBenign_iff_of_collects hends]
    exact (or_iff_right fun h => nomatch hwell.mpr h).symm

/-- **Exactly the harmless failures to stop a guest are ignored.** An error that is no failure of the
tool is passed on, be it that the tool could not be started, that it was cancelled, or that its output
or its end could not be read. A tool that was started, so that its handle is open, counts as having
stopped the guest exactly if it succeeds, or if its output can be read, it ends with a failure without
having been cancelled, and its complaint has one of the phrases; else its own error is passed on. -/
theorem failures_ignored_iff (host : Host σ κ) (kind : Kind) (vmid : Nat) (s : σ)
    (low : List Char → List Char) (hlow : ∀ t, Lowered t (low t)) :
    (∀ e s', host.openStream (stopCommand kind vmid) s = (.error e, s') →
        stopAnswer host kind vmid s = .error e) ∧
      (∀ e, stopAnswer host kind vmid s = .error e →
        (∀ program status text, e ≠ .command program status text) →
          stopResult host kind vmid s = .error e) ∧
      ∀ h s', host.openStream (stopCommand kind vmid) s = (.ok h, s') → h.outcome = none →
        h.Collects (stopAnswer host kind vmid s) ∧
        (stopResult host kind vmid s = .ok () ↔
          h.stdout.fault? = none ∧ EndedWell h.process.ended ∨
            h.stdout.fault? = none ∧
              (∃ exit, h.process.ended = .ok exit ∧ exit.success = false) ∧
              h.cancelled = false ∧ SaysStopped low h.complaint) ∧
        (stopResult host kind vmid s ≠ .ok () →
          ∃ e, stopAnswer host kind vmid s = .error e ∧ stopResult host kind vmid s = .error e) := by
  refine ⟨fun e s' h => stopAnswer_of_refused h, fun e h hother => ?_, fun h s' hstart hopen => ?_⟩
  · refine (stopResult_of_error h).2 (Bool.eq_false_iff.mpr fun hbenign => ?_)
    obtain ⟨program, status, text, heq, -⟩ := isBenign_iff.mp hbenign
    exact hother program status text heq
  · have hends : h.Collects (stopAnswer host kind vmid s) := by
      unfold stopAnswer
      rw [Host.run_fst hstart]
      exact StreamHandle.collects_collect hopen
    refine ⟨hends, ?_, fun hfailed => ?_⟩
    · rw [← isAlreadyStopped_iff hlow]
      exact stopResult_ok_iff hends
    · cases hanswer : stopAnswer host kind vmid s with
      | ok output =>
        rw [stopResult_eq, hanswer] at hfailed
        exact absurd rfl hfailed
      | error e =>
        have hresult := stopResult_of_error hanswer
        exact ⟨e, rfl, hresult.2 (Bool.eq_false_iff.mpr fun h => hfailed (hresult.1.mpr h))⟩

/-- A tool that complains on its output, in capitals, that there is no such guest is ignored; after a
cancellation it is not. -/
theorem missing_guest_ignored :
    let tool (cancelled : Bool) : ScriptedHost :=
      { replies := [("pct", [.stream (.ofBytes (Text.utf8 "CT 101 DOES NOT EXIST\n")) []
          { ended := .ok (.ofCode 2) } cancelled])]
        moment := { unix := 0, nanos := 0, offset := 0 } }
    (∀ t, Lowered t (lower t)) ∧
      stopResult ScriptedHost.host .lxc 101 (tool false) = .ok () ∧
      stopResult ScriptedHost.host .lxc 101 (tool true) = .error (.cancelled "pct" "") := by
  intro tool
  have hignored (cancelled : Bool) :=
    failures_ignored_iff ScriptedHost.host .lxc 101 (tool cancelled) lower lowered_lower
  refine ⟨lowered_lower, ?_, ?_⟩
  · obtain ⟨-, hresult, -⟩ := (hignored false).2.2 _ _ rfl rfl
    exact hresult.mpr (.inr ⟨rfl, ⟨.ofCode 2, rfl, rfl⟩, rfl, "does not exist", by decide,
      occursIn_iff.mp (by decide +kernel)⟩)
  · refine (hignored true).2.1 _ ?_ nofun
    decide +kernel

end Guest

end GuestVault
