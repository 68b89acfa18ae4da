import GuestVault.Proofs.Host.Calls
import GuestVault.Proofs.Host.Logs

/-!
# The calls for one pair

All that a pair asks for is about one staged file and about the guest that its metadata names, and what
is written to the file comes from its archive (`Correlator.Pair.Asks`). A record that settles without a
pair asks for nothing (`Correlator.enact_adds`).
-/

namespace GuestVault

open GuestVault.Text

variable {σ κ ρ ε ε' α β : Type}

/-! ## Calls -/

namespace Call

/-- The call is about the staged file or about the guest. -/
def Concerns (path : String) (kind : Kind) (vmid : Nat) : Call → Prop
  | .create other | .stat other | .remove other => other = path
  | .write _ | .finish => True
  | .stop k id => k = kind ∧ id = vmid
  | .restore k id archive => k = kind ∧ id = vmid ∧ archive = path

/-- What the call writes. -/
def data : Call → Bytes
  | .write bytes => bytes
  | _ => []

/-- Calls are about one file and one guest, and what they write is the front of some data. -/
structure About (path : String) (kind : Kind) (vmid : Nat) (data : Bytes) (made : List Call) :
    Prop where
  concerns : ∀ call ∈ made, call.Concerns path kind vmid
  writes : made.flatMap Call.data <+: data

variable {path : String} {kind : Kind} {vmid : Nat} {bytes : Bytes} {made more : List Call}

theorem About.nil : About path kind vmid bytes [] :=
  ⟨nofun, List.nil_prefix⟩

theorem About.of_quiet (h : About path kind vmid [] made) : About path kind vmid bytes made :=
  ⟨h.concerns, h.writes.trans List.nil_prefix⟩

theorem About.concerns_append (h : About path kind vmid bytes made) {other : Bytes}
    (hmore : About path kind vmid other more) :
    ∀ call ∈ made ++ more, call.Concerns path kind vmid := by
  intro call hcall
  rcases List.mem_append.mp hcall with hcall | hcall
  · exact h.concerns call hcall
  · exact hmore.concerns call hcall

theorem About.quiet_append (h : About path kind vmid [] made)
    (hmore : About path kind vmid bytes more) : About path kind vmid bytes (made ++ more) := by
  refine ⟨h.concerns_append hmore, ?_⟩
  rw [List.flatMap_append, List.prefix_nil.mp h.writes, List.nil_append]
  exact hmore.writes

theorem About.append_quiet (h : About path kind vmid bytes made)
    (hmore : About path kind vmid [] more) : About path kind vmid bytes (made ++ more) := by
  refine ⟨h.concerns_append hmore, ?_⟩
  rw [List.flatMap_append, List.prefix_nil.mp hmore.writes, List.append_nil]
  exact h.writes

theorem About.write_cons (piece : Bytes) (h : About path kind vmid bytes made) :
    About path kind vmid (piece ++ bytes) ([.write piece] ++ made) := by
  refine ⟨fun call hcall => ?_, ?_⟩
  · rcases List.mem_cons.mp hcall with rfl | hcall
    · trivial
    · exact h.concerns call hcall
  · exact List.prefix_append_right_inj piece |>.mpr h.writes

end Call

open Call

/-! ## Actions that add calls -/

/-- Whatever an action adds to the calls has some property. -/
def Adds (P : List Call → Prop) (act : StateM (σ × List Call) α) : Prop :=
  ∀ s calls, ∃ made, (act (s, calls)).2.2 = calls ++ made ∧ P made

theorem adds_iff_yields {P : List Call → Prop} {act : StateM (σ × List Call) α} :
    Adds P act ↔ Yields (fun _ made => P made) act :=
  ⟨fun h t => h t.1 t.2, fun h s calls => h (s, calls)⟩

namespace Adds

variable {P Q R : List Call → Prop}

theorem mono {act : StateM (σ × List Call) α} (h : Adds P act) (hPQ : ∀ made, P made → Q made) :
    Adds Q act := by
  intro s calls
  obtain ⟨made, hcalls, hmade⟩ := h s calls
  exact ⟨made, hcalls, hPQ made hmade⟩

theorem idle (a : α) : Adds (fun made => made = []) (Pure.pure a : StateM (σ × List Call) α) :=
  fun _ calls => ⟨[], (List.append_nil calls).symm, rfl⟩

theorem pure (hP : P []) (a : α) : Adds P (Pure.pure a : StateM (σ × List Call) α) :=
  (idle a).mono fun _ hmade => hmade ▸ hP

theorem bind {x : StateM (σ × List Call) α} {f : α → StateM (σ × List Call) β} (hx : Adds P x)
    (hf : ∀ a, Adds Q (f a)) (hR : ∀ made more, P made → Q more → R (made ++ more)) :
    Adds R (x >>= f) := by
  rw [adds_iff_yields] at hx ⊢
  exact hx.bind (fun a _ _ => adds_iff_yields.mp (hf a)) fun _ made _ more => hR made more

theorem throw (hP : P []) (e : ε) : Adds P (throw e : Action (σ × List Call) ε α).run :=
  pure hP _

theorem ofExcept (hP : P []) (result : Except ε α) :
    Adds P (Action.ofExcept result : Action (σ × List Call) ε α).run := by
  cases result with
  | ok a => exact pure hP _
  | error e => exact throw hP e

/-- One action after another; if the first one fails, that is all. -/
theorem andThen {x : Action (σ × List Call) ε α} {f : α → Action (σ × List Call) ε β}
    (hx : Adds P x.run) (hf : ∀ a, Adds Q (f a).run) (hfails : ∀ made, P made → R made)
    (hR : ∀ made more, P made → Q more → R (made ++ more)) : Adds R (x >>= f).run := by
  rw [adds_iff_yields] at hx ⊢
  exact hx.andThen (fun a _ _ => adds_iff_yields.mp (hf a)) (fun _ => hfails)
    fun _ made _ more => hR made more

theorem lift {x : StateM (σ × List Call) α} (hx : Adds P x) :
    Adds P (liftM x : Action (σ × List Call) ε α).run :=
  hx

theorem attempt {x : Action (σ × List Call) ε α} (hx : Adds P x.run) :
    Adds P (x.attempt : Action (σ × List Call) ε' (Except ε α)).run :=
  hx

theorem mapError {x : Action (σ × List Call) ε α} (f : ε → ε') (hx : Adds P x.run) :
    Adds P (x.mapError f).run := by
  rw [adds_iff_yields] at hx ⊢
  exact hx.mapError f fun _ _ => id

theorem logged (call : Call) (act : Action σ ε α) :
    Adds (fun made => made = [call]) (act.logged call).run :=
  fun _ _ => ⟨[call], rfl, rfl⟩

section About

variable {path : String} {kind : Kind} {vmid : Nat} {bytes : Bytes}

theorem quiet (call : Call) (act : Action σ ε α) (hcall : call.Concerns path kind vmid)
    (hdata : call.data = []) : Adds (About path kind vmid []) (act.logged call).run := by
  refine (logged call act).mono ?_
  rintro _ rfl
  refine ⟨fun other hother => ?_, ?_⟩
  · rw [List.mem_singleton.mp hother]
    exact hcall
  · rw [List.prefix_nil, List.flatMap_singleton, hdata]

theorem quiet_then {x : Action (σ × List Call) ε α} {f : α → Action (σ × List Call) ε β}
    (hx : Adds (About path kind vmid []) x.run) (hf : ∀ a, Adds (About path kind vmid bytes) (f a).run) :
    Adds (About path kind vmid bytes) (x >>= f).run :=
  andThen hx hf (fun _ => About.of_quiet) fun _ _ => About.quiet_append

theorem then_quiet {x : Action (σ × List Call) ε α} {f : α → Action (σ × List Call) ε β}
    (hx : Adds (About path kind vmid bytes) x.run) (hf : ∀ a, Adds (About path kind vmid []) (f a).run) :
    Adds (About path kind vmid bytes) (x >>= f).run :=
  andThen hx hf (fun _ => id) fun _ _ => About.append_quiet

end About

end Adds

/-! ## Staging and restoring -/

section

variable [ByteSource ρ] (host : Host σ κ) (guest : Guest σ) (settings : RestoreSettings)
  {path : String} {kind : Kind} {vmid : Nat}

theorem Host.now_adds : Adds (fun made => made = []) host.logged.now :=
  fun _ calls => ⟨[], (List.append_nil calls).symm, rfl⟩

theorem Host.note_adds (level : LogLevel) (message : String) :
    Adds (fun made => made = []) (host.logged.note level message) :=
  fun _ calls => ⟨[], (List.append_nil calls).symm, rfl⟩

theorem Host.note_quiet (level : LogLevel) (message : String) :
    Adds (About path kind vmid []) (host.logged.note level message) := by
  refine (host.note_adds level message).mono ?_
  rintro _ rfl
  exact .nil

theorem Host.copyOn_adds (fuel : Nat) (reader : ρ) (sink : κ) :
    Adds (About path kind vmid (readOn fuel reader).2.1)
      (host.logged.copyOn fuel reader sink).run := by
  induction fuel generalizing reader sink with
  | zero => exact .pure .nil _
  | succ fuel ih =>
    unfold Host.copyOn readOn
    rcases ByteSource.read pieceSize reader with ⟨e | (_ | ⟨b, bs⟩), reader⟩
    · dsimp only
      split
      · exact ih reader sink
      · exact .throw .nil _
    · exact .pure .nil _
    · refine .andThen (Adds.logged (.write (b :: bs)) _)
        (fun sink => .then_quiet (ih reader sink) fun _ => .pure .nil _) ?_ ?_
      · rintro _ rfl
        exact About.write_cons (b :: bs) .nil
      · rintro _ more rfl hmore
        exact About.write_cons (b :: bs) hmore

namespace Staging

theorem stage_adds (reader : ρ) (path : String) :
    Adds (About path kind vmid (readToEnd reader).2.1) (stage host.logged reader path).run := by
  unfold stage
  refine .quiet_then (.quiet (.create path) _ rfl rfl) fun sink => ?_
  refine .then_quiet (.mapError _ (host.copyOn_adds _ reader sink)) fun ⟨written, sink⟩ => ?_
  refine .quiet_then (.quiet .finish _ trivial rfl) fun _ => ?_
  refine .quiet_then (.quiet (.stat path) _ rfl rfl) fun stat => ?_
  split
  · exact .throw .nil _
  · exact .pure .nil _

theorem replace_adds (reader : ρ) (kind : Kind) (vmid : Nat) (path : String) :
    Adds (About path kind vmid (readToEnd reader).2.1)
      (replace host.logged guest.logged reader kind vmid path).run := by
  unfold replace
  refine .then_quiet (stage_adds host reader path) fun _ => ?_
  refine .quiet_then (.quiet (.stop kind vmid) _ ⟨rfl, rfl⟩ rfl) fun _ => ?_
  exact .quiet (.restore kind vmid path) _ ⟨rfl, rfl, rfl⟩ rfl

theorem cleanup_adds (path : String) :
    Adds (About path kind vmid []) (cleanup host.logged settings path) := by
  unfold cleanup
  split
  · refine .bind (.quiet (.remove path) (host.remove path) rfl rfl) (fun result => ?_)
      fun _ _ => About.quiet_append
    cases result with
    | ok _ => exact .pure About.nil _
    | error e => exact .bind (host.note_quiet _ _) (fun _ => .pure About.nil _) fun _ _ =>
        About.quiet_append
  · exact .pure .nil _

/-- All that is asked for to restore an archive is about the staged file and the guest that the metadata
names. -/
theorem restore_adds (archive : String) (reader : ρ) {metadata : Metadata}
    (hvalid : metadata.validate archive = .ok (kind, vmid)) :
    Adds (fun made => ∃ now, About
        (joinPath settings.stagingDir (stagingName archive kind vmid now)) kind vmid
        (readToEnd reader).2.1 made)
      (restore host.logged guest.logged settings archive reader metadata).run := by
  unfold restore
  rw [hvalid]
  simp only [Action.ofExcept, pure_bind]
  refine .andThen (.lift host.now_adds) (fun now => ?_) ?_ ?_
    (Q := fun made => ∃ now, About
      (joinPath settings.stagingDir (stagingName archive kind vmid now)) kind vmid
      (readToEnd reader).2.1 made)
  · refine Adds.mono ?_ fun made hmade => ⟨now, hmade⟩
    refine .quiet_then (.lift (host.note_quiet _ _)) fun _ => ?_
    refine .then_quiet (.attempt (replace_adds host guest reader kind vmid _)) fun result => ?_
    refine .quiet_then (.lift (cleanup_adds host settings _)) fun left => ?_
    refine .quiet_then (.ofExcept .nil result) fun _ => ?_
    exact .quiet_then (.lift (host.note_quiet _ _)) fun _ => .pure .nil _
  · rintro _ rfl
    exact ⟨⟨0, 0, 0⟩, .nil⟩
  · rintro _ more rfl hmore
    exact hmore

end Staging

/-! ## Replies -/

namespace Correlator

/-- The calls are those for the pair: its metadata names the guest, they are about this guest and a
staged file of the archive, and what is written to that file comes from the archive. -/
def Pair.Asks (settings : RestoreSettings) (pair : Pair ρ) (made : List Call) : Prop :=
  ∃ kind vmid now, pair.metadata.validate pair.archive = .ok (kind, vmid) ∧
    About (joinPath settings.stagingDir (stagingName pair.archive kind vmid now)) kind vmid
      (readToEnd pair.payload.reader).2.1 made

/-- Only a pair asks for anything. -/
def Reply.Asks (settings : RestoreSettings) : Reply ρ → List Call → Prop
  | .settle _ _, made => made = []
  | .restore pair, made => pair.Asks settings made

theorem sayAll_adds (notes : List LogEntry) :
    Adds (fun made => made = []) (Restore.sayAll host.logged notes) := by
  induction notes with
  | nil => exact .idle _
  | cons note rest ih =>
    refine .bind (host.note_adds _ _) (fun _ => ih) ?_
    rintro _ _ rfl rfl
    rfl

/-- **A reply asks for its pair and for nothing else.** -/
theorem enact_adds (reply : Reply ρ)
    (hvalid : ∀ pair, reply.pair? = some pair →
      ∃ named, pair.metadata.validate pair.archive = .ok named) :
    Adds (reply.Asks settings) (reply.enact host.logged guest.logged settings) := by
  cases reply with
  | settle notes resolved =>
    refine .bind (sayAll_adds host notes) (fun _ => .idle _) ?_
    rintro _ _ rfl rfl
    rfl
  | restore pair =>
    obtain ⟨⟨kind, vmid⟩, hnamed⟩ := hvalid pair rfl
    refine .bind (Staging.restore_adds host guest settings pair.archive pair.payload.reader hnamed)
      (Q := fun made => made = []) (fun result => ?_) ?_
    · cases result with
      | ok outcome => exact .idle _
      | error e =>
        refine .bind (host.note_adds _ _) (fun _ => .idle _) ?_
        rintro _ _ rfl rfl
        rfl
    · rintro made _ ⟨now, hmade⟩ rfl
      rw [List.append_nil]
      exact ⟨kind, vmid, now, hnamed, hmade⟩

end Correlator

end

end GuestVault
