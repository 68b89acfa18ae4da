import GuestVault.Host.Scripted
import GuestVault.Proofs.Host.Counting
import GuestVault.Proofs.Restore.Course
import GuestVault.Proofs.Stream.Delivery

/-!
# How a pair is completed

Whatever a host and its guests do, a pair takes the stages of its errand in order up to the first
one that fails (`Staging.replace_yields`), and the staged file is removed after that if it is asked
for (`Staging.cleanup_yields`). Both records get the outcome that this makes
(`Correlator.complete_in_order`).
-/

namespace GuestVault

open GuestVault.Text

variable {σ κ ρ : Type}

/-! ## Outcomes -/

/-- The removal of a staged file, if that is asked for. -/
def RestoreSettings.removal (settings : RestoreSettings) (path : String) (left : Option Error) :
    List Deed :=
  if settings.cleanup then [.remove path left] else []

/-- What becomes of both records, by the first fault of the stages and by that of the removal. -/
def Errand.outcome (errand : Errand) (fault left : Option Error) : Outcome :=
  match fault with
  | none => .restored errand.kind errand.vmid errand.path left
  | some e => .failed e

/-- The stages are taken in order and the staged file is removed, and the outcome fits what came of
it. -/
def Errand.Closes (errand : Errand) (settings : RestoreSettings) (outcome : Outcome)
    (made : List Deed) : Prop :=
  ∃ taken fault left, made = taken ++ settings.removal errand.path left ∧
    errand.Course Stage.all taken fault ∧ (settings.cleanup = false → left = none) ∧
    outcome = errand.outcome fault left

/-! ## Staging and replacing -/

section

variable [ByteSource ρ] (host : Host σ κ) (guest : Guest σ) (settings : RestoreSettings)

/-- An action that takes a stage, and another one that takes the rest. -/
theorem Yields.first {errand : Errand} {stage : Stage} {rest : List Stage} {α β : Type}
    {P : Except Error α → List Deed → Prop} {x : Action (σ × List Deed) Error α}
    {f : α → Action (σ × List Deed) Error β} (hx : Yields P x.run)
    (htakes : ∀ result made, P result made → errand.Takes stage made (faultOf result))
    (hf : ∀ a made, P (.ok a) made →
      Yields (fun result more => errand.Course rest more (faultOf result)) (f a).run) :
    Yields (fun result made => errand.Course (stage :: rest) made (faultOf result)) (x >>= f).run :=
  .andThen hx hf (fun _ made hmade => .stopped (htakes _ made hmade)) fun _ made _ _ hmade =>
    .onward (htakes _ made hmade)

/-- A copy that succeeds has counted so many bytes. -/
def Counts {ε : Type} (n : Nat) (result : Except ε (Nat × κ)) : Prop :=
  ∀ copied, result = .ok copied → copied.1 = n

theorem counts_ok_iff {ε : Type} {n : Nat} {copied : Nat × κ} :
    Counts n (.ok copied : Except ε _) ↔ copied.1 = n := by
  constructor
  · intro h
    exact h copied rfl
  · rintro h _ ⟨⟩
    exact h

theorem counts_error {ε : Type} (n : Nat) (e : ε) : Counts n (.error e : Except ε (Nat × κ)) := by
  rintro _ ⟨⟩

theorem Yields.counted {payload : Bytes} {readFault : Option IoError}
    {act : Action (σ × List Deed) IoError (Nat × κ)}
    (h : Yields (fun result made => Copied payload readFault made (faultOf result) ∧
      Counts payload.length result) act.run) (before : Nat) :
    Yields (fun result made => Copied payload readFault made (faultOf result) ∧
        Counts (before + payload.length) result)
      (do
        let (count, sink) ← act
        return (before + count, sink) : Action (σ × List Deed) IoError (Nat × κ)).run := by
  refine .andThen (Q := fun copied result made => made = [] ∧
    result = .ok (before + copied.1, copied.2)) h (fun _ _ _ => .pure ⟨rfl, rfl⟩) ?_ ?_
  · rintro e made ⟨hcopied, -⟩
    exact ⟨hcopied, counts_error _ e⟩
  · rintro copied made _ _ ⟨hcopied, hcount⟩ ⟨rfl, rfl⟩
    rw [List.append_nil]
    refine ⟨hcopied, counts_ok_iff.mpr ?_⟩
    rw [counts_ok_iff.mp hcount]

theorem Host.copyOn_yields (fuel : Nat) (reader : ρ) (sink : κ) :
    Yields (fun result made =>
        Copied (readOn fuel reader).2.1 (faultOf (readOn fuel reader).1) made (faultOf result) ∧
          Counts (readOn fuel reader).2.1.length result)
      (host.audited.copyOn fuel reader sink).run := by
  induction fuel generalizing reader sink with
  | zero => exact .pure ⟨.nil _, counts_ok_iff.mpr rfl⟩
  | succ fuel ih =>
    unfold Host.copyOn readOn
    rcases ByteSource.read pieceSize reader with ⟨e | (_ | ⟨b, bs⟩), reader⟩
    · dsimp only
      split
      · exact ih reader sink
      · exact .throw ⟨.nil _, counts_error _ e⟩
    · exact .pure ⟨.nil _, counts_ok_iff.mpr rfl⟩
    · refine .andThen (host.writeAll_yields sink _)
        (fun sink _ _ => (ih reader sink).counted (bs.length + 1)) ?_ ?_
      · rintro e _ rfl
        exact ⟨.broken (b :: bs) e _ _, counts_error _ e⟩
      · rintro sink _ result more rfl ⟨hcopied, hcount⟩
        refine ⟨hcopied.cons (b :: bs), ?_⟩
        rw [List.length_append, List.length_cons]
        exact hcount

/-- What a pair asks for, by its reader. -/
def Errand.ofReader (path : String) (kind : Kind) (vmid : Nat) (reader : ρ) : Errand :=
  { path, kind, vmid, payload := (readToEnd reader).2.1, fault? := faultOf (readToEnd reader).1 }

namespace Staging

theorem confirm_yields (errand : Errand) {written : Nat}
    (hwritten : written = errand.payload.length) :
    Yields (fun result made => errand.Course [.confirm] made (faultOf result))
      (do
        let stat ← host.audited.stat errand.path
        if stat.size ≠ written then
          throw (.validation ("staged file " ++ errand.path ++ " has " ++ toString stat.size ++
            " bytes, expected " ++ toString written)) : Action (σ × List Deed) Error Unit).run := by
  refine .andThen (Q := fun stat result made => made = [] ∧
    faultOf result = errand.sizeFault (.ok stat.size)) (host.stat_yields errand.path)
    (fun stat _ _ => ?_) ?_ ?_
  · unfold Errand.sizeFault
    dsimp only
    subst hwritten
    by_cases hsize : stat.size = errand.payload.length
    · rw [if_neg (not_not_intro hsize), if_pos hsize]
      exact .pure ⟨rfl, rfl⟩
    · rw [if_pos hsize, if_neg hsize]
      exact .throw ⟨rfl, rfl⟩
  · rintro e _ rfl
    exact .single ⟨.error e, rfl, rfl⟩
  · rintro stat _ result _ rfl ⟨rfl, hfault⟩
    exact .single ⟨.ok stat.size, List.append_nil _, hfault⟩

theorem copy_yields (reader : ρ) (sink : κ) (path : String) (kind : Kind) (vmid : Nat) :
    Yields (fun result made =>
        (Errand.ofReader path kind vmid reader).Takes .copy made (faultOf result) ∧
          Counts (Errand.ofReader path kind vmid reader).payload.length result)
      ((host.audited.copy reader sink).mapError (.io ("stage " ++ path))).run := by
  refine .mapError _ (host.copyOn_yields _ reader sink) ?_
  rintro (e | copied) made ⟨hcopied, hcount⟩
  · exact ⟨⟨some e, hcopied, rfl⟩, counts_error _ _⟩
  · exact ⟨⟨none, hcopied, rfl⟩, counts_ok_iff.mpr (counts_ok_iff.mp hcount)⟩

/-- **Staging takes its stages in order.** -/
theorem stage_yields (reader : ρ) (path : String) (kind : Kind) (vmid : Nat) :
    Yields (fun result made =>
        (Errand.ofReader path kind vmid reader).Course Stage.staging made (faultOf result))
      (stage host.audited reader path).run := by
  unfold stage
  refine .first (host.create_yields path) (fun _ _ => id) fun sink _ _ => ?_
  refine .first (copy_yields host reader sink path kind vmid) (fun _ _ => And.left)
    fun copied _ hcopy => ?_
  refine .first (host.finish_yields copied.2) (fun _ _ => id) fun _ _ _ => ?_
  exact confirm_yields host (Errand.ofReader path kind vmid reader)
    (counts_ok_iff.mp hcopy.2)

/-- **A guest is replaced after its archive is staged**, in order. -/
theorem replace_yields (reader : ρ) (kind : Kind) (vmid : Nat) (path : String) :
    Yields (fun result made =>
        (Errand.ofReader path kind vmid reader).Course Stage.all made (faultOf result))
      (replace host.audited guest.audited reader kind vmid path).run := by
  unfold replace
  refine .andThen (Q := fun _ result made =>
      (Errand.ofReader path kind vmid reader).Course Stage.replacing made (faultOf result))
    (stage_yields host reader path kind vmid) (fun _ _ _ => ?_)
    (fun e made hfails => hfails.append_of_some _) fun _ made result more => Errand.Course.append
  refine .first (guest.stop_yields kind vmid) (fun _ _ => id) fun _ _ _ => ?_
  refine (guest.restore_yields path kind vmid).mono fun result made hmade => ?_
  have htakes : (Errand.ofReader path kind vmid reader).Takes .restore made (faultOf result) :=
    hmade
  exact .single htakes

/-- **A staged file is removed if that is asked for**, and what goes wrong with it is known. -/
theorem cleanup_yields (path : String) :
    Yields (fun left made => made = settings.removal path left ∧
        (settings.cleanup = false → left = none))
      (cleanup host.audited settings path) := by
  unfold cleanup RestoreSettings.removal
  cases hcleanup : settings.cleanup with
  | false => exact .pure ⟨rfl, fun _ => rfl⟩
  | true =>
    refine .bind (Q := fun result left made => made = [] ∧ left = faultOf result)
      (host.remove_yields path) (fun result _ _ => ?_) ?_
    · cases result with
      | ok _ => exact .pure ⟨rfl, rfl⟩
      | error e =>
        refine .bind (Q := fun _ left made => made = [] ∧ left = some e) (host.note_yields _ _)
          (fun _ _ _ => .pure ⟨rfl, rfl⟩) ?_
        rintro _ _ left _ rfl ⟨rfl, hleft⟩
        exact ⟨rfl, hleft⟩
    · rintro result _ left _ rfl ⟨rfl, rfl⟩
      exact ⟨rfl, nofun⟩

/-- **A restore takes its stages and removes the staged file.** -/
theorem restore_closes {archive : String} (reader : ρ) {metadata : Metadata} {kind : Kind}
    {vmid : Nat} (hvalid : metadata.validate archive = .ok (kind, vmid)) (t : σ × List Deed) :
    ∃ made,
      ((restore host.audited guest.audited settings archive reader metadata).run t).2.2 =
        t.2 ++ made ∧
      (Errand.ofReader
        (joinPath settings.stagingDir (stagingName archive kind vmid (host.now t.1).1)) kind vmid
        reader).Closes settings
          (Correlator.outcomeOf
            ((restore host.audited guest.audited settings archive reader metadata).run t).1)
          made := by
  unfold restore
  rw [hvalid]
  simp only [Action.ofExcept, pure_bind]
  refine host.now_then (P := fun result made => (Errand.ofReader
    (joinPath settings.stagingDir (stagingName archive kind vmid (host.now t.1).1)) kind vmid
    reader).Closes settings (Correlator.outcomeOf result) made) ?_
  generalize joinPath settings.stagingDir (stagingName archive kind vmid (host.now t.1).1) = path
  let errand := Errand.ofReader path kind vmid reader
  refine .lift_then (host.note_yields _ _) (fun _ _ _ => ?_)
    (Q := fun _ result made => errand.Closes settings (Correlator.outcomeOf result) made) ?_
  · refine .attempt_then (replace_yields host guest reader kind vmid path) (fun result _ _ => ?_)
      (Q := fun first result made => ∃ left, made = settings.removal path left ∧
        (settings.cleanup = false → left = none) ∧
        Correlator.outcomeOf result = errand.outcome (faultOf first) left) ?_
    · refine .lift_then (cleanup_yields host settings path) (fun left _ _ => ?_)
        (Q := fun left next made => made = [] ∧
          Correlator.outcomeOf next = errand.outcome (faultOf result) left) ?_
      · cases result with
        | error e => exact .throw ⟨rfl, rfl⟩
        | ok _ =>
          refine .lift_then (host.note_yields _ _) (fun _ _ _ => .pure ⟨rfl, rfl⟩)
            (Q := fun _ next made => made = [] ∧
              Correlator.outcomeOf next = errand.outcome none left) ?_
          rintro _ _ next _ rfl hnext
          exact hnext
      · rintro left _ next _ ⟨rfl, hnone⟩ ⟨rfl, houtcome⟩
        exact ⟨left, List.append_nil _, hnone, houtcome⟩
    · rintro first taken result _ htaken ⟨left, rfl, hnone, houtcome⟩
      exact ⟨taken, faultOf first, left, rfl, htaken, hnone, houtcome⟩
  · rintro _ _ result more rfl hmore
    exact hmore

end Staging

/-! ## Pairs -/

namespace Correlator

/-- What is done to complete a pair. -/
def deeds (archive : String) (payload : Record ρ) (sidecar : String) (metadata : Metadata) (s : σ) :
    List Deed :=
  (complete host.audited guest.audited settings archive payload sidecar metadata (s, [])).2.2

theorem complete_audited (archive : String) (payload : Record ρ) (sidecar : String)
    (metadata : Metadata) (s : σ) :
    complete host.audited guest.audited settings archive payload sidecar metadata (s, []) =
      ((complete host guest settings archive payload sidecar metadata s).1,
        ((complete host guest settings archive payload sidecar metadata s).2,
          deeds host guest settings archive payload sidecar metadata s)) := by
  have h : Agree Audits (complete host guest settings archive payload sidecar metadata)
      (complete host.audited guest.audited settings archive payload sidecar metadata) :=
    Reply.enact_agree settings host.audited_agree (.restore ⟨archive, payload, sidecar, metadata⟩)
      fun _ _ _ kind vmid _ => guest.audited_agreeOn kind vmid
  obtain ⟨hresult, hstate⟩ := h s (s, []) rfl
  exact Prod.ext hresult.symm (Prod.ext hstate rfl)

/-- Both records get the outcome of the restore. -/
theorem complete_closes {archive : String} (payload : Record ρ) (sidecar : String)
    {metadata : Metadata} {kind : Kind} {vmid : Nat}
    (hvalid : metadata.validate archive = .ok (kind, vmid)) (s : σ) :
    ∃ outcome,
      (complete host guest settings archive payload sidecar metadata s).1 =
        [⟨payload.pathname, outcome⟩, ⟨sidecar, outcome⟩] ∧
      (Errand.ofReader (joinPath settings.stagingDir (stagingName archive kind vmid (host.now s).1))
        kind vmid payload.reader).Closes settings outcome
          (deeds host guest settings archive payload sidecar metadata s) := by
  obtain ⟨made, hadded, hcloses⟩ :=
    Staging.restore_closes host guest settings payload.reader hvalid (s, [])
  have haudited := congrArg Prod.fst
    (complete_audited host guest settings archive payload sidecar metadata s)
  rw [← haudited]
  unfold deeds complete
  simp only [bind, StateT.bind]
  rw [List.nil_append] at hadded
  rcases hrun : (Staging.restore host.audited guest.audited settings archive payload.reader
    metadata).run (s, []) with ⟨e | outcome, t⟩
  · rw [hrun] at hadded hcloses
    obtain rfl := hadded
    exact ⟨.failed e, rfl, hcloses⟩
  · rw [hrun] at hadded hcloses
    obtain rfl := hadded
    exact ⟨outcome, rfl, hcloses⟩

end Correlator

end

/-- What is asked for to restore a known archive. -/
def Errand.ofScript (path : String) (kind : Kind) (vmid : Nat) (reader : Script) : Errand :=
  { path, kind, vmid, payload := reader.deliveredUntilFault, fault? := reader.fault? }

theorem Errand.ofReader_script (path : String) (kind : Kind) (vmid : Nat) (reader : Script) :
    ofReader path kind vmid reader = ofScript path kind vmid reader := by
  obtain ⟨hbytes, hend⟩ := Script.readToEnd_script reader
  unfold ofReader ofScript
  rw [hbytes, hend]
  cases reader.fault? with
  | none => rfl
  | some e => rfl

/-- **A pair is completed in order, and cleaned up after.** For any host and any guests, the stages
are taken in order up to the first one that fails. Then the staged file is removed, exactly once and
last, if that is asked for. The guest is only touched once the whole archive is written, its file is
finished and its size is confirmed, and it is only restored if it could be stopped. Both records get
the same outcome: the error of the stage that failed, or a restored guest along with the error of
the removal, if any. Keeping the list of deeds changes nothing. -/
theorem Correlator.complete_in_order (host : Host σ κ) (guest : Guest σ)
    (settings : RestoreSettings) {archive : String} (payload : Record Script) (sidecar : String)
    {metadata : Metadata} {kind : Kind} {vmid : Nat}
    (hvalid : metadata.validate archive = .ok (kind, vmid)) (s : σ) :
    let errand := Errand.ofScript
      (joinPath settings.stagingDir (stagingName archive kind vmid (host.now s).1)) kind vmid
      payload.reader
    let done := complete host guest settings archive payload sidecar metadata s
    ∃ taken fault left,
      complete host.audited guest.audited settings archive payload sidecar metadata (s, []) =
        (done.1, (done.2, taken ++ if settings.cleanup then [.remove errand.path left] else [])) ∧
      errand.Course Stage.all taken fault ∧
      (∀ deed ∈ taken, ¬ deed.Removes) ∧
      ((∀ deed ∈ taken, ¬ deed.OnGuest) ∧ fault ≠ none ∨
        payload.reader.fault? = none ∧ ∃ pieces : List Bytes,
          pieces.flatten = payload.reader.deliveredUntilFault ∧
          (taken = errand.staged pieces ++ [.stop kind vmid fault] ∧ fault ≠ none ∨
            taken = errand.staged pieces ++
              [.stop kind vmid none, .restore kind vmid errand.path fault])) ∧
      (settings.cleanup = false → left = none) ∧
      done.1 = [⟨payload.pathname, errand.outcome fault left⟩,
        ⟨sidecar, errand.outcome fault left⟩] := by
  intro errand done
  obtain ⟨outcome, hresolved, taken, fault, left, hdeeds, hcourse, hnone, rfl⟩ :=
    complete_closes host guest settings payload sidecar hvalid s
  rw [Errand.ofReader_script] at hresolved hdeeds hcourse
  refine ⟨taken, fault, left, ?_, hcourse, hcourse.not_removes, hcourse.guest_deeds, hnone,
    hresolved⟩
  rw [complete_audited, hdeeds]
  rfl

/-- A host in memory on which no file can be removed. -/
def ScriptedHost.sticky : ScriptedHost :=
  { moment := ⟨0, 0, 0⟩, removeFault := some (.plain .permissionDenied) }

/-- An archive that is read in two pieces, with an interruption between them. -/
def Record.inTwoPieces : Record Script :=
  { pathname := "in/disk.vma.zst",
    reader := [.data [1, 2], .fail (.plain .interrupted), .data [3]] }

/-- The guest is restored although the staged file cannot be removed. -/
theorem Correlator.sticky_file_left :
    let settings : RestoreSettings := { stagingDir := "/stage", cleanup := true }
    let metadata : Metadata := { vmid := 101, vmType := "qemu" }
    let path := "/stage/vzdump-qemu-101-1970_01_01-00_00_00.vma.zst"
    let left := Error.io ("remove " ++ path) (.plain .permissionDenied)
    let outcome := Outcome.restored .qemu 101 path (some left)
    metadata.validate "disk.vma.zst" = .ok (.qemu, 101) ∧
    ∃ pieces : List Bytes, pieces.flatten = [1, 2, 3] ∧
      (complete ScriptedHost.host.audited Guest.willing.audited settings "disk.vma.zst"
        Record.inTwoPieces "in/disk.vma.zst.json" metadata (ScriptedHost.sticky, [])).2.2 =
          .create path none :: (pieces.map (.write · none) ++
            [.finish none, .stat path (.ok 3), .stop .qemu 101 none, .restore .qemu 101 path none,
              .remove path (some left)]) ∧
      (complete ScriptedHost.host Guest.willing settings "disk.vma.zst" Record.inTwoPieces
        "in/disk.vma.zst.json" metadata ScriptedHost.sticky).1 =
          [⟨"in/disk.vma.zst", outcome⟩, ⟨"in/disk.vma.zst.json", outcome⟩] := by
  intro settings metadata path left outcome
  have hvalid : metadata.validate "disk.vma.zst" = .ok (.qemu, 101) := by decide
  have hpath : joinPath settings.stagingDir (stagingName "disk.vma.zst" .qemu 101
      (ScriptedHost.host.now ScriptedHost.sticky).1) = path := by decide +kernel
  have hdone : (complete ScriptedHost.host Guest.willing settings "disk.vma.zst" Record.inTwoPieces
      "in/disk.vma.zst.json" metadata ScriptedHost.sticky).1 =
        [⟨"in/disk.vma.zst", outcome⟩, ⟨"in/disk.vma.zst.json", outcome⟩] := by decide +kernel
  obtain ⟨taken, fault, kept, haudited, -, -, hguest, -, hresolved⟩ :=
    complete_in_order ScriptedHost.host Guest.willing settings Record.inTwoPieces
      "in/disk.vma.zst.json" hvalid ScriptedHost.sticky
  rw [hpath] at haudited hguest hresolved
  have houtcome := (Resolution.mk.inj (List.cons_eq_cons.mp (hresolved.symm.trans hdone)).1).2
  cases fault with
  | some e =>
    have hfailed : .failed e = Outcome.restored .qemu 101 path (some left) := houtcome
    cases hfailed
  | none =>
    obtain rfl := (Outcome.restored.inj houtcome).2.2.2
    rcases hguest with ⟨-, hfault⟩ | ⟨-, pieces, hpieces, ⟨-, hfault⟩ | rfl⟩
    · exact absurd rfl hfault
    · exact absurd rfl hfault
    · refine ⟨hvalid, pieces, hpieces, ?_, hdone⟩
      rw [haudited]
      unfold Errand.staged
      simp only [List.cons_append, List.append_assoc]
      rfl

end GuestVault
