import GuestVault.Proofs.Host.Counting
import GuestVault.Proofs.Restore.Provenance

/-!
# Restoring one guest only

The id that decides whether a pair is restored is the one in the archive's name, if there is one;
the guest that is replaced is the one that the metadata states. Nothing compares the two.

1. `justified_calls`: whatever is done to a guest, some pair asks for it.
2. `stop_mem_calls`: if nothing goes wrong, every pair whose archive can be read has its guest
   stopped.
3. `guest_calls_wanted_iff`: other guests are left alone exactly if the metadata of every pair that
   is let through by the archive's name states the wanted id.
-/

namespace GuestVault.Correlator

attribute [local irreducible] react ArchiveName.parse Metadata.decode Metadata.validate

variable {σ κ ρ α β : Type} [ByteSource ρ] {settings : RestoreSettings} {records : List (Record ρ)}

/-! ## Pairs that are restored -/

/-- A restored pair is one that was let through. -/
theorem filterId_of_mem_pairs {want : Nat} (hwant : settings.vmid = some want) {pair : Pair ρ}
    (hpair : pair ∈ pairs settings {} records) :
    filterId pair.archive pair.metadata = want := by
  obtain ⟨-, record, -, -, -, hgood⟩ := pairs_sound hpair
  obtain ⟨-, hother, -⟩ := judgeSidecar_eq_good_iff.mp hgood
  exact isOther_eq_false_iff.mp hother want hwant

/-- A pair without an id in the archive's name is let through by the id that its metadata
states. -/
theorem vmid_of_mem_pairs {want : Nat} (hwant : settings.vmid = some want) {pair : Pair ρ}
    (hpair : pair ∈ pairs settings {} records)
    (hname : ∀ kind, ArchiveName.parse pair.archive = .ok (kind, want) →
      pair.metadata.vmid = want) :
    pair.metadata.vmid = want := by
  have hfilter := filterId_of_mem_pairs hwant hpair
  unfold filterId at hfilter
  cases hparse : ArchiveName.parse pair.archive with
  | error e =>
    rw [hparse] at hfilter
    exact hfilter
  | ok named =>
    obtain ⟨kind, id⟩ := named
    rw [hparse] at hfilter
    obtain rfl := Int.ofNat.inj hfilter
    exact hname kind hparse

/-! ## Guests that are stopped -/

/-- The log holds a call. -/
def Noted (call : Call) (t : σ × List Call) : Prop :=
  ∃ s, Logs (fun calls => call ∈ calls) s t

theorem noted_iff {call : Call} {t : σ × List Call} : Noted call t ↔ call ∈ t.2 :=
  ⟨fun ⟨_, h⟩ => h.2, fun h => ⟨t.1, rfl, h⟩⟩

theorem logged_keeps (host : Host σ κ) (call : Call) :
    Host.Agree (Under (Noted call)) host.logged host.logged :=
  (host.logged_agree (Q := fun calls => call ∈ calls) fun _ _ _ h => List.mem_append_left _ h).under

theorem willing_keeps (call : Call) (kind : Kind) (vmid : Nat) :
    Guest.AgreeOn (Under (Noted call)) (Guest.willing : Guest σ).logged Guest.willing.logged kind
      vmid :=
  (Guest.logged_agreeOn (Q := fun calls => call ∈ calls) Guest.willing
    fun _ _ _ h => List.mem_append_left _ h).under

theorem stop_mem_replace {reader : ρ} (hread : (readToEnd reader).1 = .ok ()) (kind : Kind)
    (vmid : Nat) (path : String) (t : Nat × List Call) :
    Call.stop kind vmid ∈ ((Staging.replace Host.counting.logged Guest.willing.logged reader kind
      vmid path).run t).2.2 := by
  have hstage := Staging.stage_agree
    (Host.counting.logged_agree (Q := fun _ => True) fun _ _ _ h => h) reader path
  have hstaged := (hstage t.1 t ⟨rfl, trivial⟩).1.symm.trans (stage_counting hread path t.1)
  unfold Staging.replace
  rw [Action.run_bind_of_ok (Prod.ext hstaged rfl)]
  -- the guest does not object, so only the restore follows
  exact List.mem_append_left _ (List.mem_append_right _ List.mem_cons_self)

theorem stop_noted_enact {pair : Pair ρ} (hread : (readToEnd pair.payload.reader).1 = .ok ())
    {kind : Kind} {vmid : Nat} (hvalid : pair.metadata.validate pair.archive = .ok (kind, vmid))
    (t : Nat × List Call) :
    Noted (.stop kind vmid)
      ((Reply.restore pair).enact Host.counting.logged Guest.willing.logged settings t).2 := by
  have hhost := logged_keeps Host.counting (.stop kind vmid)
  have hnow : (liftM Host.counting.logged.now : Action _ Error _).run t =
      (.ok { unix := 0, nanos := 0, offset := 0 }, t) := rfl
  have hnote (message : String) :
      (liftM (Host.counting.logged.note .info message) : Action _ Error _).run t =
        (.ok (), t) := rfl
  -- what follows the call does not take it back
  refine Agree.holds_after_bind ?_ fun result => ?_
  · unfold Staging.restore
    rw [hvalid]
    simp only [Action.ofExcept, pure_bind]
    rw [Action.run_bind_of_ok hnow, Action.run_bind_of_ok (hnote _), ExceptT.run_bind]
    refine Agree.holds_after_bind
      (noted_iff.mpr (stop_mem_replace hread kind vmid _ t)) fun result => ?_
    cases result with
    | error e => exact .pure _
    | ok result =>
      refine .andThen (.lift (Staging.cleanup_agree settings hhost _)) fun left => ?_
      refine .andThen (.ofExcept result) fun _ => ?_
      exact .andThen (.lift (hhost.note _ _)) fun _ => .pure _
  · cases result with
    | ok outcome => exact .pure _
    | error e => exact .bind (hhost.note _ _) fun _ => .pure _

theorem stop_noted_enactAll {pair : Pair ρ} (hread : (readToEnd pair.payload.reader).1 = .ok ())
    {kind : Kind} {vmid : Nat} (hvalid : pair.metadata.validate pair.archive = .ok (kind, vmid))
    {replies : List (Reply ρ)} (hpair : Reply.restore pair ∈ replies) (t : Nat × List Call) :
    Noted (.stop kind vmid)
      (enactAll Host.counting.logged Guest.willing.logged settings replies t).2 := by
  induction replies generalizing t with
  | nil => cases hpair
  | cons reply rest ih =>
    rcases List.mem_cons.mp hpair with rfl | hpair
    · refine Agree.holds_after_bind (stop_noted_enact hread hvalid t) fun _ => ?_
      refine .bind (enactAll_agree settings (logged_keeps _ _) rest ?_) fun _ => .pure _
      exact fun _ _ _ kind vmid _ => willing_keeps _ kind vmid
    · exact ih hpair _

/-- **Every pair whose archive can be read has its guest stopped**, if nothing goes wrong. -/
theorem stop_mem_calls {pair : Pair ρ} (hpair : pair ∈ pairs settings {} records)
    (hread : (readToEnd pair.payload.reader).1 = .ok ()) {kind : Kind} {vmid : Nat}
    (hvalid : pair.metadata.validate pair.archive = .ok (kind, vmid)) (count : Nat) :
    Call.stop kind vmid ∈ calls Host.counting Guest.willing settings records count := by
  unfold calls
  rw [restoreAll_eq]
  refine noted_iff.mp (Agree.holds_after_bind ?_ fun _ => .pure _)
  refine stop_noted_enactAll hread hvalid ?_ _
  obtain ⟨⟨record, reply⟩, hturn, hreply⟩ := List.mem_filterMap.mp hpair
  refine List.mem_map.mpr ⟨(record, reply), hturn, ?_⟩
  cases reply with
  | settle notes resolved => cases hreply
  | restore other => exact congrArg Reply.restore (Option.some.inj hreply)

/-! ## The filter -/

/-- **With a guest asked for, other guests are left alone on every host exactly if the metadata of
every restored pair states the id that the archive's name carries.** Pairs without an id in the name
are safe in any case. -/
theorem guest_calls_wanted_iff (settings : RestoreSettings) (want : Nat)
    (records : List (Record ρ)) :
    (∀ (σ κ : Type) (host : Host σ κ) (guest : Guest σ) (s : σ),
        ∀ call ∈ calls host guest { settings with vmid := some want } records s,
          ∀ vmid, call.vmid? = some vmid → vmid = want) ↔
      ∀ pair ∈ pairs { settings with vmid := some want } {} records, ∀ kind,
        ArchiveName.parse pair.archive = .ok (kind, want) →
          (readToEnd pair.payload.reader).1 = .ok () → pair.metadata.vmid = want := by
  constructor
  · intro h pair hpair _ _ hread
    obtain ⟨-, record, -, -, -, hgood⟩ := pairs_sound hpair
    obtain ⟨-, -, ⟨kind, vmid⟩, hvalid⟩ := judgeSidecar_eq_good_iff.mp hgood
    have hstop := stop_mem_calls hpair hread hvalid 0
    rw [vmid_of_validate hvalid, h _ _ _ _ _ _ hstop vmid rfl]
  · intro h σ κ host guest s call hcall vmid hvmid
    obtain ⟨pair, hpair, hread, kind, hvalid⟩ :=
      justified_calls host guest _ records s call hcall vmid hvmid
    have hstated := vmid_of_mem_pairs rfl hpair fun kind hname => h pair hpair kind hname hread
    exact Int.ofNat.inj ((vmid_of_validate hvalid).symm.trans hstated)

/-- An archive of guest 101 whose metadata states 102 gets guest 102 stopped, though only 101 was
asked for. -/
theorem other_guest_stopped :
    ∃ call ∈ calls Host.counting Guest.willing { vmid := some 101 }
      [.ofText "/.vzdump-meta-vzdump-qemu-101-x.vma.json"
          "\x7b\"vmid\":102,\"vm_type\":\"qemu\"\x7d",
        .ofText "/vzdump-qemu-101-x.vma" "payload"] 0,
      call.vmid? = some 102 := by
  decide +kernel

end GuestVault.Correlator
