import GuestVault.Proofs.Host.Counting
import GuestVault.Proofs.Restore.Accounting
import GuestVault.Proofs.Restore.Cells
import Mathlib.Data.List.Nodup
import Mathlib.Data.List.Permutation

/-!
# The order of arrival

Records of different names can be restored in any order, with one exception: metadata that cannot
be read fails together with its archive if it comes first, and is skipped together with it if the
archive comes first and is one of another guest than the one asked for (`Contested`).

1. `restoreAll_perm_tagged`: a run resolves what the cells of the archives settle.
2. `settled_swap`: the two halves of an archive may come in either order unless they are contested.
3. `mem_restoreAll_perm_iff`: the order does not matter exactly if no archive is contested.
-/

namespace GuestVault.Correlator

attribute [local irreducible] Correlator.react archiveOf RecordClass.ofName ArchiveName.parse
  Metadata.decode Metadata.validate

variable {σ κ ρ : Type} [ByteSource ρ]

/-- What a restore does next does not depend on the state of the host. -/
def Steady (ρ : Type) [ByteSource ρ] (host : Host σ κ) (guest : Guest σ)
    (settings : RestoreSettings) : Prop :=
  ∀ archive (reader : ρ) metadata s s',
    ((Staging.restore host guest settings archive reader metadata).run s).1 =
      ((Staging.restore host guest settings archive reader metadata).run s').1

/-- An archive of another guest than the one asked for comes with metadata that cannot be read. -/
def Contested (settings : RestoreSettings) (records : List (Record ρ)) : Prop :=
  ∃ payload ∈ records, ∃ sidecar ∈ records, ∃ kind id e,
    RecordClass.ofName payload.name = .payload ∧
      RecordClass.ofName sidecar.name = .sidecar payload.name ∧
      ArchiveName.parse payload.name = .ok (kind, id) ∧ isOther settings id = true ∧
      Metadata.decode sidecar.reader = .error e

/-! ## What is settled under each archive -/

variable (settings : RestoreSettings) (outcome : Pair ρ → Outcome)

/-- What a cell settles: what its replies resolve, and what waits in the end. -/
def Cell.settled (cell : Cell ρ) (archive : String) (records : List (Record ρ)) :
    List Resolution :=
  (cell.transcript settings records).flatMap (·.2.resolutions outcome) ++
    (cell.after settings records).half.toList.map fun half => orphan (archive, half)

/-- What a correlator settles, each with its archive. -/
def tagged (c : Correlator ρ) (records : List (Record ρ)) : List (String × Resolution) :=
  ((c.transcript settings records).flatMap fun turn =>
      (turn.2.resolutions outcome).map (archiveOf turn.1, ·)) ++
    (c.after settings records).join.entries.map fun e => (e.1, orphan e)

omit [ByteSource ρ] in
theorem filter_turns (turns : List (Record ρ × Reply ρ)) (archive : String) :
    (turns.flatMap fun turn => (turn.2.resolutions outcome).map (archiveOf turn.1, ·)).filter
        (fun r => r.1 = archive) =
      ((turns.filter fun turn => archiveOf turn.1 = archive).flatMap
        (·.2.resolutions outcome)).map (archive, ·) := by
  induction turns with
  | nil => rfl
  | cons turn rest ih =>
    rw [List.flatMap_cons, List.filter_append, ih, List.filter_map]
    by_cases h : archiveOf turn.1 = archive
    · rw [List.filter_cons_of_pos (by simpa using h), List.flatMap_cons, List.map_append]
      have hall : ∀ r ∈ turn.2.resolutions outcome, decide (archiveOf turn.1 = archive) = true :=
        fun _ _ => decide_eq_true h
      rw [show ((fun r : String × Resolution => decide (r.1 = archive)) ∘ (archiveOf turn.1, ·)) =
        fun _ => decide (archiveOf turn.1 = archive) from rfl, List.filter_eq_self.mpr hall, h]
    · rw [List.filter_cons_of_neg (by simpa using h)]
      have hnone : ∀ r ∈ turn.2.resolutions outcome, ¬ decide (archiveOf turn.1 = archive) = true :=
        fun _ _ => by simpa using h
      rw [show ((fun r : String × Resolution => decide (r.1 = archive)) ∘ (archiveOf turn.1, ·)) =
        fun _ => decide (archiveOf turn.1 = archive) from rfl, List.filter_eq_nil_iff.mpr hnone]
      rfl

theorem filter_tagged {c : Correlator ρ} (hasc : c.join.Ascending) (archive : String)
    (records : List (Record ρ)) :
    (tagged settings outcome c records).filter (fun r => r.1 = archive) =
      ((c.cell archive).settled settings outcome archive (recordsOf archive records)).map
        (archive, ·) := by
  unfold tagged Cell.settled
  rw [List.filter_append, filter_turns, transcript_filter, List.map_append, ← cell_after]
  congr 1
  rw [List.filter_map]
  show ((c.after settings records).join.entries.filter fun e => e.1 = archive).map _ = _
  rw [PairJoin.filter_entries (ascending_after settings hasc records), List.map_map, List.map_map]
  rfl

/-- Lists that agree under each tag hold the same. -/
theorem perm_of_filter_perm {α : Type} [DecidableEq α] {left right : List (String × α)}
    (h : ∀ tag, (left.filter fun r => r.1 = tag).Perm (right.filter fun r => r.1 = tag)) :
    left.Perm right := by
  rw [List.perm_iff_count]
  rintro ⟨tag, a⟩
  have hcount := List.perm_iff_count.mp (h tag) (tag, a)
  rwa [List.count_filter (by simp), List.count_filter (by simp)] at hcount

theorem tagged_snd (c : Correlator ρ) (records : List (Record ρ)) :
    (tagged settings outcome c records).map (·.2) =
      (c.transcript settings records).flatMap (·.2.resolutions outcome) ++
        (c.after settings records).finish := by
  unfold tagged finish PairJoin.orphans
  rw [List.map_append, List.map_map, List.map_flatMap]
  refine congrArg₂ (· ++ ·) (List.flatMap_congr fun turn _ => ?_) rfl
  rw [List.map_map]
  exact List.map_id _

theorem mem_tagged_of_settled {archive : String} {records : List (Record ρ)} {r : Resolution}
    (h : r ∈ ({} : Cell ρ).settled settings outcome archive (recordsOf archive records)) :
    r ∈ (tagged settings outcome {} records).map (·.2) := by
  have htagged := filter_tagged settings outcome (c := ({} : Correlator ρ))
    PairJoin.ascending_empty archive records
  have hmem : (archive, r) ∈ (tagged settings outcome {} records).filter
      fun r => r.1 = archive := by
    rw [htagged]
    exact List.mem_map.mpr ⟨r, h, rfl⟩
  exact List.mem_map.mpr ⟨(archive, r), (List.mem_filter.mp hmem).1, rfl⟩

theorem tagged_perm {records records' : List (Record ρ)}
    (h : ∀ archive, (({} : Cell ρ).settled settings outcome archive (recordsOf archive records)).Perm
      (({} : Cell ρ).settled settings outcome archive (recordsOf archive records'))) :
    (tagged settings outcome {} records).Perm (tagged settings outcome {} records') := by
  refine perm_of_filter_perm fun archive => ?_
  rw [filter_tagged settings outcome PairJoin.ascending_empty,
    filter_tagged settings outcome PairJoin.ascending_empty]
  exact (h archive).map _

/-! ## Steady hosts -/

section Steady

variable {settings} {host : Host σ κ} {guest : Guest σ}

/-- The outcome that a pair gets. -/
def outcomeAt (host : Host σ κ) (guest : Guest σ) (settings : RestoreSettings) (s : σ)
    (pair : Pair ρ) : Outcome :=
  outcomeOf ((Staging.restore host guest settings pair.archive pair.payload.reader
    pair.metadata).run s).1

theorem enactAll_fst (hsteady : Steady ρ host guest settings) (replies : List (Reply ρ))
    (s s' : σ) : (enactAll host guest settings replies s').1 =
      replies.flatMap (·.resolutions (outcomeAt host guest settings s)) := by
  induction replies generalizing s' with
  | nil => rfl
  | cons reply rest ih =>
    have hfirst : (reply.enact host guest settings s').1 =
        reply.resolutions (outcomeAt host guest settings s) := by
      rw [enact_fst]
      congr 1
      funext pair
      exact congrArg outcomeOf (hsteady pair.archive pair.payload.reader pair.metadata s' s)
    rw [List.flatMap_cons, ← hfirst, ← ih (reply.enact host guest settings s').2]
    rfl

/-- **A run resolves what the cells of the archives settle.** -/
theorem restoreAll_eq_tagged (hsteady : Steady ρ host guest settings) (records : List (Record ρ))
    (s s' : σ) : (restoreAll host guest settings records s').1 =
      (tagged settings (outcomeAt host guest settings s) {} records).map (·.2) := by
  rw [restoreAll_eq, tagged_snd]
  refine congrArg₂ (· ++ ·) ((enactAll_fst hsteady _ s s').trans ?_) rfl
  rw [List.flatMap_map]

end Steady

/-! ## The two halves of an archive -/

variable {settings} {archive : String} {sidecar payload : Record ρ}

theorem react_sidecar (cell : Cell ρ) (hclass : RecordClass.ofName sidecar.name = .sidecar archive) :
    cell.react settings sidecar = cell.reactSidecar settings archive sidecar := by
  unfold Cell.react
  rw [hclass]

theorem react_payload (cell : Cell ρ) (hclass : RecordClass.ofName payload.name = .payload) :
    cell.react settings payload = cell.reactPayload settings payload.name payload := by
  unfold Cell.react
  rw [hclass]

/-- Metadata that was let through is that of an archive that was not turned away. -/
theorem not_foreign_of_good {metadata : Metadata} {vmid : Int} {reader : ρ}
    (hgood : judgeSidecar settings archive reader = .good metadata) :
    judgePayload settings archive ≠ .foreign vmid := by
  obtain ⟨-, hother, -⟩ := judgeSidecar_eq_good_iff.mp hgood
  unfold filterId at hother
  unfold judgePayload
  rcases hparse : ArchiveName.parse archive with e | ⟨kind, id⟩
  · dsimp only
    split <;> nofun
  · rw [hparse] at hother
    dsimp only at hother ⊢
    rw [if_neg (by rw [hother]; exact Bool.false_ne_true)]
    nofun

theorem settled_swap (outcome : Pair ρ → Outcome)
    (hsidecar : RecordClass.ofName sidecar.name = .sidecar payload.name)
    (hpayload : RecordClass.ofName payload.name = .payload)
    (hcalm : ∀ vmid e, judgePayload settings payload.name = .foreign vmid →
      judgeSidecar settings payload.name sidecar.reader ≠ .bad e) :
    (({} : Cell ρ).settled settings outcome payload.name [sidecar, payload]).Perm
      (({} : Cell ρ).settled settings outcome payload.name [payload, sidecar]) := by
  unfold Cell.settled Cell.transcript Cell.transcript Cell.after Cell.after
  simp only [react_sidecar _ hsidecar, react_payload _ hpayload]
  unfold Cell.reactSidecar Cell.reactPayload
  cases hs : judgeSidecar settings payload.name sidecar.reader with
  | bad e =>
    cases hp : judgePayload settings payload.name with
    | bad e' => exact List.Perm.swap _ _ _
    | foreign vmid => exact absurd hs (hcalm vmid e hp)
    | good _ => exact List.Perm.refl _
  | foreign vmid =>
    cases judgePayload settings payload.name with
    | bad e' => exact List.Perm.swap _ _ _
    | foreign vmid => exact List.Perm.swap _ _ _
    | good _ => exact List.Perm.refl _
  | good metadata =>
    cases hp : judgePayload settings payload.name with
    | bad e' => exact List.Perm.refl _
    | foreign vmid => exact absurd hp (not_foreign_of_good hs)
    | good _ => exact List.Perm.refl _

theorem settled_swap_other (outcome : Pair ρ → Outcome)
    (hsidecar : RecordClass.ofName sidecar.name = .sidecar payload.name)
    (hother : RecordClass.ofName payload.name = .other) :
    (({} : Cell ρ).settled settings outcome payload.name [sidecar, payload]).Perm
      (({} : Cell ρ).settled settings outcome payload.name [payload, sidecar]) := by
  have hreact (cell : Cell ρ) : cell.react settings payload =
      (.settle [] [⟨payload.pathname, .ignored⟩], cell) := by
    unfold Cell.react
    rw [hother]
  unfold Cell.settled Cell.transcript Cell.transcript Cell.after Cell.after
  simp only [react_sidecar _ hsidecar, hreact]
  unfold Cell.reactSidecar
  cases judgeSidecar settings payload.name sidecar.reader with
  | bad e => exact List.Perm.swap _ _ _
  | foreign vmid => exact List.Perm.swap _ _ _
  | good metadata => exact List.Perm.refl _

omit [ByteSource ρ] in
/-- Of two records of an archive with different names, one is the metadata of the other. -/
theorem sidecar_of_name_ne {a b : Record ρ} (ha : archiveOf a = archive) (hb : archiveOf b = archive)
    (hne : a.name ≠ b.name) :
    (RecordClass.ofName a.name = .sidecar b.name ∧ b.name = archive ∧
        (RecordClass.ofName b.name = .payload ∨ RecordClass.ofName b.name = .other)) ∨
      (RecordClass.ofName b.name = .sidecar a.name ∧ a.name = archive ∧
        (RecordClass.ofName a.name = .payload ∨ RecordClass.ofName a.name = .other)) := by
  rcases archiveOf_eq ha with hside | hname
  · rcases archiveOf_eq hb with hside' | hname'
    · exact absurd (RecordClass.eq_of_ofName_sidecar hside' hside) hne
    · exact Or.inl ⟨hname'.1.symm ▸ hside, hname'⟩
  · rcases archiveOf_eq hb with hside' | hname'
    · exact Or.inr ⟨hname.1.symm ▸ hside', hname⟩
    · exact absurd (hname.1.trans hname'.1.symm) hne

omit [ByteSource ρ] in
theorem length_le_two {records : List (Record ρ)} (hnames : (records.map Record.name).Nodup)
    (harchive : ∀ record ∈ records, archiveOf record = archive) : records.length ≤ 2 := by
  rcases records with _ | ⟨a, _ | ⟨b, _ | ⟨c, rest⟩⟩⟩
  · exact Nat.zero_le _
  · exact Nat.le_succ _
  · exact Nat.le_refl _
  · exfalso
    simp only [List.map_cons, List.nodup_cons, List.mem_cons, not_or] at hnames
    simp only [List.mem_cons, forall_eq_or_imp] at harchive
    obtain ⟨⟨hab, hac, -⟩, ⟨hbc, -⟩, -⟩ := hnames
    obtain ⟨ha, hb, hc, -⟩ := harchive
    -- two of the three are both metadata or both not
    rcases archiveOf_eq ha with hside | hname
    · rcases archiveOf_eq hb with hside' | hname'
      · exact hab (RecordClass.eq_of_ofName_sidecar hside' hside)
      · rcases archiveOf_eq hc with hside'' | hname''
        · exact hac (RecordClass.eq_of_ofName_sidecar hside'' hside)
        · exact hbc (hname'.1.trans hname''.1.symm)
    · rcases archiveOf_eq hb with hside' | hname'
      · rcases archiveOf_eq hc with hside'' | hname''
        · exact hbc (RecordClass.eq_of_ofName_sidecar hside'' hside')
        · exact hac (hname.1.trans hname''.1.symm)
      · exact hab (hname.1.trans hname'.1.symm)

/-! ## Contested archives -/

theorem judgePayload_eq_foreign {vmid : Int} (h : judgePayload settings archive = .foreign vmid) :
    ∃ kind id, ArchiveName.parse archive = .ok (kind, id) ∧ isOther settings id = true := by
  unfold judgePayload at h
  rcases hparse : ArchiveName.parse archive with e | ⟨kind, id⟩
  · rw [hparse] at h
    dsimp only at h
    split at h <;> cases h
  · rw [hparse] at h
    dsimp only at h
    by_cases hother : isOther settings id = true
    · exact ⟨kind, id, rfl, hother⟩
    · rw [if_neg hother] at h
      cases h

/-- Metadata of an archive of another guest is no good only if it cannot be read. -/
theorem decode_eq_error_of_bad {kind : Kind} {id : Nat} {reader : ρ} {e : Error}
    (hparse : ArchiveName.parse archive = .ok (kind, id)) (hother : isOther settings id = true)
    (hbad : judgeSidecar settings archive reader = .bad e) : Metadata.decode reader = .error e := by
  unfold judgeSidecar filterId at hbad
  cases hdecode : Metadata.decode reader with
  | error e' =>
    rw [hdecode] at hbad
    exact congrArg Except.error (Verdict.bad.inj hbad)
  | ok metadata =>
    rw [hdecode, hparse] at hbad
    dsimp only at hbad
    rw [if_pos hother] at hbad
    cases hbad

variable {records records' : List (Record ρ)}

theorem settled_pair_perm (outcome : Pair ρ → Outcome) (hfree : ¬ Contested settings records)
    {a b : Record ρ} (ha : a ∈ records) (hb : b ∈ records)
    (hside : RecordClass.ofName a.name = .sidecar b.name)
    (hclass : RecordClass.ofName b.name = .payload ∨ RecordClass.ofName b.name = .other) :
    (({} : Cell ρ).settled settings outcome b.name [a, b]).Perm
      (({} : Cell ρ).settled settings outcome b.name [b, a]) := by
  rcases hclass with hpayload | hother
  · refine settled_swap outcome hside hpayload fun vmid e hforeign hbad => hfree ?_
    obtain ⟨kind, id, hparse, hother⟩ := judgePayload_eq_foreign hforeign
    exact ⟨b, hb, a, ha, kind, id, e, hpayload, hside, hparse, hother,
      decode_eq_error_of_bad hparse hother hbad⟩
  · exact settled_swap_other outcome hside hother

theorem settled_perm (outcome : Pair ρ → Outcome) (hnames : (records.map Record.name).Nodup)
    (hfree : ¬ Contested settings records) (hperm : records'.Perm records) (archive : String) :
    (({} : Cell ρ).settled settings outcome archive (recordsOf archive records')).Perm
      (({} : Cell ρ).settled settings outcome archive (recordsOf archive records)) := by
  have hsub : (recordsOf archive records).Sublist records := List.filter_sublist
  have hnodup := hnames.sublist (hsub.map Record.name)
  have hlength := length_le_two hnodup fun record h => (mem_recordsOf.mp h).2
  have hown : (recordsOf archive records').Perm (recordsOf archive records) := hperm.filter _
  have hmem : ∀ record ∈ recordsOf archive records, record ∈ records ∧ archiveOf record = archive :=
    fun _ => mem_recordsOf.mp
  generalize recordsOf archive records = own at *
  generalize recordsOf archive records' = own' at *
  rcases own with _ | ⟨a, _ | ⟨b, _ | ⟨c, rest⟩⟩⟩
  · rw [List.perm_nil.mp hown]
  · rw [List.perm_singleton.mp hown]
  · obtain ⟨ha, haa⟩ := hmem a List.mem_cons_self
    obtain ⟨hb, hba⟩ := hmem b (List.mem_cons_of_mem _ List.mem_cons_self)
    have hne : a.name ≠ b.name := by
      rintro heq
      simp only [List.map_cons, List.nodup_cons, heq, List.mem_cons, true_or, not_true,
        false_and] at hnodup
    rcases List.perm_pair.mp hown with rfl | rfl
    · exact List.Perm.refl _
    · rcases sidecar_of_name_ne haa hba hne with ⟨hside, rfl, hclass⟩ | ⟨hside, rfl, hclass⟩
      · exact (settled_pair_perm outcome hfree ha hb hside hclass).symm
      · exact settled_pair_perm outcome hfree hb ha hside hclass
  · simp only [List.length_cons] at hlength
    omega

/-- **Uncontested records of different names can be restored in any order.** -/
theorem restoreAll_perm_of_perm {host : Host σ κ} {guest : Guest σ}
    (hsteady : Steady ρ host guest settings) (hnames : (records.map Record.name).Nodup)
    (hfree : ¬ Contested settings records) (hperm : records'.Perm records) (s s' : σ) :
    (restoreAll host guest settings records' s').1.Perm
      (restoreAll host guest settings records s).1 := by
  rw [restoreAll_eq_tagged hsteady records' s s', restoreAll_eq_tagged hsteady records s s]
  exact (tagged_perm settings _ fun archive => settled_perm _ hnames hfree hperm archive).map _

/-! ## Contested archives are order dependent -/

theorem mem_restoreAll_of_settled {host : Host σ κ} {guest : Guest σ}
    (hsteady : Steady ρ host guest settings) (archive : String) {s : σ} {r : Resolution}
    (h : r ∈ ({} : Cell ρ).settled settings (outcomeAt host guest settings s) archive
      (recordsOf archive records)) : r ∈ (restoreAll host guest settings records s).1 := by
  rw [restoreAll_eq_tagged hsteady records s s]
  exact mem_tagged_of_settled settings _ h

theorem failed_mem_settled (outcome : Pair ρ → Outcome) (rest : List (Record ρ)) {e : Error}
    (hsidecar : RecordClass.ofName sidecar.name = .sidecar archive)
    (hdecode : Metadata.decode sidecar.reader = .error e) :
    ⟨sidecar.pathname, .failed e⟩ ∈
      ({} : Cell ρ).settled settings outcome archive (sidecar :: rest) := by
  have hjudge : judgeSidecar settings archive sidecar.reader = .bad e := by
    unfold judgeSidecar
    rw [hdecode]
  unfold Cell.settled Cell.transcript
  rw [react_sidecar _ hsidecar, List.flatMap_cons]
  unfold Cell.reactSidecar
  rw [hjudge]
  exact List.mem_append_left _ (List.mem_append_left _ List.mem_cons_self)

theorem skipped_mem_settled (outcome : Pair ρ → Outcome) (rest : List (Record ρ))
    (hsidecar : RecordClass.ofName sidecar.name = .sidecar payload.name)
    (hpayload : RecordClass.ofName payload.name = .payload) {kind : Kind} {id : Nat}
    (hparse : ArchiveName.parse payload.name = .ok (kind, id))
    (hother : isOther settings id = true) :
    ⟨sidecar.pathname, .skipped⟩ ∈
      ({} : Cell ρ).settled settings outcome payload.name (payload :: sidecar :: rest) := by
  have hjudge : judgePayload settings payload.name = .foreign id := by
    unfold judgePayload
    rw [hparse]
    exact if_pos hother
  unfold Cell.settled Cell.transcript Cell.transcript
  rw [react_payload _ hpayload, react_sidecar _ hsidecar, List.flatMap_cons, List.flatMap_cons]
  unfold Cell.reactPayload
  rw [hjudge]
  exact List.mem_append_left _ (List.mem_append_right _ (List.mem_append_left _ List.mem_cons_self))

theorem exists_perm_cons {α : Type} {a : α} {l : List α} (h : a ∈ l) :
    ∃ rest, l.Perm (a :: rest) := by
  obtain ⟨before, behind, rfl⟩ := List.append_of_mem h
  exact ⟨before ++ behind, List.perm_middle⟩

omit [ByteSource ρ] in
theorem alike_of_nodup (hnames : (records.map Record.name).Nodup) : Alike records :=
  fun _ hrecord _ hother hname =>
    congrArg Record.reader (List.inj_on_of_nodup_map hnames hrecord hother hname)

theorem eq_of_mem_restoreAll (host : Host σ κ) (guest : Guest σ)
    (hnames : (records.map Record.name).Nodup) {s : σ} {r r' : Resolution}
    (hr : r ∈ (restoreAll host guest settings records s).1)
    (hr' : r' ∈ (restoreAll host guest settings records s).1) (hpath : r.pathname = r'.pathname) :
    r = r' := by
  have hpaths : (records.map (·.pathname)).Nodup := by
    refine List.Nodup.of_map Text.basename ?_
    rw [List.map_map]
    exact hnames
  have hresolved := settledPaths_perm_of_alike settings (alike_of_nodup hnames)
  rw [← pathnames_restoreAll_eq host guest settings records s] at hresolved
  exact List.inj_on_of_nodup_map (hresolved.nodup_iff.mpr hpaths) hr hr' hpath

/-- **Records of different names can be restored in any order exactly if no archive is
contested.** -/
theorem mem_restoreAll_perm_iff {host : Host σ κ} {guest : Guest σ}
    (hsteady : Steady ρ host guest settings) (hnames : (records.map Record.name).Nodup) (s : σ) :
    (∀ records', records'.Perm records → ∀ s' r,
        r ∈ (restoreAll host guest settings records' s').1 ↔
          r ∈ (restoreAll host guest settings records s).1) ↔
      ¬ Contested settings records := by
  constructor
  · rintro h ⟨payload, hpayload, sidecar, hsidecar, kind, id, e, hclass, hside, hparse, hother,
      hdecode⟩
    obtain ⟨others, hothers⟩ := exists_perm_cons hsidecar
    have hne : payload ≠ sidecar := by
      rintro rfl
      rw [hclass] at hside
      cases hside
    have hmem := (List.mem_cons.mp (hothers.mem_iff.mp hpayload)).resolve_left hne
    obtain ⟨rest, hrest⟩ := exists_perm_cons hmem
    have hfirst : (sidecar :: payload :: rest).Perm records :=
      (hothers.trans (hrest.cons sidecar)).symm
    have hsecond : (payload :: sidecar :: rest).Perm records :=
      (List.Perm.swap sidecar payload rest).trans hfirst
    have hsideOf := archiveOf_of_ofName (Or.inl hside)
    have hpayloadOf := archiveOf_of_ofName (Or.inr ⟨hclass, rfl⟩)
    have hfailed : ⟨sidecar.pathname, .failed e⟩ ∈ (restoreAll host guest settings records s).1 := by
      rw [← h _ hfirst s]
      refine mem_restoreAll_of_settled hsteady payload.name ?_
      rw [recordsOf_cons_of_eq hsideOf]
      exact failed_mem_settled _ _ hside hdecode
    have hskipped : ⟨sidecar.pathname, .skipped⟩ ∈
        (restoreAll host guest settings records s).1 := by
      rw [← h _ hsecond s]
      refine mem_restoreAll_of_settled hsteady payload.name ?_
      rw [recordsOf_cons_of_eq hpayloadOf, recordsOf_cons_of_eq hsideOf]
      exact skipped_mem_settled _ _ hside hclass hparse hother
    cases eq_of_mem_restoreAll host guest hnames hfailed hskipped rfl
  · intro hfree records' hperm s' r
    exact (restoreAll_perm_of_perm hsteady hnames hfree hperm s s').mem_iff

/-- An archive of guest 102, after its metadata. -/
def halvesOf102 (metadata : String) : List (Record Script) :=
  [.ofText "/.vzdump-meta-vzdump-qemu-102-x.vma.json" metadata,
    .ofText "/vzdump-qemu-102-x.vma" "payload"]

/-- The halves of an archive of another guest are skipped in either order. -/
theorem other_guest_any_order :
    Steady Script Host.counting Guest.willing { vmid := some 101 } ∧
      ((halvesOf102 "\x7b\"vmid\":102\x7d").map Record.name).Nodup ∧
      ∀ records', records'.Perm (halvesOf102 "\x7b\"vmid\":102\x7d") → ∀ s' r,
        r ∈ (restoreAll Host.counting Guest.willing { vmid := some 101 } records' s').1 ↔
          r ∈ (restoreAll Host.counting Guest.willing { vmid := some 101 }
            (halvesOf102 "\x7b\"vmid\":102\x7d") 0).1 := by
  have hsteady : Steady Script Host.counting Guest.willing { vmid := some 101 } :=
    restore_counting _
  have hnames : ((halvesOf102 "\x7b\"vmid\":102\x7d").map Record.name).Nodup := by
    decide +kernel
  have hread : ∀ record ∈ halvesOf102 "\x7b\"vmid\":102\x7d",
      (Metadata.decode record.reader).toBool ∨ RecordClass.ofName record.name = .payload := by
    decide +kernel
  refine ⟨hsteady, hnames, (mem_restoreAll_perm_iff hsteady hnames 0).mpr ?_⟩
  rintro ⟨payload, -, sidecar, hmem, kind, id, e, -, hside, -, -, hdecode⟩
  rcases hread sidecar hmem with h | h
  · rw [hdecode] at h
    cases h
  · rw [hside] at h
    cases h

/-- With metadata that cannot be read, they fail if it comes first, and are skipped otherwise. -/
theorem unreadable_metadata_order_dependent :
    ⟨"/vzdump-qemu-102-x.vma", .skipped⟩ ∈ (restoreAll Host.counting Guest.willing
        { vmid := some 101 } (halvesOf102 "no record").reverse 0).1 ∧
      ⟨"/vzdump-qemu-102-x.vma", .skipped⟩ ∉ (restoreAll Host.counting Guest.willing
        { vmid := some 101 } (halvesOf102 "no record") 0).1 := by
  decide +kernel

end GuestVault.Correlator
