import GuestVault.Proofs.Host.Counting
import GuestVault.Proofs.Restore.Provenance
import GuestVault.Proofs.Restore.RecordClass
import Mathlib.Data.List.Perm.Subperm

/-!
# Every record is accounted for

A record that was fed is resolved, waits, or was forgotten; `Reacts.balance` is the balance of one
record and `transcript_balance` that of a run. Only one thing makes a correlator forget a record:
metadata that is turned away while other metadata of the same archive waits (`Displaces`).

1. `pathnames_restoreAll`: no record is resolved twice, and each is resolved once exactly if no
   metadata is displaced.
2. `settledPaths_perm_of_alike`: nothing is displaced if records of one name have one content.
-/

namespace GuestVault.Correlator

attribute [local irreducible] react

variable {σ κ ρ : Type} [ByteSource ρ] (host : Host σ κ) (guest : Guest σ)
  (settings : RestoreSettings)

/-- The paths of the records that wait. -/
def waiting (join : PairJoin (Record ρ) (String × Metadata)) : List String :=
  join.entries.map fun e => (orphan e).pathname

/-- The paths that a reply resolves. -/
def Reply.pathnames : Reply ρ → List String
  | .settle _ resolved => resolved.map (·.pathname)
  | .restore pair => [pair.payload.pathname, pair.sidecar]

/-- Metadata is turned away while other metadata of its archive waits. -/
def Displaces (c : Correlator ρ) (record : Record ρ) : Prop :=
  ∃ archive held, c.TurnsAway settings record archive ∧
    c.join.get? archive = some (.right held)

/-! ## One record -/

variable {settings} {c : Correlator ρ} {record : Record ρ} {reply : Reply ρ}
  {join : PairJoin (Record ρ) (String × Metadata)}

omit [ByteSource ρ] in
theorem pathnames_resolutions (reply : Reply ρ) (outcome : Pair ρ → Outcome) :
    (reply.resolutions outcome).map (·.pathname) = reply.pathnames := by
  cases reply <;> rfl

theorem Reacts.ascending (h : Reacts settings c record reply join) (hasc : c.join.Ascending) :
    join.Ascending := by
  cases h with
  | settles => exact hasc
  | turnsAway => exact hasc.erase
  | waits => exact hasc.insert
  | joinsPayload => exact hasc.erase
  | joinsSidecar => exact hasc.erase

theorem IsHalf.not_turnsAway {archive : String} {half : Side (Record ρ) (String × Metadata)}
    (h : IsHalf settings record archive half) (other : String) :
    ¬ c.TurnsAway settings record other := by
  rintro ⟨hclass, -, hbad⟩
  cases half with
  | left payload =>
    obtain ⟨-, hpayload, -⟩ := h
    rw [hpayload] at hclass
    cases hclass
  | right held =>
    obtain ⟨-, hsidecar, hgood⟩ := h
    rw [hsidecar, RecordClass.sidecar.injEq] at hclass
    subst hclass
    exact hbad _ hgood

theorem IsHalf.not_displaces {archive : String} {half : Side (Record ρ) (String × Metadata)}
    (h : IsHalf settings record archive half) : ¬ Displaces settings c record :=
  fun ⟨other, _, hturn, _⟩ => h.not_turnsAway other hturn

theorem IsHalf.pathname_orphan {archive : String} {half : Side (Record ρ) (String × Metadata)}
    (h : IsHalf settings record archive half) :
    (orphan (archive, half)).pathname = record.pathname := by
  cases half with
  | left payload => exact congrArg Record.pathname h.1
  | right held => exact h.1

omit [ByteSource ρ] in
/-- A removal takes the path of what waited, and leaves the rest. -/
theorem waiting_perm_erase {archive : String} {half : Side (Record ρ) (String × Metadata)}
    (hasc : c.join.Ascending) (hget : c.join.get? archive = some half) :
    (waiting c.join).Perm ((orphan (archive, half)).pathname :: waiting (c.join.erase archive)) :=
  (PairJoin.entries_perm_erase hasc hget).map _

/-- **The balance of one record.** What was fed is resolved, waits or is lost, and something is
lost exactly if metadata is displaced. -/
theorem Reacts.balance (h : Reacts settings c record reply join) (hasc : c.join.Ascending) :
    ∃ lost, (reply.pathnames ++ lost ++ waiting join).Perm (record.pathname :: waiting c.join) ∧
      (lost = [] ↔ ¬ Displaces settings c record) := by
  cases h with
  | settles notes outcome hkeep =>
    refine ⟨[], List.Perm.refl _, iff_of_true rfl ?_⟩
    exact fun ⟨archive, _, hturn, _⟩ => hkeep archive hturn
  | turnsAway archive notes outcome hturn =>
    unfold dismiss PairJoin.take
    rcases hget : c.join.get? archive with _ | (payload | held)
    · refine ⟨[], ?_, iff_of_true rfl ?_⟩
      · unfold waiting
        rw [PairJoin.erase_eq_self hget]
        exact List.Perm.refl _
      · rintro ⟨other, held, hother, hheld⟩
        cases hturn.1.symm.trans hother.1
        rw [hget] at hheld
        cases hheld
    · refine ⟨[], ?_, iff_of_true rfl ?_⟩
      · exact ((waiting_perm_erase hasc hget).cons record.pathname).symm
      · rintro ⟨other, held, hother, hheld⟩
        cases hturn.1.symm.trans hother.1
        rw [hget] at hheld
        cases hheld
    · -- the metadata that waited is dropped without a word
      refine ⟨[held.1], ?_, iff_of_false (List.cons_ne_nil _ _) ?_⟩
      · exact ((waiting_perm_erase hasc hget).cons record.pathname).symm
      · exact not_not_intro ⟨archive, held, hturn, hget⟩
  | waits archive half hhalf hget =>
    refine ⟨[], ?_, iff_of_true rfl hhalf.not_displaces⟩
    rw [← hhalf.pathname_orphan]
    exact (PairJoin.entries_insert_perm hget).map _
  | joinsPayload pair hhalf hget =>
    refine ⟨[], ?_, iff_of_true rfl hhalf.not_displaces⟩
    rw [← hhalf.pathname_orphan]
    exact (List.Perm.swap _ _ _).trans ((waiting_perm_erase hasc hget).cons _).symm
  | joinsSidecar pair hhalf hget =>
    refine ⟨[], ?_, iff_of_true rfl hhalf.not_displaces⟩
    rw [← hhalf.pathname_orphan]
    exact ((waiting_perm_erase hasc hget).cons _).symm

/-! ## Runs -/

variable (settings)

theorem ascending_after (hasc : c.join.Ascending) (records : List (Record ρ)) :
    (c.after settings records).join.Ascending := by
  induction records generalizing c with
  | nil => exact hasc
  | cons record rest ih => exact ih ((react_reacts settings c record).ascending hasc)

/-- **The balance of a run.** -/
theorem transcript_balance (hasc : c.join.Ascending) (records : List (Record ρ)) :
    ∃ lost, ((c.transcript settings records).flatMap (·.2.pathnames) ++ lost ++
        waiting (c.after settings records).join).Perm
          (records.map (·.pathname) ++ waiting c.join) ∧
      (lost = [] ↔ ∀ before record rest, records = before ++ record :: rest →
        ¬ Displaces settings (c.after settings before) record) := by
  induction records generalizing c with
  | nil =>
    refine ⟨[], List.Perm.refl _, iff_of_true rfl fun before record rest h => ?_⟩
    exact absurd h.symm (List.append_ne_nil_of_right_ne_nil _ (List.cons_ne_nil _ _))
  | cons record rest ih =>
    obtain ⟨lost, hperm, hlost⟩ := (react_reacts settings c record).balance hasc
    obtain ⟨more, hperms, hmore⟩ := ih ((react_reacts settings c record).ascending hasc)
    refine ⟨lost ++ more, ?_, ?_⟩
    · rw [transcript, after, List.flatMap_cons, List.map_cons]
      rw [List.perm_iff_count] at hperm hperms ⊢
      intro path
      have h1 := hperm path
      have h2 := hperms path
      simp only [List.count_append, List.count_cons] at h1 h2 ⊢
      omega
    · rw [List.append_eq_nil_iff, hlost, hmore]
      constructor
      · rintro ⟨hfirst, hrest⟩ before other behind heq
        cases before with
        | nil =>
          obtain ⟨rfl, -⟩ := List.cons.inj heq
          exact hfirst
        | cons first before =>
          obtain ⟨rfl, htail⟩ := List.cons.inj heq
          exact hrest before other behind htail
      · intro h
        refine ⟨h [] record rest rfl, fun before other behind heq => ?_⟩
        exact h (record :: before) other behind (congrArg (record :: ·) heq)

theorem pathnames_enact (reply : Reply ρ) (s : σ) :
    (reply.enact host guest settings s).1.map (·.pathname) = reply.pathnames := by
  rw [enact_fst]
  exact pathnames_resolutions reply _

theorem pathnames_enactAll (replies : List (Reply ρ)) (s : σ) :
    (enactAll host guest settings replies s).1.map (·.pathname) =
      replies.flatMap Reply.pathnames := by
  induction replies generalizing s with
  | nil => rfl
  | cons reply rest ih =>
    rw [List.flatMap_cons, ← pathnames_enact host guest settings reply s,
      ← ih (reply.enact host guest settings s).2]
    exact List.map_append

/-- The paths that a run on some records resolves, and those of the orphans. -/
def settledPaths (records : List (Record ρ)) : List String :=
  (({} : Correlator ρ).transcript settings records).flatMap (·.2.pathnames) ++
    waiting (({} : Correlator ρ).after settings records).join

theorem pathnames_restoreAll_eq (records : List (Record ρ)) (s : σ) :
    (restoreAll host guest settings records s).1.map (·.pathname) =
      settledPaths settings records := by
  rw [restoreAll_eq]
  refine List.map_append.trans ?_
  rw [pathnames_enactAll, List.flatMap_map]
  unfold finish settledPaths waiting
  rw [List.map_map]
  rfl

/-- What is settled and what is forgotten are all records. -/
theorem settledPaths_balance (records : List (Record ρ)) :
    ∃ lost, (settledPaths settings records ++ lost).Perm (records.map (·.pathname)) ∧
      (lost = [] ↔ ∀ before record rest, records = before ++ record :: rest →
        ¬ Displaces settings (({} : Correlator ρ).after settings before) record) := by
  obtain ⟨lost, hperm, hlost⟩ :=
    transcript_balance settings (c := ({} : Correlator ρ)) PairJoin.ascending_empty records
  refine ⟨lost, ?_, hlost⟩
  have hnone : waiting ({} : Correlator ρ).join = [] := rfl
  rw [hnone, List.append_nil] at hperm
  refine List.Perm.trans ?_ hperm
  unfold settledPaths
  rw [List.append_assoc, List.append_assoc]
  exact List.perm_append_comm.append_left _

/-- **No record is resolved twice, and each is resolved once exactly if no metadata is
displaced.** -/
theorem pathnames_restoreAll (records : List (Record ρ)) (s : σ) :
    ((restoreAll host guest settings records s).1.map (·.pathname)).Subperm
        (records.map (·.pathname)) ∧
      (((restoreAll host guest settings records s).1.map (·.pathname)).Perm
          (records.map (·.pathname)) ↔
        ∀ before record rest, records = before ++ record :: rest →
          ¬ Displaces settings (({} : Correlator ρ).after settings before) record) := by
  rw [pathnames_restoreAll_eq]
  obtain ⟨lost, hall, hlost⟩ := settledPaths_balance settings records
  refine ⟨(List.sublist_append_left _ lost).subperm.trans hall.subperm, ?_⟩
  rw [← hlost]
  constructor
  · intro h
    have hlen := hall.length_eq
    rw [List.length_append, h.length_eq] at hlen
    exact List.length_eq_zero_iff.mp (by omega)
  · rintro rfl
    rwa [List.append_nil] at hall

/-- Metadata that waits is forgotten when other metadata of its archive is no good. -/
theorem waiting_metadata_forgotten :
    ¬ ((restoreAll Host.counting Guest.willing {}
        [.ofText "/a/.vzdump-meta-guest.tar.json" "\x7b\"vmid\":7,\"vm_type\":\"lxc\"\x7d",
          .ofText "/b/.vzdump-meta-guest.tar.json" "\x7b\x7d"] 0).1.map
      (·.pathname)).Perm ["/a/.vzdump-meta-guest.tar.json", "/b/.vzdump-meta-guest.tar.json"] := by
  decide +kernel

/-! ## Records of one name -/

/-- Records of one name have one content. -/
def Alike (records : List (Record ρ)) : Prop :=
  ∀ record ∈ records, ∀ other ∈ records, record.name = other.name → record.reader = other.reader

theorem not_displaces_of_alike {records before rest : List (Record ρ)} (halike : Alike records)
    (hsplit : records = before ++ record :: rest) :
    ¬ Displaces settings (({} : Correlator ρ).after settings before) record := by
  rintro ⟨archive, held, ⟨hclass, -, hbad⟩, hheld⟩
  obtain ⟨other, hother, -, hsidecar, hgood⟩ :=
    backed_after (backed_empty before) (List.Subset.refl before) archive _ hheld
  have hreader : record.reader = other.reader := by
    refine halike record ?_ other ?_ (RecordClass.eq_of_ofName_sidecar hsidecar hclass)
    · rw [hsplit]; exact List.mem_append_right _ List.mem_cons_self
    · rw [hsplit]; exact List.mem_append_left _ hother
  rw [hreader] at hbad
  exact hbad _ hgood

/-- **Every record is settled once if records of one name have one content.** -/
theorem settledPaths_perm_of_alike {records : List (Record ρ)} (halike : Alike records) :
    (settledPaths settings records).Perm (records.map (·.pathname)) := by
  obtain ⟨lost, hall, hlost⟩ := settledPaths_balance settings records
  rw [hlost.mpr fun _ _ _ hsplit => not_displaces_of_alike settings halike hsplit,
    List.append_nil] at hall
  exact hall

end GuestVault.Correlator
