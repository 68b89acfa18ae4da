import GuestVault.Proofs.Restore.Plan
import GuestVault.Proofs.Restore.PairJoin
import Mathlib.Tactic.SplitIfs

/-!
# Where the halves of a pair come from

A half is good by itself if its metadata can be read, fits the archive and names a guest that was
asked for (`judgeSidecar_eq_good_iff`), or if its name is not a malformed one
(`judgePayload_eq_good_iff`). Whatever waits in a correlator is a record that was fed to it and
found good (`backed_after`), so both halves of a restored pair are such records (`pairs_sound`).
-/

namespace GuestVault.Correlator

attribute [local irreducible] react

/-! ## Good halves -/

theorem isOther_eq_false_iff {settings : RestoreSettings} {vmid : Int} :
    isOther settings vmid = false ↔ ∀ want, settings.vmid = some want → vmid = want := by
  unfold isOther
  cases settings.vmid with
  | none => exact iff_of_true rfl nofun
  | some want =>
    rw [decide_eq_false_iff_not, ne_eq, not_not]
    refine ⟨fun h other heq => ?_, fun h => h want rfl⟩
    rw [h, Option.some.inj heq]

theorem judgeSidecar_eq_good_iff {ρ : Type} [ByteSource ρ] {settings : RestoreSettings}
    {archive : String} {reader : ρ} {metadata : Metadata} :
    judgeSidecar settings archive reader = .good metadata ↔
      Metadata.decode reader = .ok metadata ∧
        isOther settings (filterId archive metadata) = false ∧
        ∃ named, metadata.validate archive = .ok named := by
  unfold judgeSidecar
  cases Metadata.decode reader with
  | error e => exact iff_of_false nofun (fun h => by cases h.1)
  | ok found =>
    dsimp only
    constructor
    · intro h
      by_cases hother : isOther settings (filterId archive found) = true
      · rw [if_pos hother] at h
        cases h
      rw [if_neg hother] at h
      cases hvalid : found.validate archive with
      | error e => rw [hvalid] at h; cases h
      | ok named =>
        rw [hvalid] at h
        cases h
        exact ⟨rfl, Bool.not_eq_true _ ▸ hother, named, hvalid⟩
    · rintro ⟨heq, hother, named, hvalid⟩
      cases heq
      rw [if_neg (by rw [hother]; exact Bool.false_ne_true), hvalid]

theorem judgePayload_eq_good_iff {settings : RestoreSettings} {archive : String} :
    judgePayload settings archive = .good () ↔
      (∃ kind id, ArchiveName.parse archive = .ok (kind, id) ∧ isOther settings id = false) ∨
        ((∃ e, ArchiveName.parse archive = .error e) ∧
          "vzdump-".toList.isPrefixOf archive.toList = false) := by
  unfold judgePayload
  rcases ArchiveName.parse archive with e | ⟨kind, id⟩
  · dsimp only
    by_cases hfront : "vzdump-".toList.isPrefixOf archive.toList = true
    · rw [if_pos hfront]
      refine iff_of_false nofun ?_
      rintro (⟨_, _, h, -⟩ | ⟨-, h⟩)
      · cases h
      · rw [hfront] at h
        cases h
    · rw [if_neg hfront]
      exact iff_of_true rfl (Or.inr ⟨⟨e, rfl⟩, Bool.not_eq_true _ ▸ hfront⟩)
  · dsimp only
    by_cases hother : isOther settings id = true
    · rw [if_pos hother]
      refine iff_of_false nofun ?_
      rintro (⟨_, _, h, hfalse⟩ | ⟨⟨_, h⟩, -⟩)
      · cases h
        rw [hother] at hfalse
        cases hfalse
      · cases h
    · rw [if_neg hother]
      exact iff_of_true rfl (Or.inl ⟨kind, id, rfl, Bool.not_eq_true _ ▸ hother⟩)

theorem vmid_of_validate {metadata : Metadata} {archive : String} {kind : Kind} {vmid : Nat}
    (h : metadata.validate archive = .ok (kind, vmid)) : metadata.vmid = vmid := by
  unfold Metadata.validate at h
  split_ifs at h with hname hrange
  cases hkind : Kind.parse metadata.vmType with
  | error e => rw [hkind] at h; cases h
  | ok found =>
    rw [hkind] at h
    cases h
    exact (Int.toNat_of_nonneg (by omega)).symm

/-! ## What waits and what is restored -/

variable {ρ : Type} [ByteSource ρ] {settings : RestoreSettings} {c : Correlator ρ}
  {record : Record ρ} {records : List (Record ρ)} {reply : Reply ρ}
  {join : PairJoin (Record ρ) (String × Metadata)}

/-- Every half that waits is a good one of the given records. -/
def Backed (settings : RestoreSettings) (records : List (Record ρ))
    (join : PairJoin (Record ρ) (String × Metadata)) : Prop :=
  ∀ archive half, join.get? archive = some half →
    ∃ record ∈ records, IsHalf settings record archive half

/-- Both halves of a pair are good ones of the given records. -/
def Pair.Sound (settings : RestoreSettings) (records : List (Record ρ)) (pair : Pair ρ) : Prop :=
  (∃ record ∈ records, IsHalf settings record pair.archive (.left pair.payload)) ∧
    ∃ record ∈ records, IsHalf settings record pair.archive (.right (pair.sidecar, pair.metadata))

theorem Backed.mono {more : List (Record ρ)} (h : Backed settings records join)
    (hsub : records ⊆ more) : Backed settings more join := by
  intro archive half hget
  obtain ⟨record, hmem, hhalf⟩ := h archive half hget
  exact ⟨record, hsub hmem, hhalf⟩

theorem Backed.erase (h : Backed settings records join) (archive : String) :
    Backed settings records (join.erase archive) := by
  intro other half hget
  rw [PairJoin.get?_erase] at hget
  by_cases hother : other = archive
  · rw [if_pos hother] at hget
    cases hget
  · rw [if_neg hother] at hget
    exact h other half hget

theorem Backed.insert {archive : String} {half : Side (Record ρ) (String × Metadata)}
    (h : Backed settings records join) (hmem : record ∈ records)
    (hhalf : IsHalf settings record archive half) :
    Backed settings records (join.insert archive half) := by
  intro other held hget
  rw [PairJoin.get?_insert] at hget
  by_cases hother : other = archive
  · rw [if_pos hother, Option.some.injEq] at hget
    exact ⟨record, hmem, hother ▸ hget ▸ hhalf⟩
  · rw [if_neg hother] at hget
    exact h other held hget

theorem Reacts.backed (h : Reacts settings c record reply join) (hmem : record ∈ records)
    (hc : Backed settings records c.join) : Backed settings records join := by
  cases h with
  | settles => exact hc
  | turnsAway archive => exact hc.erase archive
  | waits archive half hhalf => exact hc.insert hmem hhalf
  | joinsPayload pair => exact hc.erase pair.archive
  | joinsSidecar pair => exact hc.erase pair.archive

theorem Reacts.sound (h : Reacts settings c record reply join) (hmem : record ∈ records)
    (hc : Backed settings records c.join) {pair : Pair ρ} (hpair : reply.pair? = some pair) :
    pair.Sound settings records := by
  cases h with
  | settles => cases hpair
  | turnsAway => cases hpair
  | waits => cases hpair
  | joinsPayload joined hhalf hget =>
    obtain rfl := Option.some.inj hpair
    exact ⟨hc _ _ hget, record, hmem, hhalf⟩
  | joinsSidecar joined hhalf hget =>
    obtain rfl := Option.some.inj hpair
    exact ⟨⟨record, hmem, hhalf⟩, hc _ _ hget⟩

theorem backed_empty (records : List (Record ρ)) :
    Backed settings records ({} : Correlator ρ).join := by
  intro archive half hget
  cases hget

theorem backed_after (hc : Backed settings records c.join) {fed : List (Record ρ)}
    (hfed : fed ⊆ records) : Backed settings records (c.after settings fed).join := by
  induction fed generalizing c with
  | nil => exact hc
  | cons record rest ih =>
    obtain ⟨hmem, hrest⟩ := List.cons_subset.mp hfed
    exact ih ((react_reacts settings c record).backed hmem hc) hrest

theorem sound_of_mem_pairs (hc : Backed settings records c.join) {fed : List (Record ρ)}
    (hfed : fed ⊆ records) {pair : Pair ρ} (hpair : pair ∈ c.pairs settings fed) :
    pair.Sound settings records := by
  induction fed generalizing c with
  | nil => cases hpair
  | cons record rest ih =>
    obtain ⟨hmem, hrest⟩ := List.cons_subset.mp hfed
    have hreacts := react_reacts settings c record
    unfold pairs at hpair
    rw [transcript] at hpair
    obtain ⟨turn, hturn, hpair⟩ := List.mem_filterMap.mp hpair
    rcases List.mem_cons.mp hturn with rfl | hturn
    · exact hreacts.sound hmem hc hpair
    · exact ih (hreacts.backed hmem hc) hrest (List.mem_filterMap.mpr ⟨turn, hturn, hpair⟩)

/-- **Every pair of a run consists of two of its records, each good by itself.** -/
theorem pairs_sound {pair : Pair ρ} (hpair : pair ∈ pairs settings {} records) :
    pair.Sound settings records :=
  sound_of_mem_pairs (backed_empty records) (List.Subset.refl records) hpair

end GuestVault.Correlator
