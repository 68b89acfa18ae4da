import GuestVault.Proofs.Restore.Blocks

/-!
# Archives that are given up

An archive is given up once a record condemns it (`Cell.condemned_react`): metadata that is no good or of
another guest, or an archive of another guest. From then on no archive waits for metadata under that
name (`Sealed`), so there is no pair of it in the rest of the run (`pair_ne_of_condemns`).
-/

namespace GuestVault.Correlator

attribute [local irreducible] Correlator.react judgeSidecar judgePayload RecordClass.ofName

variable {ρ : Type} [ByteSource ρ] {settings : RestoreSettings} {c : Correlator ρ}
  {record : Record ρ} {fed : List (Record ρ)} {archive : String}

/-! ## One cell -/

/-- The record shows that its archive is not to be restored: it is metadata that is no good or of another
guest, or an archive of another guest. -/
def Condemns (settings : RestoreSettings) (record : Record ρ) (archive : String) : Prop :=
  (RecordClass.ofName record.name = .sidecar archive ∧
      ∀ metadata, judgeSidecar settings archive record.reader ≠ .good metadata) ∨
    RecordClass.ofName record.name = .payload ∧ record.name = archive ∧
      ∃ vmid, judgePayload settings archive = .foreign vmid

theorem Condemns.archiveOf_eq (h : Condemns settings record archive) : archiveOf record = archive :=
  archiveOf_of_ofName (h.imp And.left fun h => ⟨h.1, h.2.1⟩)

/-- The metadata was rejected, or the archive was skipped. -/
def Cell.Condemned (cell : Cell ρ) : Prop :=
  cell.fault.isSome ∨ cell.skipped

theorem Cell.condemned_reactSidecar {cell : Cell ρ} {record : Record ρ}
    (hclass : RecordClass.ofName record.name = .sidecar archive) :
    (cell.reactSidecar settings archive record).2.Condemned ↔
      cell.Condemned ∨ Condemns settings record archive := by
  have hcondemns : Condemns settings record archive ↔
      ∀ metadata, judgeSidecar settings archive record.reader ≠ .good metadata := by
    refine ⟨?_, fun h => Or.inl ⟨hclass, h⟩⟩
    rintro (⟨-, h⟩ | ⟨h, -⟩)
    · exact h
    · rw [hclass] at h
      cases h
  rw [hcondemns]
  unfold reactSidecar
  by_cases hskip : cell.skipped = true
  · rw [if_pos hskip]
    exact iff_of_true (Or.inr hskip) (Or.inl (Or.inr hskip))
  rw [if_neg hskip]
  cases judgeSidecar settings archive record.reader with
  | bad e => exact iff_of_true (Or.inl rfl) (Or.inr nofun)
  | foreign vmid => exact iff_of_true (Or.inr rfl) (Or.inr nofun)
  | good metadata =>
    have hgood : (cell.Condemned ∨ ∀ m, Verdict.good metadata ≠ .good m) ↔ cell.Condemned :=
      or_iff_left fun h => h metadata rfl
    rw [hgood]
    dsimp only
    rcases cell.half with _ | (payload | held)
    · exact Iff.rfl
    · exact Iff.rfl
    · exact Iff.rfl

omit [ByteSource ρ] in
theorem Cell.condemned_reactNamed (cell : Cell ρ) (archive : String) (foreign : Option Int)
    (record : Record ρ) :
    (cell.reactNamed archive foreign record).2.Condemned ↔ cell.Condemned ∨ foreign.isSome := by
  unfold reactNamed
  cases hfault : cell.fault with
  | some e =>
    have hcell : cell.Condemned := Or.inl (Option.isSome_of_eq_some hfault)
    exact iff_of_true hcell (Or.inl hcell)
  | none =>
    dsimp only
    by_cases hskip : cell.skipped = true
    · rw [if_pos hskip]
      exact iff_of_true (Or.inr hskip) (Or.inl (Or.inr hskip))
    rw [if_neg hskip]
    cases foreign with
    | some vmid => exact iff_of_true (Or.inr rfl) (Or.inr rfl)
    | none =>
      have hsame : (cell.Condemned ∨ (none : Option Int).isSome) ↔ cell.Condemned :=
        or_iff_left nofun
      rw [hsame]
      unfold Condemned
      rw [hfault]
      dsimp only
      rcases cell.half with _ | (payload | held)
      · exact Iff.rfl
      · rw [hfault]
      · exact Iff.rfl

/-- **An archive is given up once a record condemns it.** -/
theorem Cell.condemned_react (settings : RestoreSettings) (cell : Cell ρ) {record : Record ρ}
    (h : archiveOf record = archive) :
    (cell.react settings record).2.Condemned ↔
      cell.Condemned ∨ Condemns settings record archive := by
  unfold react
  cases hclass : RecordClass.ofName record.name with
  | sidecar found =>
    obtain rfl : found = archive := by
      unfold archiveOf at h
      rw [hclass] at h
      exact h
    exact Cell.condemned_reactSidecar hclass
  | other =>
    refine (or_iff_left ?_).symm
    rintro (⟨hother, -⟩ | ⟨hother, -⟩)
    · rw [hclass] at hother
      cases hother
    · rw [hclass] at hother
      cases hother
  | payload =>
    obtain rfl : record.name = archive := by
      unfold archiveOf at h
      rw [hclass] at h
      exact h
    have hcondemns : Condemns settings record record.name ↔
        ∃ vmid, judgePayload settings record.name = .foreign vmid := by
      refine ⟨?_, fun h => Or.inr ⟨hclass, rfl, h⟩⟩
      rintro (⟨h, -⟩ | ⟨-, -, h⟩)
      · rw [hclass] at h
        cases h
      · exact h
    rw [hcondemns]
    dsimp only
    unfold reactPayload
    cases judgePayload settings record.name with
    | bad e => exact (or_iff_left nofun).symm
    | foreign vmid =>
      rw [Cell.condemned_reactNamed]
      exact or_congr_right (iff_of_true rfl ⟨vmid, rfl⟩)
    | good _ =>
      rw [Cell.condemned_reactNamed]
      exact or_congr_right (iff_of_false nofun nofun)

omit [ByteSource ρ] in
theorem Cell.reactPayload_of_condemned (settings : RestoreSettings) {cell : Cell ρ}
    (h : cell.Condemned) (archive : String) (record : Record ρ) :
    ∃ outcome, cell.reactPayload settings archive record =
      (.settle [] [⟨record.pathname, outcome⟩], cell) := by
  have hnamed (foreign : Option Int) : ∃ outcome, cell.reactNamed archive foreign record =
      (.settle [] [⟨record.pathname, outcome⟩], cell) := by
    unfold reactNamed
    cases hfault : cell.fault with
    | some e => exact ⟨_, rfl⟩
    | none =>
      have hskip : cell.skipped = true := by
        rcases h with h | h
        · rw [hfault] at h
          cases h
        · exact h
      dsimp only
      rw [if_pos hskip]
      exact ⟨_, rfl⟩
  unfold reactPayload
  cases judgePayload settings archive with
  | bad e => exact ⟨_, rfl⟩
  | foreign vmid => exact hnamed (some vmid)
  | good _ => exact hnamed none

/-- While no archive waits, a cell that is given up restores nothing, and no archive comes to wait. -/
theorem Cell.react_of_condemned (settings : RestoreSettings) {cell : Cell ρ} (h : cell.Condemned)
    (hlacks : cell.LacksArchive) (record : Record ρ) :
    (cell.react settings record).1.pair? = none ∧ (cell.react settings record).2.LacksArchive := by
  cases hclass : RecordClass.ofName record.name with
  | sidecar archive =>
    rcases steps_metadata hclass cell with ⟨hpair, hkeep⟩ | ⟨-, hhas⟩
    · exact ⟨hpair, hkeep hlacks⟩
    · exact absurd hlacks hhas
  | other =>
    unfold react
    rw [hclass]
    exact ⟨rfl, hlacks⟩
  | payload =>
    obtain ⟨outcome, hsettles⟩ :=
      Cell.reactPayload_of_condemned settings h record.name record
    unfold react
    rw [hclass]
    dsimp only
    rw [hsettles]
    exact ⟨rfl, hlacks⟩

theorem Cell.lacksArchive_of_condemns {cell : Cell ρ} (hclear : ¬ cell.Condemned)
    (h : Condemns settings record archive)
    (hgood : ∀ payload, cell.half = some (.left payload) → judgePayload settings archive = .good ()) :
    (cell.react settings record).2.LacksArchive := by
  have hskip : ¬ cell.skipped = true := fun hskip => hclear (Or.inr hskip)
  have hfault : cell.fault = none := by
    cases hfault : cell.fault with
    | none => rfl
    | some e => exact absurd (Or.inl (Option.isSome_of_eq_some hfault)) hclear
  unfold react
  rcases h with ⟨hclass, hbad⟩ | ⟨hclass, rfl, vmid, hforeign⟩
  · rw [hclass]
    dsimp only
    unfold reactSidecar
    rw [if_neg hskip]
    cases hjudge : judgeSidecar settings archive record.reader with
    | bad e => exact fun _ => nofun
    | foreign vmid => exact fun _ => nofun
    | good metadata => exact absurd hjudge (hbad metadata)
  · rw [hclass]
    dsimp only
    unfold reactPayload
    rw [hforeign]
    dsimp only
    unfold reactNamed
    rw [hfault]
    dsimp only
    rw [if_neg hskip]
    intro payload hwaits
    rw [hgood payload hwaits] at hforeign
    cases hforeign

/-! ## Runs -/

/-- **The archives that are given up are those that a record condemned.** -/
theorem condemned_after_iff (c : Correlator ρ) (records : List (Record ρ)) :
    ((c.after settings records).cell archive).Condemned ↔
      (c.cell archive).Condemned ∨ ∃ record ∈ records, Condemns settings record archive := by
  induction records generalizing c with
  | nil => exact (or_iff_left fun ⟨_, h, _⟩ => List.not_mem_nil h).symm
  | cons record rest ih =>
    have hstep : ((c.react settings record).2.cell archive).Condemned ↔
        (c.cell archive).Condemned ∨ Condemns settings record archive := by
      obtain ⟨-, hcell⟩ := react_cell settings c record archive
      rw [hcell]
      by_cases hown : archive = archiveOf record
      · rw [if_pos hown, ← hown]
        exact Cell.condemned_react settings _ hown.symm
      · rw [if_neg hown]
        exact (or_iff_left fun h => hown h.archiveOf_eq.symm).symm
    rw [after, ih, hstep, or_assoc, List.exists_mem_cons_iff]

/-- No archive waits that is given up. -/
def Sealed (c : Correlator ρ) : Prop :=
  ∀ archive, (c.cell archive).Condemned → (c.cell archive).LacksArchive

theorem Sealed.react (h : c.Sealed) (hbacked : Backed settings fed c.join) (record : Record ρ) :
    (c.react settings record).2.Sealed := by
  intro archive hcondemned
  obtain ⟨-, hcell⟩ := react_cell settings c record archive
  by_cases hown : archive = archiveOf record
  · rw [if_pos hown, ← hown] at hcell
    rw [hcell] at hcondemned ⊢
    by_cases hbefore : (c.cell archive).Condemned
    · exact (Cell.react_of_condemned settings hbefore (h archive hbefore) record).2
    · refine Cell.lacksArchive_of_condemns hbefore
        (((Cell.condemned_react settings _ hown.symm).mp hcondemned).resolve_left hbefore) ?_
      intro payload hwaits
      obtain ⟨other, -, -, -, -, hgood⟩ := hbacked archive _ hwaits
      exact hgood
  · rw [if_neg hown] at hcell
    rw [hcell] at hcondemned ⊢
    exact h archive hcondemned

theorem pair_ne_of_condemned {records : List (Record ρ)} (h : (c.cell archive).Condemned)
    (hlacks : (c.cell archive).LacksArchive) :
    ∀ turn ∈ c.transcript settings records, ∀ pair, turn.2.pair? = some pair →
      pair.archive ≠ archive := by
  induction records generalizing c with
  | nil => nofun
  | cons record rest ih =>
    obtain ⟨hreply, hcell⟩ := react_cell settings c record archive
    rw [transcript]
    intro turn hturn pair hpair
    by_cases hown : archive = archiveOf record
    · rw [if_pos hown, ← hown] at hcell
      rw [← hown] at hreply
      obtain ⟨hnone, hstill⟩ := Cell.react_of_condemned settings h hlacks record
      have hcondemned := (Cell.condemned_react settings _ hown.symm).mpr (Or.inl h)
      rcases List.mem_cons.mp hturn with rfl | hturn
      · rw [hreply, hnone] at hpair
        cases hpair
      · exact ih (hcell.symm ▸ hcondemned) (hcell.symm ▸ hstill) turn hturn pair hpair
    · rw [if_neg hown] at hcell
      rcases List.mem_cons.mp hturn with rfl | hturn
      · rw [archive_of_reacts (react_reacts settings c record) hpair]
        exact Ne.symm hown
      · exact ih (hcell.symm ▸ h) (hcell.symm ▸ hlacks) turn hturn pair hpair

/-- **There is no pair of an archive once a record has condemned it.** -/
theorem pair_ne_of_condemns (hsealed : c.Sealed) (hbacked : Backed settings fed c.join)
    (records : List (Record ρ)) :
    (c.transcript settings records).Pairwise fun earlier later =>
      ∀ archive, Condemns settings earlier.1 archive → ∀ pair, later.2.pair? = some pair →
        pair.archive ≠ archive := by
  induction records generalizing c fed with
  | nil => exact .nil
  | cons record rest ih =>
    have hnext : Backed settings (fed ++ [record]) (c.react settings record).2.join :=
      (react_reacts settings c record).backed (List.mem_append_right _ List.mem_cons_self)
        (hbacked.mono (List.subset_append_left _ _))
    have hstill := hsealed.react hbacked record
    rw [transcript]
    refine .cons ?_ (ih hstill hnext)
    intro turn hturn archive hcondemns
    have hown := hcondemns.archiveOf_eq
    obtain ⟨-, hcell⟩ := react_cell settings c record archive
    rw [if_pos hown.symm, hown] at hcell
    have hcondemned : ((c.react settings record).2.cell archive).Condemned :=
      hcell ▸ (Cell.condemned_react settings _ hown).mpr (Or.inr hcondemns)
    exact pair_ne_of_condemned hcondemned (hstill archive hcondemned) turn hturn

end GuestVault.Correlator
