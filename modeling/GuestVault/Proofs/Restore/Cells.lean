import GuestVault.Proofs.Restore.Plan
import GuestVault.Proofs.Restore.PairJoin
import Mathlib.Tactic.SplitIfs

/-!
# One archive at a time

A correlator keeps the archives apart: it is a family of cells, one for each archive. The reaction
to a record is that of the cell of its archive, and no other cell changes (`react_cell`,
`cell_react_of_ne`).

1. `transcript_filter`: in a run, the turns of one archive are those of its cell.
2. `cell_after`: so is what is known about the archive after the run.
-/

namespace GuestVault.Correlator

attribute [local irreducible] judgeSidecar judgePayload RecordClass.ofName

variable {ρ : Type} [ByteSource ρ] (settings : RestoreSettings)

/-- The archive that a record is about. -/
def archiveOf (record : Record ρ) : String :=
  match RecordClass.ofName record.name with
  | .sidecar archive => archive
  | .payload | .other => record.name

/-- What a correlator knows about one archive. -/
@[ext]
structure Cell (ρ : Type) where
  half : Option (Side (Record ρ) (String × Metadata)) := none
  /-- Why the metadata is no good. -/
  fault : Option Error := none
  skipped : Bool := false

/-- What is known about an archive. -/
def cell (c : Correlator ρ) (archive : String) : Cell ρ where
  half := c.join.get? archive
  fault := c.rejected.lookup archive
  skipped := archive ∈ c.skipped

variable {archive other : String}

omit [ByteSource ρ] in
/-- A record of an archive is its metadata or has its name. -/
theorem archiveOf_eq {record : Record ρ} (h : archiveOf record = archive) :
    RecordClass.ofName record.name = .sidecar archive ∨ record.name = archive ∧
      (RecordClass.ofName record.name = .payload ∨ RecordClass.ofName record.name = .other) := by
  unfold archiveOf at h
  cases hclass : RecordClass.ofName record.name with
  | sidecar found =>
    rw [hclass] at h
    exact Or.inl (congrArg RecordClass.sidecar h)
  | payload =>
    rw [hclass] at h
    exact Or.inr ⟨h, Or.inl rfl⟩
  | other =>
    rw [hclass] at h
    exact Or.inr ⟨h, Or.inr rfl⟩

omit [ByteSource ρ] in
theorem archiveOf_of_ofName {record : Record ρ}
    (h : RecordClass.ofName record.name = .sidecar archive ∨
      RecordClass.ofName record.name = .payload ∧ record.name = archive) :
    archiveOf record = archive := by
  unfold archiveOf
  rcases h with h | ⟨h, hname⟩
  · rw [h]
  · rw [h]
    exact hname

/-! ## The reactions of a cell -/

namespace Cell

/-- The archive that waits, with an outcome. -/
def dismissed (cell : Cell ρ) (outcome : Outcome) : List Resolution :=
  match cell.half with
  | some (.left payload) => [⟨payload.pathname, outcome⟩]
  | _ => []

/-- The reaction to metadata. -/
def reactSidecar (cell : Cell ρ) (archive : String) (record : Record ρ) : Reply ρ × Cell ρ :=
  if cell.skipped then (.settle [] [⟨record.pathname, .skipped⟩], cell)
  else
    match judgeSidecar settings archive record.reader with
    | .bad e =>
      (.settle [rejection archive e] (⟨record.pathname, .failed e⟩ :: cell.dismissed (.failed e)),
        { cell with half := none, fault := some e })
    | .foreign vmid =>
      (.settle [filteredOut archive vmid] (⟨record.pathname, .skipped⟩ :: cell.dismissed .skipped),
        { cell with half := none, skipped := true })
    | .good metadata =>
      match cell.half with
      | none => (.settle [] [], { cell with half := some (.right (record.pathname, metadata)) })
      | some (.left payload) =>
        (.restore ⟨archive, payload, record.pathname, metadata⟩, { cell with half := none })
      | some (.right _) =>
        (.settle [] [⟨record.pathname, duplicate "metadata for archive " archive⟩], cell)

/-- The reaction to an archive whose name is not a malformed one. -/
def reactNamed (cell : Cell ρ) (archive : String) (foreign : Option Int) (record : Record ρ) :
    Reply ρ × Cell ρ :=
  match cell.fault with
  | some e => (.settle [] [⟨record.pathname, .failed e⟩], cell)
  | none =>
    if cell.skipped then (.settle [] [⟨record.pathname, .skipped⟩], cell)
    else
      match foreign with
      | some vmid =>
        (.settle [filteredOut archive vmid] [⟨record.pathname, .skipped⟩],
          { cell with skipped := true })
      | none =>
        match cell.half with
        | none => (.settle [] [], { cell with half := some (.left record) })
        | some (.right (sidecar, metadata)) =>
          (.restore ⟨archive, record, sidecar, metadata⟩, { cell with half := none })
        | some (.left _) => (.settle [] [⟨record.pathname, duplicate "archive " archive⟩], cell)

/-- The reaction to an archive. -/
def reactPayload (cell : Cell ρ) (archive : String) (record : Record ρ) : Reply ρ × Cell ρ :=
  match judgePayload settings archive with
  | .bad e => (.settle [] [⟨record.pathname, .failed e⟩], cell)
  | .foreign vmid => cell.reactNamed archive (some vmid) record
  | .good () => cell.reactNamed archive none record

/-- The reaction to a record of the archive. -/
def react (cell : Cell ρ) (record : Record ρ) : Reply ρ × Cell ρ :=
  match RecordClass.ofName record.name with
  | .sidecar archive => cell.reactSidecar settings archive record
  | .payload => cell.reactPayload settings record.name record
  | .other => (.settle [] [⟨record.pathname, .ignored⟩], cell)

end Cell

/-! ## A correlator reacts as its cells do -/

variable {settings} {c : Correlator ρ}

omit [ByteSource ρ] in
theorem dismissed_eq (c : Correlator ρ) (archive : String) (outcome : Outcome) :
    (c.dismiss archive outcome).1 = (c.cell archive).dismissed outcome := by
  unfold dismiss PairJoin.take cell Cell.dismissed
  rcases c.join.get? archive with _ | (_ | _) <;> rfl

omit [ByteSource ρ] in
theorem cell_insert (half : Side (Record ρ) (String × Metadata)) :
    ({ c with join := c.join.insert archive half } : Correlator ρ).cell other =
      if other = archive then ⟨some half, (c.cell archive).fault, (c.cell archive).skipped⟩
      else c.cell other := by
  unfold cell
  rw [PairJoin.get?_insert]
  by_cases h : other = archive
  · rw [if_pos h, if_pos h, h]
  · rw [if_neg h, if_neg h]

omit [ByteSource ρ] in
theorem cell_erase :
    ({ c with join := c.join.erase archive } : Correlator ρ).cell other =
      if other = archive then ⟨none, (c.cell archive).fault, (c.cell archive).skipped⟩
      else c.cell other := by
  unfold cell
  rw [PairJoin.get?_erase]
  by_cases h : other = archive
  · rw [if_pos h, if_pos h, h]
  · rw [if_neg h, if_neg h]

omit [ByteSource ρ] in
theorem cell_reject (e : Error) :
    ({ c with rejected := (archive, e) :: c.rejected } : Correlator ρ).cell other =
      if other = archive then ⟨(c.cell archive).half, some e, (c.cell archive).skipped⟩
      else c.cell other := by
  unfold cell
  by_cases h : other = archive
  · rw [if_pos h, h, List.lookup_cons_self]
  · rw [if_neg h, List.lookup_cons, beq_false_of_ne h]

omit [ByteSource ρ] in
theorem cell_skip :
    ({ c with skipped := archive :: c.skipped } : Correlator ρ).cell other =
      if other = archive then ⟨(c.cell archive).half, (c.cell archive).fault, true⟩
      else c.cell other := by
  unfold cell
  by_cases h : other = archive
  · rw [if_pos h, h, decide_eq_true List.mem_cons_self]
  · rw [if_neg h]
    simp only [List.mem_cons, h, false_or]

omit [ByteSource ρ] in
theorem cell_self (c : Correlator ρ) (archive other : String) :
    c.cell other = if other = archive then c.cell archive else c.cell other := by
  split_ifs with h
  · rw [h]
  · rfl

omit [ByteSource ρ] in
theorem skipped_cell_iff : (c.cell archive).skipped = true ↔ archive ∈ c.skipped :=
  decide_eq_true_iff

theorem reactSidecar_cell (c : Correlator ρ) (archive : String) (record : Record ρ)
    (other : String) :
    (c.reactSidecar settings archive record).1 =
        ((c.cell archive).reactSidecar settings archive record).1 ∧
      (c.reactSidecar settings archive record).2.cell other =
        if other = archive then ((c.cell archive).reactSidecar settings archive record).2
        else c.cell other := by
  unfold reactSidecar Cell.reactSidecar
  by_cases hskip : archive ∈ c.skipped
  · rw [if_pos hskip, if_pos (skipped_cell_iff.mpr hskip)]
    exact ⟨rfl, cell_self c archive other⟩
  rw [if_neg hskip, if_neg (mt skipped_cell_iff.mp hskip)]
  cases judgeSidecar settings archive record.reader with
  | bad e =>
    dsimp only
    rw [dismissed_eq]
    refine ⟨rfl, (cell_reject (c := { c with join := c.join.erase archive }) e).trans ?_⟩
    rw [cell_erase, cell_erase, if_pos rfl]
    split_ifs <;> rfl
  | foreign vmid =>
    dsimp only
    rw [dismissed_eq]
    refine ⟨rfl, (cell_skip (c := { c with join := c.join.erase archive })).trans ?_⟩
    rw [cell_erase, cell_erase, if_pos rfl]
    split_ifs <;> rfl
  | good metadata =>
    dsimp only
    rw [show (c.cell archive).half = c.join.get? archive from rfl]
    rcases c.join.get? archive with _ | (payload | held)
    · exact ⟨rfl, cell_insert _⟩
    · exact ⟨rfl, cell_erase⟩
    · exact ⟨rfl, cell_self c archive other⟩

omit [ByteSource ρ] in
theorem reactNamed_cell (c : Correlator ρ) (archive : String) (foreign : Option Int)
    (record : Record ρ) (other : String) :
    (c.reactNamed archive foreign record).1 =
        ((c.cell archive).reactNamed archive foreign record).1 ∧
      (c.reactNamed archive foreign record).2.cell other =
        if other = archive then ((c.cell archive).reactNamed archive foreign record).2
        else c.cell other := by
  unfold reactNamed Cell.reactNamed
  cases hfault : c.rejected.lookup archive with
  | some e =>
    rw [show (c.cell archive).fault = some e from hfault]
    exact ⟨rfl, cell_self c archive other⟩
  | none =>
    have hclear : (c.cell archive).fault = none := hfault
    rw [hclear]
    dsimp only
    by_cases hskip : archive ∈ c.skipped
    · rw [if_pos hskip, if_pos (skipped_cell_iff.mpr hskip)]
      exact ⟨rfl, cell_self c archive other⟩
    rw [if_neg hskip, if_neg (mt skipped_cell_iff.mp hskip)]
    cases foreign with
    | some vmid => exact ⟨rfl, cell_skip.trans (by rw [hclear])⟩
    | none =>
      dsimp only
      rw [show (c.cell archive).half = c.join.get? archive from rfl]
      rcases c.join.get? archive with _ | (held | ⟨sidecar, metadata⟩)
      · exact ⟨rfl, (cell_insert _).trans (by rw [hclear])⟩
      · exact ⟨rfl, cell_self c archive other⟩
      · exact ⟨rfl, cell_erase.trans (by rw [hclear])⟩

omit [ByteSource ρ] in
theorem reactPayload_cell (c : Correlator ρ) (archive : String) (record : Record ρ)
    (other : String) :
    (c.reactPayload settings archive record).1 =
        ((c.cell archive).reactPayload settings archive record).1 ∧
      (c.reactPayload settings archive record).2.cell other =
        if other = archive then ((c.cell archive).reactPayload settings archive record).2
        else c.cell other := by
  unfold reactPayload Cell.reactPayload
  cases judgePayload settings archive with
  | bad e => exact ⟨rfl, cell_self c archive other⟩
  | foreign vmid => exact reactNamed_cell c archive (some vmid) record other
  | good _ => exact reactNamed_cell c archive none record other

/-- **A correlator reacts as the cell of the record's archive does, and changes only that.** -/
theorem react_cell (settings : RestoreSettings) (c : Correlator ρ) (record : Record ρ)
    (other : String) :
    (c.react settings record).1 = ((c.cell (archiveOf record)).react settings record).1 ∧
      (c.react settings record).2.cell other =
        if other = archiveOf record then ((c.cell (archiveOf record)).react settings record).2
        else c.cell other := by
  unfold react Cell.react archiveOf
  cases RecordClass.ofName record.name with
  | sidecar archive => exact reactSidecar_cell c archive record other
  | payload => exact reactPayload_cell c record.name record other
  | other => exact ⟨rfl, cell_self c record.name other⟩

/-! ## Runs -/

namespace Cell

variable (settings)

/-- The records of the archive and the replies to them. -/
def transcript (cell : Cell ρ) : List (Record ρ) → List (Record ρ × Reply ρ)
  | [] => []
  | record :: rest =>
    (record, (cell.react settings record).1) :: transcript (cell.react settings record).2 rest

/-- The cell after some records of the archive. -/
def after (cell : Cell ρ) : List (Record ρ) → Cell ρ
  | [] => cell
  | record :: rest => after (cell.react settings record).2 rest

end Cell

/-- The records of one archive. -/
def recordsOf (archive : String) (records : List (Record ρ)) : List (Record ρ) :=
  records.filter fun record => archiveOf record = archive

omit [ByteSource ρ] in
theorem mem_recordsOf {record : Record ρ} {records : List (Record ρ)} :
    record ∈ recordsOf archive records ↔ record ∈ records ∧ archiveOf record = archive := by
  unfold recordsOf
  rw [List.mem_filter, decide_eq_true_iff]

omit [ByteSource ρ] in
theorem recordsOf_cons_of_eq {record : Record ρ} (h : archiveOf record = archive)
    (rest : List (Record ρ)) :
    recordsOf archive (record :: rest) = record :: recordsOf archive rest :=
  List.filter_cons_of_pos (decide_eq_true h)

omit [ByteSource ρ] in
theorem recordsOf_cons_of_ne {record : Record ρ} (h : archiveOf record ≠ archive)
    (rest : List (Record ρ)) : recordsOf archive (record :: rest) = recordsOf archive rest :=
  List.filter_cons_of_neg (by simpa using h)

variable (settings)

/-- **The turns of one archive are those of its cell.** -/
theorem transcript_filter (c : Correlator ρ) (archive : String) (records : List (Record ρ)) :
    (c.transcript settings records).filter (fun turn => archiveOf turn.1 = archive) =
      (c.cell archive).transcript settings (recordsOf archive records) := by
  induction records generalizing c with
  | nil => rfl
  | cons record rest ih =>
    obtain ⟨hreply, hcell⟩ := react_cell settings c record archive
    by_cases h : archiveOf record = archive
    · rw [if_pos h.symm] at hcell
      rw [transcript, List.filter_cons_of_pos (by simpa using h), ih, recordsOf_cons_of_eq h,
        Cell.transcript, hcell, hreply, h]
    · rw [if_neg (Ne.symm h)] at hcell
      rw [transcript, List.filter_cons_of_neg (by simpa using h), ih, recordsOf_cons_of_ne h, hcell]

theorem cell_after (c : Correlator ρ) (archive : String) (records : List (Record ρ)) :
    (c.after settings records).cell archive =
      (c.cell archive).after settings (recordsOf archive records) := by
  induction records generalizing c with
  | nil => rfl
  | cons record rest ih =>
    obtain ⟨-, hcell⟩ := react_cell settings c record archive
    rw [after, ih]
    by_cases h : archiveOf record = archive
    · rw [if_pos h.symm] at hcell
      rw [recordsOf_cons_of_eq h, Cell.after, hcell, h]
    · rw [if_neg (Ne.symm h)] at hcell
      rw [recordsOf_cons_of_ne h, hcell]

end GuestVault.Correlator
