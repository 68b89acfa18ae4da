import GuestVault.Proofs.Restore.Cells
import GuestVault.Proofs.Restore.Provenance
import GuestVault.Proofs.Restore.RecordClass

/-!
# Runs of like records

Records that come in the order of their names come archive by archive in two blocks: metadata and
archives of one name each. A block joins at most one pair, and none if no half of the other kind
waits (`pairs_block`, `length_pairs_block`), so the two blocks join at most one pair between them,
whichever comes first (`length_pairs_le_one`); and they do join one if both hold a good half
(`pairs_ne_nil`).
-/

namespace GuestVault.Correlator

attribute [local irreducible] react archiveOf RecordClass.ofName judgeSidecar judgePayload

variable {ρ : Type} [ByteSource ρ] (settings : RestoreSettings)

/-! ## Pairs of one archive -/

/-- The pairs that a cell restores. -/
def Cell.pairs (cell : Cell ρ) (records : List (Record ρ)) : List (Pair ρ) :=
  (cell.transcript settings records).filterMap (·.2.pair?)

variable {settings} {c : Correlator ρ} {cell : Cell ρ} {archive : String} {record : Record ρ}

/-- A pair is one of the archive that its record is about. -/
theorem archive_of_reacts {reply : Reply ρ} {join : PairJoin (Record ρ) (String × Metadata)}
    (h : Reacts settings c record reply join) {pair : Pair ρ} (hpair : reply.pair? = some pair) :
    pair.archive = archiveOf record := by
  cases h with
  | settles => cases hpair
  | turnsAway => cases hpair
  | waits => cases hpair
  | joinsPayload joined hhalf =>
    obtain rfl := Option.some.inj hpair
    obtain ⟨-, hclass, -⟩ := hhalf
    unfold archiveOf
    rw [hclass]
  | joinsSidecar joined hhalf =>
    obtain rfl := Option.some.inj hpair
    obtain ⟨-, hclass, hname, -⟩ := hhalf
    unfold archiveOf
    rw [hclass]
    exact hname.symm

theorem pairs_filter_transcript (c : Correlator ρ) (records : List (Record ρ)) (archive : String) :
    (c.pairs settings records).filter (fun pair => pair.archive = archive) =
      ((c.transcript settings records).filter
        fun turn => archiveOf turn.1 = archive).filterMap (·.2.pair?) := by
  unfold pairs
  induction records generalizing c with
  | nil => rfl
  | cons record rest ih =>
    have hreacts := react_reacts settings c record
    rw [transcript]
    generalize c.react settings record = reaction at *
    obtain ⟨reply, c'⟩ := reaction
    cases hpair : reply.pair? with
    | none =>
      simp only [List.filterMap_cons, hpair]
      rw [ih]
      by_cases h : archiveOf record = archive
      · rw [List.filter_cons_of_pos (by simpa using h)]
        simp only [List.filterMap_cons, hpair]
      · rw [List.filter_cons_of_neg (by simpa using h)]
    | some pair =>
      have hown := archive_of_reacts hreacts hpair
      simp only [List.filterMap_cons, hpair]
      by_cases h : archiveOf record = archive
      · rw [List.filter_cons_of_pos (by simpa using hown.trans h),
          List.filter_cons_of_pos (by simpa using h), ih]
        simp only [List.filterMap_cons, hpair]
      · rw [List.filter_cons_of_neg (by simpa using fun heq => h (hown.symm.trans heq)),
          List.filter_cons_of_neg (by simpa using h), ih]

/-- **The pairs of one archive are those of its cell.** -/
theorem pairs_filter (c : Correlator ρ) (archive : String) (records : List (Record ρ)) :
    (c.pairs settings records).filter (fun pair => pair.archive = archive) =
      (c.cell archive).pairs settings (recordsOf archive records) := by
  rw [pairs_filter_transcript, transcript_filter]
  rfl

/-! ## Blocks -/

variable (settings)

/-- A record joins no pair in a cell that lacks something, and leaves it lacking that; if it joins
a pair in another cell, nothing waits there afterwards. -/
def Steps (Lacks : Cell ρ → Prop) (record : Record ρ) : Prop :=
  ∀ cell : Cell ρ,
    ((cell.react settings record).1.pair? = none ∧
        (Lacks cell → Lacks (cell.react settings record).2)) ∨
      (cell.react settings record).2.half = none ∧ ¬ Lacks cell

variable {settings} {Lacks : Cell ρ → Prop} {records : List (Record ρ)}

theorem Cell.pairs_cons (cell : Cell ρ) (record : Record ρ) (rest : List (Record ρ)) :
    cell.pairs settings (record :: rest) =
      (cell.react settings record).1.pair?.toList ++
        (cell.react settings record).2.pairs settings rest := by
  unfold Cell.pairs
  rw [Cell.transcript]
  cases hpair : (cell.react settings record).1.pair? with
  | none => exact List.filterMap_cons_none hpair
  | some pair => exact List.filterMap_cons_some hpair

theorem Cell.pairs_append (cell : Cell ρ) (before rest : List (Record ρ)) :
    cell.pairs settings (before ++ rest) =
      cell.pairs settings before ++ (cell.after settings before).pairs settings rest := by
  induction before generalizing cell with
  | nil => rfl
  | cons record before ih =>
    rw [List.cons_append, Cell.pairs_cons, Cell.pairs_cons, ih, List.append_assoc, Cell.after]

theorem pairs_block (hblock : ∀ record ∈ records, Steps settings Lacks record)
    (hcell : Lacks cell) :
    cell.pairs settings records = [] ∧ Lacks (cell.after settings records) := by
  induction records generalizing cell with
  | nil => exact ⟨rfl, hcell⟩
  | cons record rest ih =>
    obtain ⟨hrecord, hrest⟩ := List.forall_mem_cons.mp hblock
    rcases hrecord cell with ⟨hpair, hkeep⟩ | ⟨-, hlacks⟩
    · rw [Cell.pairs_cons, hpair, Cell.after]
      exact ih hrest (hkeep hcell)
    · exact absurd hcell hlacks

theorem length_pairs_block (hnone : ∀ cell : Cell ρ, cell.half = none → Lacks cell)
    (hblock : ∀ record ∈ records, Steps settings Lacks record) (cell : Cell ρ) :
    (cell.pairs settings records).length ≤ 1 := by
  induction records generalizing cell with
  | nil => exact Nat.zero_le _
  | cons record rest ih =>
    obtain ⟨hrecord, hrest⟩ := List.forall_mem_cons.mp hblock
    rw [Cell.pairs_cons]
    rcases hrecord cell with ⟨hpair, -⟩ | ⟨hhalf, -⟩
    · rw [hpair]
      exact ih hrest _
    · -- nothing waits after the pair, so the rest joins nothing
      rw [(pairs_block hrest (hnone _ hhalf)).1, List.append_nil]
      cases (cell.react settings record).1.pair? with
      | none => exact Nat.zero_le _
      | some pair => exact Nat.le_refl _

/-- No archive waits. -/
def Cell.LacksArchive (cell : Cell ρ) : Prop :=
  ∀ payload, cell.half ≠ some (.left payload)

/-- No metadata waits. -/
def Cell.LacksMetadata (cell : Cell ρ) : Prop :=
  ∀ held, cell.half ≠ some (.right held)

theorem steps_metadata (hclass : RecordClass.ofName record.name = .sidecar archive) :
    Steps settings Cell.LacksArchive record := by
  intro cell
  unfold Cell.react
  rw [hclass]
  dsimp only
  unfold Cell.reactSidecar
  by_cases hskip : cell.skipped = true
  · rw [if_pos hskip]
    exact Or.inl ⟨rfl, id⟩
  rw [if_neg hskip]
  cases judgeSidecar settings archive record.reader with
  | bad e => exact Or.inl ⟨rfl, fun _ => nofun⟩
  | foreign vmid => exact Or.inl ⟨rfl, fun _ => nofun⟩
  | good metadata =>
    dsimp only
    rcases hhalf : cell.half with _ | (payload | held)
    · exact Or.inl ⟨rfl, fun _ => nofun⟩
    · exact Or.inr ⟨rfl, fun h => h payload hhalf⟩
    · exact Or.inl ⟨rfl, id⟩

theorem steps_archive (hclass : ∀ archive, RecordClass.ofName record.name ≠ .sidecar archive) :
    Steps settings Cell.LacksMetadata record := by
  intro cell
  unfold Cell.react
  cases hof : RecordClass.ofName record.name with
  | sidecar archive => exact absurd hof (hclass archive)
  | other => exact Or.inl ⟨rfl, id⟩
  | payload =>
    dsimp only
    have hnamed (foreign : Option Int) :
        ((cell.reactNamed record.name foreign record).1.pair? = none ∧
            (cell.LacksMetadata → (cell.reactNamed record.name foreign record).2.LacksMetadata)) ∨
          (cell.reactNamed record.name foreign record).2.half = none ∧ ¬ cell.LacksMetadata := by
      unfold Cell.reactNamed
      cases cell.fault with
      | some e => exact Or.inl ⟨rfl, id⟩
      | none =>
        dsimp only
        by_cases hskip : cell.skipped = true
        · rw [if_pos hskip]
          exact Or.inl ⟨rfl, id⟩
        rw [if_neg hskip]
        cases foreign with
        | some vmid => exact Or.inl ⟨rfl, id⟩
        | none =>
          dsimp only
          rcases hhalf : cell.half with _ | (payload | held)
          · exact Or.inl ⟨rfl, fun _ => nofun⟩
          · exact Or.inl ⟨rfl, id⟩
          · exact Or.inr ⟨rfl, fun h => h held hhalf⟩
    unfold Cell.reactPayload
    cases judgePayload settings record.name with
    | bad e => exact Or.inl ⟨rfl, id⟩
    | foreign vmid => exact hnamed (some vmid)
    | good _ => exact hnamed none

/-! ## Good halves -/

/-- Good metadata of an archive. -/
def GoodMetadata (settings : RestoreSettings) (archive : String) (record : Record ρ) : Prop :=
  RecordClass.ofName record.name = .sidecar archive ∧
    ∃ metadata, judgeSidecar settings archive record.reader = .good metadata

/-- An archive of the given name that is good. -/
def GoodArchive (settings : RestoreSettings) (archive : String) (record : Record ρ) : Prop :=
  RecordClass.ofName record.name = .payload ∧ record.name = archive ∧
    judgePayload settings archive = .good ()

theorem react_goodMetadata (hgood : GoodMetadata settings archive record) :
    ∃ held : String × Metadata,
      (({} : Cell ρ).react settings record).2 = { half := some (.right held) } ∧
      (∀ held', (({ half := some (.right held') } : Cell ρ).react settings record).2 =
        { half := some (.right held') }) ∧
      ∀ payload, ∃ pair,
        (({ half := some (.left payload) } : Cell ρ).react settings record).1 = .restore pair := by
  obtain ⟨hclass, metadata, hjudge⟩ := hgood
  unfold Cell.react
  rw [hclass]
  dsimp only
  unfold Cell.reactSidecar
  rw [hjudge]
  exact ⟨_, rfl, fun _ => rfl, fun _ => ⟨_, rfl⟩⟩

theorem react_goodArchive (hgood : GoodArchive settings archive record) :
    (({} : Cell ρ).react settings record).2 = { half := some (.left record) } ∧
      (∀ payload, (({ half := some (.left payload) } : Cell ρ).react settings record).2 =
        { half := some (.left payload) }) ∧
      ∀ held, ∃ pair,
        (({ half := some (.right held) } : Cell ρ).react settings record).1 = .restore pair := by
  obtain ⟨hclass, rfl, hjudge⟩ := hgood
  unfold Cell.react
  rw [hclass]
  dsimp only
  unfold Cell.reactPayload
  rw [hjudge]
  exact ⟨rfl, fun _ => rfl, fun _ => ⟨_, rfl⟩⟩

theorem after_eq_self {rest : List (Record ρ)}
    (h : ∀ record ∈ rest, (cell.react settings record).2 = cell) :
    cell.after settings rest = cell := by
  induction rest with
  | nil => rfl
  | cons record rest ih =>
    obtain ⟨hrecord, hrest⟩ := List.forall_mem_cons.mp h
    rw [Cell.after, hrecord, ih hrest]

/-- A pair is joined where one half waits, others like it come, and then one that is joined. -/
theorem pairs_ne_nil_of_waits {before rest : List (Record ρ)} {first next : Record ρ}
    {waits : Cell ρ} {pair : Pair ρ} (hfirst : (cell.react settings first).2 = waits)
    (hkeep : ∀ record ∈ before, (waits.react settings record).2 = waits)
    (hjoin : (waits.react settings next).1 = .restore pair) :
    cell.pairs settings (first :: before ++ next :: rest) ≠ [] := by
  have hafter : cell.after settings (first :: before) = waits := by
    rw [Cell.after, hfirst]
    exact after_eq_self hkeep
  rw [Cell.pairs_append, hafter, Cell.pairs_cons waits, hjoin]
  exact List.append_ne_nil_of_right_ne_nil _ (List.cons_ne_nil _ _)

theorem pairs_ne_nil_metadata_first {before rest : List (Record ρ)} (hbefore : before ≠ [])
    (hrest : rest ≠ []) (hmetadata : ∀ record ∈ before, GoodMetadata settings archive record)
    (harchives : ∀ record ∈ rest, GoodArchive settings archive record) :
    ({} : Cell ρ).pairs settings (before ++ rest) ≠ [] := by
  obtain ⟨first, before, rfl⟩ := List.exists_cons_of_ne_nil hbefore
  obtain ⟨next, rest, rfl⟩ := List.exists_cons_of_ne_nil hrest
  obtain ⟨hfirst, hothers⟩ := List.forall_mem_cons.mp hmetadata
  obtain ⟨held, hwaits, -⟩ := react_goodMetadata hfirst
  obtain ⟨-, -, hjoin⟩ := react_goodArchive (harchives next List.mem_cons_self)
  obtain ⟨pair, hpair⟩ := hjoin held
  refine pairs_ne_nil_of_waits hwaits (fun record hrecord => ?_) hpair
  obtain ⟨-, -, hkeep, -⟩ := react_goodMetadata (hothers record hrecord)
  exact hkeep held

theorem pairs_ne_nil_archives_first {before rest : List (Record ρ)} (hbefore : before ≠ [])
    (hrest : rest ≠ []) (harchives : ∀ record ∈ before, GoodArchive settings archive record)
    (hmetadata : ∀ record ∈ rest, GoodMetadata settings archive record) :
    ({} : Cell ρ).pairs settings (before ++ rest) ≠ [] := by
  obtain ⟨first, before, rfl⟩ := List.exists_cons_of_ne_nil hbefore
  obtain ⟨next, rest, rfl⟩ := List.exists_cons_of_ne_nil hrest
  obtain ⟨hfirst, hothers⟩ := List.forall_mem_cons.mp harchives
  obtain ⟨hwaits, -⟩ := react_goodArchive hfirst
  obtain ⟨-, -, -, hjoin⟩ := react_goodMetadata (hmetadata next List.mem_cons_self)
  obtain ⟨pair, hpair⟩ := hjoin first
  refine pairs_ne_nil_of_waits hwaits (fun record hrecord => ?_) hpair
  obtain ⟨-, hkeep, -⟩ := react_goodArchive (hothers record hrecord)
  exact hkeep first

/-! ## Records in the order of their names -/

theorem exists_split {α : Type} {p : α → Prop} {l : List α} (h : l.Pairwise fun a b => p b → p a) :
    ∃ front back, l = front ++ back ∧ (∀ a ∈ front, p a) ∧ ∀ a ∈ back, ¬ p a := by
  induction l with
  | nil => exact ⟨[], [], rfl, nofun, nofun⟩
  | cons a l ih =>
    obtain ⟨ha, hl⟩ := List.pairwise_cons.mp h
    by_cases hp : p a
    · obtain ⟨front, back, rfl, hfront, hback⟩ := ih hl
      exact ⟨a :: front, back, rfl, List.forall_mem_cons.mpr ⟨hp, hfront⟩, hback⟩
    · refine ⟨[], a :: l, rfl, nofun, List.forall_mem_cons.mpr ⟨hp, fun b hb hpb => ?_⟩⟩
      exact hp (ha b hb hpb)

omit [ByteSource ρ] in
/-- Records of one archive in the order of their names: metadata and archives are apart. -/
theorem exists_blocks (hsorted : records.Pairwise fun a b => a.name ≤ b.name)
    (hown : ∀ record ∈ records, archiveOf record = archive) :
    ∃ front back, records = front ++ back ∧
      (((∀ record ∈ front, RecordClass.ofName record.name = .sidecar archive) ∧
          ∀ record ∈ back, RecordClass.ofName record.name ≠ .sidecar archive) ∨
        (∀ record ∈ front, RecordClass.ofName record.name ≠ .sidecar archive) ∧
          ∀ record ∈ back, RecordClass.ofName record.name = .sidecar archive) := by
  have hapart {a b : Record ρ} (ha : a ∈ records)
      (hother : RecordClass.ofName a.name ≠ .sidecar archive)
      (hclass : RecordClass.ofName b.name = .sidecar archive) :
      a.name = archive ∧ b.name = Sidecar.name archive ∧ a.name ≠ b.name :=
    ⟨((archiveOf_eq (hown a ha)).resolve_left hother).1,
      (RecordClass.ofName_eq_sidecar_iff.mp hclass).2, fun h => hother (h ▸ hclass)⟩
  rcases String.le_total (Sidecar.name archive) archive with hle | hle
  · have hfirst : records.Pairwise fun a b => RecordClass.ofName b.name = .sidecar archive →
        RecordClass.ofName a.name = .sidecar archive := by
      refine hsorted.imp_of_mem fun {a b} ha _ hab hclass => by_contra fun hother => ?_
      obtain ⟨hname, hside, hne⟩ := hapart ha hother hclass
      refine hne (String.le_antisymm hab ?_)
      rw [hname, hside]
      exact hle
    obtain ⟨front, back, hsplit, hfront, hback⟩ := exists_split hfirst
    exact ⟨front, back, hsplit, Or.inl ⟨hfront, hback⟩⟩
  · have hfirst : records.Pairwise fun a b => RecordClass.ofName b.name ≠ .sidecar archive →
        RecordClass.ofName a.name ≠ .sidecar archive := by
      refine hsorted.imp_of_mem fun {a b} _ hb hab hother hclass => ?_
      obtain ⟨hname, hside, hne⟩ := hapart hb hother hclass
      refine hne (String.le_antisymm ?_ hab)
      rw [hname, hside]
      exact hle
    obtain ⟨front, back, hsplit, hfront, hback⟩ := exists_split hfirst
    exact ⟨front, back, hsplit, Or.inr ⟨hfront, fun record h => not_not.mp (hback record h)⟩⟩

/-- **Records in the order of their names join at most one pair for each archive.** -/
theorem length_pairs_le_one (hsorted : records.Pairwise fun a b => a.name ≤ b.name)
    (hown : ∀ record ∈ records, archiveOf record = archive) :
    (({} : Cell ρ).pairs settings records).length ≤ 1 := by
  -- what a block lacks is there in no empty cell
  have harchive : ∀ cell : Cell ρ, cell.half = none → cell.LacksArchive :=
    fun cell h payload heq => by rw [h] at heq; cases heq
  have hmetadata : ∀ cell : Cell ρ, cell.half = none → cell.LacksMetadata :=
    fun cell h held heq => by rw [h] at heq; cases heq
  have hother {record : Record ρ} (hmem : record ∈ records)
      (h : RecordClass.ofName record.name ≠ .sidecar archive) :
      Steps settings Cell.LacksMetadata record := by
    refine steps_archive fun found hfound => h ?_
    rcases archiveOf_eq (hown record hmem) with hclass | ⟨-, hclass | hclass⟩
    · exact hclass
    · rw [hclass] at hfound; cases hfound
    · rw [hclass] at hfound; cases hfound
  obtain ⟨front, back, rfl, ⟨hfront, hback⟩ | ⟨hfront, hback⟩⟩ := exists_blocks hsorted hown
  · rw [Cell.pairs_append,
      (pairs_block (fun r h => steps_metadata (hfront r h)) (harchive {} rfl)).1, List.nil_append]
    exact length_pairs_block hmetadata
      (fun r h => hother (List.mem_append_right _ h) (hback r h)) _
  · rw [Cell.pairs_append, (pairs_block
      (fun r h => hother (List.mem_append_left _ h) (hfront r h)) (hmetadata {} rfl)).1,
      List.nil_append]
    exact length_pairs_block harchive (fun r h => steps_metadata (hback r h)) _

/-- **They do join one if both halves are there and good.** -/
theorem pairs_ne_nil (hsorted : records.Pairwise fun a b => a.name ≤ b.name)
    (hown : ∀ record ∈ records, archiveOf record = archive)
    (hgood : ∀ record ∈ records,
      GoodMetadata settings archive record ∨ GoodArchive settings archive record)
    (hmetadata : ∃ record ∈ records, GoodMetadata settings archive record)
    (harchive : ∃ record ∈ records, GoodArchive settings archive record) :
    ({} : Cell ρ).pairs settings records ≠ [] := by
  obtain ⟨sidecar, hsidecar, hside, -⟩ := hmetadata
  obtain ⟨payload, hpayload, hclass, -⟩ := harchive
  have hnot : RecordClass.ofName payload.name ≠ .sidecar archive := by
    rw [hclass]
    nofun
  have hmetadata {record : Record ρ} (hmem : record ∈ records)
      (h : RecordClass.ofName record.name = .sidecar archive) :
      GoodMetadata settings archive record := by
    refine (hgood record hmem).resolve_right fun hother => ?_
    rw [hother.1] at h
    cases h
  have harchive {record : Record ρ} (hmem : record ∈ records)
      (h : RecordClass.ofName record.name ≠ .sidecar archive) :
      GoodArchive settings archive record :=
    (hgood record hmem).resolve_left fun hother => h hother.1
  obtain ⟨front, back, rfl, ⟨hfront, hback⟩ | ⟨hfront, hback⟩⟩ := exists_blocks hsorted hown
  · have hmem := (List.mem_append.mp hsidecar).resolve_right fun h => hback _ h hside
    have hmem' := (List.mem_append.mp hpayload).resolve_left fun h => hnot (hfront _ h)
    exact pairs_ne_nil_metadata_first (List.ne_nil_of_mem hmem) (List.ne_nil_of_mem hmem')
      (fun r h => hmetadata (List.mem_append_left _ h) (hfront r h))
      (fun r h => harchive (List.mem_append_right _ h) (hback r h))
  · have hmem := (List.mem_append.mp hpayload).resolve_right fun h => hnot (hback _ h)
    have hmem' := (List.mem_append.mp hsidecar).resolve_left fun h => hfront _ h hside
    exact pairs_ne_nil_archives_first (List.ne_nil_of_mem hmem) (List.ne_nil_of_mem hmem')
      (fun r h => harchive (List.mem_append_left _ h) (hfront r h))
      (fun r h => hmetadata (List.mem_append_right _ h) (hback r h))

end GuestVault.Correlator
