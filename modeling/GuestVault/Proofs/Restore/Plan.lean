import GuestVault.Proofs.Restore.PairJoin
import GuestVault.Restore.Job

/-!
# What a correlator decides

A correlator decides what becomes of a record from the record and its own state alone; the host and
the guests only come in when the decision is carried out. `Correlator.react` is that decision, and
`feed_eq` says that feeding a record is to carry it out.

1. A half is judged by itself first (`judgeSidecar`, `judgePayload`): it is no good, it belongs to
   another guest than the one asked for, or it is good.
2. The reply to a record either settles records at once or restores one pair (`Reply`).
3. A run from a fresh correlator is the replies to its records, carried out in order, and the
   orphans at the end (`restoreAll_eq`).
-/

namespace GuestVault.Correlator

open GuestVault.Text

-- names and metadata are judged as wholes here
attribute [local irreducible] ArchiveName.parse Metadata.decode Metadata.validate
  RecordClass.ofName

/-! ## Judgements -/

/-- What is thought of a half by itself. -/
inductive Verdict (α : Type) where
  | bad (error : Error)
  /-- It belongs to another guest than the one asked for. -/
  | foreign (vmid : Int)
  | good (value : α)

/-- The id that metadata is filtered by: the archive's name decides if it carries one. -/
def filterId (archive : String) (metadata : Metadata) : Int :=
  match ArchiveName.parse archive with
  | .ok (_, id) => id
  | .error _ => metadata.vmid

variable {σ κ ρ : Type} [ByteSource ρ]

/-- The verdict on the metadata of an archive. -/
def judgeSidecar (settings : RestoreSettings) (archive : String) (reader : ρ) :
    Verdict Metadata :=
  match Metadata.decode reader with
  | .error e => .bad e
  | .ok metadata =>
    if isOther settings (filterId archive metadata) then .foreign (filterId archive metadata)
    else
      match metadata.validate archive with
      | .error e => .bad e
      | .ok _ => .good metadata

/-- The verdict on an archive; only its name counts. -/
def judgePayload (settings : RestoreSettings) (archive : String) : Verdict Unit :=
  match ArchiveName.parse archive with
  | .ok (_, id) => if isOther settings id then .foreign id else .good ()
  | .error e => if "vzdump-".toList.isPrefixOf archive.toList then .bad e else .good ()

/-! ## Replies -/

/-- An archive and metadata that came together. -/
structure Pair (ρ : Type) where
  archive : String
  payload : Record ρ
  /-- The path of the metadata. -/
  sidecar : String
  metadata : Metadata

/-- What is done about a record. -/
inductive Reply (ρ : Type) where
  /-- Some messages are left, and some records are settled. -/
  | settle (notes : List LogEntry) (resolved : List Resolution)
  /-- A pair is staged and restored. -/
  | restore (pair : Pair ρ)

/-- The pair that a reply restores. -/
def Reply.pair? : Reply ρ → Option (Pair ρ)
  | .settle _ _ => none
  | .restore pair => some pair

/-- The message about metadata that is no good. -/
def rejection (archive : String) (e : Error) : LogEntry :=
  { level := .warn, message := "[restore] " ++ archive ++ ": rejected metadata: " ++ e.message }

/-- The message about a half of another guest. -/
def filteredOut (archive : String) (vmid : Int) : LogEntry :=
  { level := .debug
    message := "[restore] " ++ archive ++ ": vmid " ++ toString vmid ++ " filtered out" }

/-- The refusal of a second half of one kind. -/
def duplicate (what archive : String) : Outcome :=
  .failed (.validation ("duplicate " ++ what ++ archive))

variable (host : Host σ κ) (guest : Guest σ) (settings : RestoreSettings)

/-- The reaction to the metadata of an archive. -/
def reactSidecar (c : Correlator ρ) (archive : String) (record : Record ρ) :
    Reply ρ × Correlator ρ :=
  if archive ∈ c.skipped then (.settle [] [⟨record.pathname, .skipped⟩], c)
  else
    match judgeSidecar settings archive record.reader with
    | .bad e =>
      (.settle [rejection archive e]
          (⟨record.pathname, .failed e⟩ :: (c.dismiss archive (.failed e)).1),
        { c with join := c.join.erase archive, rejected := (archive, e) :: c.rejected })
    | .foreign vmid =>
      (.settle [filteredOut archive vmid]
          (⟨record.pathname, .skipped⟩ :: (c.dismiss archive .skipped).1),
        { c with join := c.join.erase archive, skipped := archive :: c.skipped })
    | .good metadata =>
      match c.join.get? archive with
      | none =>
        (.settle [] [],
          { c with join := c.join.insert archive (.right (record.pathname, metadata)) })
      | some (.left payload) =>
        (.restore ⟨archive, payload, record.pathname, metadata⟩,
          { c with join := c.join.erase archive })
      | some (.right _) =>
        (.settle [] [⟨record.pathname, duplicate "metadata for archive " archive⟩], c)

/-- The reaction to an archive whose name is not a malformed one. If it belongs to another guest,
that guest's id is given. -/
def reactNamed (c : Correlator ρ) (archive : String) (foreign : Option Int) (record : Record ρ) :
    Reply ρ × Correlator ρ :=
  match c.rejected.lookup archive with
  | some e => (.settle [] [⟨record.pathname, .failed e⟩], c)
  | none =>
    if archive ∈ c.skipped then (.settle [] [⟨record.pathname, .skipped⟩], c)
    else
      match foreign with
      | some vmid =>
        (.settle [filteredOut archive vmid] [⟨record.pathname, .skipped⟩],
          { c with skipped := archive :: c.skipped })
      | none =>
        match c.join.get? archive with
        | none => (.settle [] [], { c with join := c.join.insert archive (.left record) })
        | some (.right (sidecar, metadata)) =>
          (.restore ⟨archive, record, sidecar, metadata⟩,
            { c with join := c.join.erase archive })
        | some (.left _) => (.settle [] [⟨record.pathname, duplicate "archive " archive⟩], c)

/-- The reaction to an archive. -/
def reactPayload (c : Correlator ρ) (archive : String) (record : Record ρ) :
    Reply ρ × Correlator ρ :=
  match judgePayload settings archive with
  | .bad e => (.settle [] [⟨record.pathname, .failed e⟩], c)
  | .foreign vmid => c.reactNamed archive (some vmid) record
  | .good () => c.reactNamed archive none record

/-- The reaction to a record: the reply, and the correlator after it. -/
def react (c : Correlator ρ) (record : Record ρ) : Reply ρ × Correlator ρ :=
  match RecordClass.ofName record.name with
  | .sidecar archive => c.reactSidecar settings archive record
  | .payload => c.reactPayload settings record.name record
  | .other => (.settle [] [⟨record.pathname, .ignored⟩], c)

/-! ## Carrying replies out -/

/-- The outcome that the result of a restore makes for both records. -/
def outcomeOf : Except Error Outcome → Outcome
  | .ok outcome => outcome
  | .error e => .failed e

/-- What a reply resolves, if every pair has the given outcome. -/
def Reply.resolutions (outcome : Pair ρ → Outcome) : Reply ρ → List Resolution
  | .settle _ resolved => resolved
  | .restore pair =>
    [⟨pair.payload.pathname, outcome pair⟩, ⟨pair.sidecar, outcome pair⟩]

/-- Carries a reply out. -/
def Reply.enact : Reply ρ → StateM σ (List Resolution)
  | .settle notes resolved => do
    Restore.sayAll host notes
    return resolved
  | .restore pair =>
    complete host guest settings pair.archive pair.payload pair.sidecar pair.metadata

theorem enact_fst (reply : Reply ρ) (s : σ) :
    (reply.enact host guest settings s).1 = reply.resolutions fun pair =>
      outcomeOf (Staging.restore host guest settings pair.archive pair.payload.reader
        pair.metadata s).1 := by
  cases reply with
  | settle notes resolved => rfl
  | restore pair =>
    unfold Reply.enact complete Reply.resolutions
    simp only [bind, StateT.bind, ExceptT.run]
    cases Staging.restore host guest settings pair.archive pair.payload.reader pair.metadata s with
    | mk result s' => cases result <;> rfl

omit [ByteSource ρ] in
theorem dismiss_eq (c : Correlator ρ) (archive : String) (outcome : Outcome) :
    c.dismiss archive outcome =
      ((c.dismiss archive outcome).1, { c with join := c.join.erase archive }) := by
  unfold dismiss PairJoin.take
  rcases c.join.get? archive with _ | (_ | _) <;> rfl

omit [ByteSource ρ] in
theorem reject_eq (c : Correlator ρ) (archive pathname : String) (e : Error) :
    c.reject host archive pathname e = do
      Restore.sayAll host [rejection archive e]
      return (⟨pathname, .failed e⟩ :: (c.dismiss archive (.failed e)).1,
        { c with join := c.join.erase archive, rejected := (archive, e) :: c.rejected }) := by
  unfold reject
  rw [dismiss_eq]
  rfl

theorem feedSidecar_eq (c : Correlator ρ) (archive : String) (record : Record ρ) :
    c.feedSidecar host guest settings archive record = do
      let resolved ← (c.reactSidecar settings archive record).1.enact host guest settings
      return (resolved, (c.reactSidecar settings archive record).2) := by
  unfold feedSidecar reactSidecar judgeSidecar
  by_cases hskip : archive ∈ c.skipped
  · rw [if_pos hskip, if_pos hskip]; rfl
  rw [if_neg hskip, if_neg hskip]
  cases Metadata.decode record.reader with
  | error e => exact reject_eq host c archive record.pathname e
  | ok metadata =>
    show (if isOther settings (filterId archive metadata) = true then _ else _) = _
    by_cases hother : isOther settings (filterId archive metadata) = true
    · simp only [if_pos hother]
      rw [dismiss_eq]
      rfl
    simp only [if_neg hother]
    cases metadata.validate archive with
    | error e => exact reject_eq host c archive record.pathname e
    | ok guestOf =>
      dsimp only
      unfold PairJoin.offer
      rcases c.join.get? archive with _ | (_ | _) <;> rfl

theorem feedNamed_eq (c : Correlator ρ) (archive : String) (id : Option Nat) (record : Record ρ)
    (foreign : Option Int) (h : foreign = (id : Option Int).filter (fun id => isOther settings id)) :
    c.feedNamed host guest settings archive id record = do
      let resolved ← (c.reactNamed archive foreign record).1.enact host guest settings
      return (resolved, (c.reactNamed archive foreign record).2) := by
  unfold feedNamed reactNamed
  rw [← h]
  cases c.rejected.lookup archive with
  | some e => rfl
  | none =>
    by_cases hskip : archive ∈ c.skipped
    · simp only [if_pos hskip]; rfl
    simp only [if_neg hskip]
    cases foreign with
    | some vmid => rfl
    | none =>
      dsimp only
      unfold PairJoin.offer
      rcases c.join.get? archive with _ | (_ | _) <;> rfl

theorem feedPayload_eq (c : Correlator ρ) (archive : String) (record : Record ρ) :
    c.feedPayload host guest settings archive record = do
      let resolved ← (c.reactPayload settings archive record).1.enact host guest settings
      return (resolved, (c.reactPayload settings archive record).2) := by
  unfold feedPayload reactPayload judgePayload
  rcases ArchiveName.parse archive with e | ⟨kind, id⟩
  · dsimp only
    by_cases hfront : "vzdump-".toList.isPrefixOf archive.toList = true
    · rw [if_pos hfront, if_pos hfront]; rfl
    · rw [if_neg hfront, if_neg hfront]
      exact feedNamed_eq host guest settings c archive none record none rfl
  · dsimp only
    by_cases hother : isOther settings id = true
    · rw [if_pos hother]
      exact feedNamed_eq host guest settings c archive (some id) record (some id)
        (Option.filter_some_pos hother).symm
    · rw [if_neg hother]
      exact feedNamed_eq host guest settings c archive (some id) record none
        (Option.filter_some_neg (Bool.not_eq_true _ ▸ hother)).symm

/-- **Feeding a record is to carry out the reaction to it.** -/
theorem feed_eq (c : Correlator ρ) (record : Record ρ) :
    c.feed host guest settings record = do
      let resolved ← (c.react settings record).1.enact host guest settings
      return (resolved, (c.react settings record).2) := by
  unfold feed react
  cases RecordClass.ofName record.name with
  | sidecar archive => exact feedSidecar_eq host guest settings c archive record
  | payload => exact feedPayload_eq host guest settings c record.name record
  | other => rfl

/-! ## Runs -/

/-- The records and the replies to them. -/
def transcript (c : Correlator ρ) : List (Record ρ) → List (Record ρ × Reply ρ)
  | [] => []
  | record :: rest =>
    (record, (c.react settings record).1) :: transcript (c.react settings record).2 rest

/-- The correlator after some records. -/
def after (c : Correlator ρ) : List (Record ρ) → Correlator ρ
  | [] => c
  | record :: rest => after (c.react settings record).2 rest

/-- The pairs that are restored in a run, in order. -/
def pairs (c : Correlator ρ) (records : List (Record ρ)) : List (Pair ρ) :=
  (c.transcript settings records).filterMap (·.2.pair?)

/-- Carries several replies out, in order. -/
def enactAll : List (Reply ρ) → StateM σ (List Resolution)
  | [] => pure []
  | reply :: rest => do
    let resolved ← reply.enact host guest settings
    let more ← enactAll rest
    return resolved ++ more

/-- Feeds records, in order. -/
def feedAll : List (Record ρ) → Correlator ρ → StateM σ (List Resolution × Correlator ρ)
  | [], c => pure ([], c)
  | record :: rest, c => do
    let (resolved, c) ← c.feed host guest settings record
    let (more, c) ← feedAll rest c
    return (resolved ++ more, c)

/-- Feeds records to a fresh correlator and ends the job; gives all resolutions. -/
def restoreAll (records : List (Record ρ)) : StateM σ (List Resolution) := do
  let (resolved, c) ← feedAll host guest settings records {}
  return resolved ++ c.finish

theorem feedAll_eq (c : Correlator ρ) (records : List (Record ρ)) :
    feedAll host guest settings records c = do
      let resolved ← enactAll host guest settings ((c.transcript settings records).map (·.2))
      return (resolved, c.after settings records) := by
  induction records generalizing c with
  | nil => rfl
  | cons record rest ih =>
    rw [feedAll, feed_eq, transcript, after, List.map_cons, enactAll]
    generalize c.react settings record = reaction
    simp only [bind_assoc, pure_bind, ih]

/-- **A run is the replies to its records, carried out, and the orphans at the end.** -/
theorem restoreAll_eq (records : List (Record ρ)) :
    restoreAll host guest settings records = do
      let resolved ← enactAll host guest settings
        ((({} : Correlator ρ).transcript settings records).map (·.2))
      return resolved ++ (({} : Correlator ρ).after settings records).finish := by
  unfold restoreAll
  rw [feedAll_eq]
  rfl

/-! ## What a reaction can be -/

/-- The half that a record is, if it is a good one. -/
def IsHalf (record : Record ρ) (archive : String) : Side (Record ρ) (String × Metadata) → Prop
  | .left payload =>
    payload = record ∧ RecordClass.ofName record.name = .payload ∧ record.name = archive ∧
      judgePayload settings archive = .good ()
  | .right (sidecar, metadata) =>
    sidecar = record.pathname ∧ RecordClass.ofName record.name = .sidecar archive ∧
      judgeSidecar settings archive record.reader = .good metadata

/-- The record is metadata that is turned away: it cannot be read, is no good, or belongs to
another guest than the one asked for. -/
def TurnsAway (c : Correlator ρ) (record : Record ρ) (archive : String) : Prop :=
  RecordClass.ofName record.name = .sidecar archive ∧ archive ∉ c.skipped ∧
    ∀ metadata, judgeSidecar settings archive record.reader ≠ .good metadata

/-- The kinds of reactions, by the reply and what waits afterwards. -/
inductive Reacts (c : Correlator ρ) (record : Record ρ) :
    Reply ρ → PairJoin (Record ρ) (String × Metadata) → Prop where
  /-- The record alone is settled. -/
  | settles (notes : List LogEntry) (outcome : Outcome)
      (h : ∀ archive, ¬ c.TurnsAway settings record archive) :
      Reacts c record (.settle notes [⟨record.pathname, outcome⟩]) c.join
  /-- The record is settled, and what waits for it is dismissed. -/
  | turnsAway (archive : String) (notes : List LogEntry) (outcome : Outcome)
      (h : c.TurnsAway settings record archive) :
      Reacts c record
        (.settle notes (⟨record.pathname, outcome⟩ :: (c.dismiss archive outcome).1))
        (c.join.erase archive)
  /-- The record waits. -/
  | waits (archive : String) (half : Side (Record ρ) (String × Metadata))
      (hhalf : IsHalf settings record archive half) (hget : c.join.get? archive = none) :
      Reacts c record (.settle [] []) (c.join.insert archive half)
  /-- The record is the metadata of an archive that waits. -/
  | joinsPayload (pair : Pair ρ)
      (hhalf : IsHalf settings record pair.archive (.right (pair.sidecar, pair.metadata)))
      (hget : c.join.get? pair.archive = some (.left pair.payload)) :
      Reacts c record (.restore pair) (c.join.erase pair.archive)
  /-- The record is an archive whose metadata waits. -/
  | joinsSidecar (pair : Pair ρ)
      (hhalf : IsHalf settings record pair.archive (.left pair.payload))
      (hget : c.join.get? pair.archive = some (.right (pair.sidecar, pair.metadata))) :
      Reacts c record (.restore pair) (c.join.erase pair.archive)

variable {settings}

theorem not_turnsAway_of_ne {c : Correlator ρ} {record : Record ρ}
    (h : ∀ archive, RecordClass.ofName record.name ≠ .sidecar archive) (archive : String) :
    ¬ c.TurnsAway settings record archive :=
  fun hturn => h archive hturn.1

theorem reactSidecar_reacts (c : Correlator ρ) {archive : String} {record : Record ρ}
    (hclass : RecordClass.ofName record.name = .sidecar archive) :
    Reacts settings c record (c.reactSidecar settings archive record).1
      (c.reactSidecar settings archive record).2.join := by
  -- the record is the metadata of no other archive
  have hkeep (h : archive ∈ c.skipped ∨ ∃ m, judgeSidecar settings archive record.reader = .good m)
      (other : String) : ¬ c.TurnsAway settings record other := by
    rintro ⟨hother, hskip, hbad⟩
    rw [hclass, RecordClass.sidecar.injEq] at hother
    subst hother
    rcases h with h | ⟨m, h⟩
    · exact hskip h
    · exact hbad m h
  unfold reactSidecar
  by_cases hskip : archive ∈ c.skipped
  · rw [if_pos hskip]
    exact .settles [] .skipped (hkeep (Or.inl hskip))
  rw [if_neg hskip]
  cases hjudge : judgeSidecar settings archive record.reader with
  | bad e => exact .turnsAway archive _ _ ⟨hclass, hskip, fun m h => by rw [hjudge] at h; cases h⟩
  | foreign vmid =>
    exact .turnsAway archive _ _ ⟨hclass, hskip, fun m h => by rw [hjudge] at h; cases h⟩
  | good metadata =>
    dsimp only
    rcases hget : c.join.get? archive with _ | (payload | held)
    · exact .waits archive _ ⟨rfl, hclass, hjudge⟩ hget
    · exact .joinsPayload ⟨archive, payload, record.pathname, metadata⟩ ⟨rfl, hclass, hjudge⟩ hget
    · exact .settles [] _ (hkeep (Or.inr ⟨metadata, hjudge⟩))

theorem reactNamed_reacts (c : Correlator ρ) {record : Record ρ}
    (hclass : RecordClass.ofName record.name = .payload) (foreign : Option Int)
    (hjudge : foreign = none → judgePayload settings record.name = .good ()) :
    Reacts settings c record (c.reactNamed record.name foreign record).1
      (c.reactNamed record.name foreign record).2.join := by
  have hkeep : ∀ archive, ¬ c.TurnsAway settings record archive :=
    not_turnsAway_of_ne fun archive h => by rw [hclass] at h; cases h
  unfold reactNamed
  cases c.rejected.lookup record.name with
  | some e => exact .settles [] _ hkeep
  | none =>
    dsimp only
    by_cases hskip : record.name ∈ c.skipped
    · rw [if_pos hskip]
      exact .settles [] _ hkeep
    rw [if_neg hskip]
    cases foreign with
    | some vmid => exact .settles _ _ hkeep
    | none =>
      dsimp only
      have hhalf : IsHalf settings record record.name (.left record) :=
        ⟨rfl, hclass, rfl, hjudge rfl⟩
      rcases hget : c.join.get? record.name with _ | (held | ⟨sidecar, metadata⟩)
      · exact .waits record.name _ hhalf hget
      · exact .settles [] _ hkeep
      · exact .joinsSidecar ⟨record.name, record, sidecar, metadata⟩ hhalf hget

theorem reactPayload_reacts (c : Correlator ρ) {record : Record ρ}
    (hclass : RecordClass.ofName record.name = .payload) :
    Reacts settings c record (c.reactPayload settings record.name record).1
      (c.reactPayload settings record.name record).2.join := by
  unfold reactPayload
  cases hjudge : judgePayload settings record.name with
  | bad e =>
    exact .settles [] _ (not_turnsAway_of_ne fun archive h => by rw [hclass] at h; cases h)
  | foreign vmid => exact reactNamed_reacts c hclass (some vmid) nofun
  | good value => exact reactNamed_reacts c hclass none fun _ => hjudge

/-- Every reaction is of one of the kinds. -/
theorem react_reacts (settings : RestoreSettings) (c : Correlator ρ) (record : Record ρ) :
    Reacts settings c record (c.react settings record).1 (c.react settings record).2.join := by
  unfold react
  cases hclass : RecordClass.ofName record.name with
  | sidecar archive =>
    dsimp only
    exact reactSidecar_reacts c hclass
  | payload =>
    dsimp only
    exact reactPayload_reacts c hclass
  | other =>
    dsimp only
    exact .settles [] _ (not_turnsAway_of_ne fun archive h => by rw [hclass] at h; cases h)

end GuestVault.Correlator
