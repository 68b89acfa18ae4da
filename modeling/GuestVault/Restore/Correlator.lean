import GuestVault.Archive.Name
import GuestVault.Archive.Sidecar
import GuestVault.Record
import GuestVault.Restore.PairJoin
import GuestVault.Restore.Staging

/-!
# Correlating archives and metadata

Records arrive in any order: archives, the metadata of archives, and others. An archive is restored
once both it and its metadata are there. Metadata that is no good condemns its archive too, and a
record of a guest that was not asked for is skipped along with its other half.
-/

namespace GuestVault

open GuestVault.Text

/-- What a record is, by its name. -/
inductive RecordClass where
  /-- The metadata of the archive of that name. -/
  | sidecar (archive : String)
  | payload
  | other
deriving Repr, DecidableEq

/-- Metadata is told by its name, and an archive by its name or by the extension in it. -/
def RecordClass.ofName (name : String) : RecordClass :=
  match Sidecar.archive? name with
  | some archive => .sidecar archive
  | none =>
    match ArchiveName.parse name with
    | .ok _ => .payload
    | .error _ =>
      let chars := name.toList.map Char.toLower
      if occursIn ".vma".toList chars || occursIn ".tar".toList chars then .payload else .other

/-- The halves that wait, and the archives that are settled without a restore. -/
structure Correlator (ρ : Type) where
  join : PairJoin (Record ρ) (String × Metadata) := {}
  /-- Archives whose metadata is no good. -/
  rejected : List (String × Error) := []
  /-- Archives of guests that were not asked for. -/
  skipped : List String := []
deriving Repr

namespace Correlator

variable {σ κ ρ : Type} [ByteSource ρ] (host : Host σ κ) (guest : Guest σ)
  (settings : RestoreSettings)

/-- The number of halves that wait. -/
def pending (c : Correlator ρ) : Nat :=
  c.join.size

/-- A guest was asked for, and it is another one. -/
def isOther (vmid : Int) : Bool :=
  match settings.vmid with
  | some want => vmid ≠ want
  | none => false

/-- Restores a pair; both records get the same outcome. -/
def complete (archive : String) (payload : Record ρ) (sidecar : String) (metadata : Metadata) :
    StateM σ (List Resolution) := do
  match ← (Staging.restore host guest settings archive payload.reader metadata).run with
  | .ok outcome => return [⟨payload.pathname, outcome⟩, ⟨sidecar, outcome⟩]
  | .error e =>
    host.note .warn ("[restore] " ++ archive ++ ": " ++ e.message)
    return [⟨payload.pathname, .failed e⟩, ⟨sidecar, .failed e⟩]

/-- Removes an archive that waits; it gets the given outcome. -/
def dismiss (c : Correlator ρ) (archive : String) (outcome : Outcome) :
    List Resolution × Correlator ρ :=
  match c.join.take archive with
  | (some (.left payload), join) => ([⟨payload.pathname, outcome⟩], { c with join })
  | (_, join) => ([], { c with join })

/-- Metadata that is no good fails, and so does its archive, be it here or still to come. -/
def reject (c : Correlator ρ) (archive pathname : String) (e : Error) :
    StateM σ (List Resolution × Correlator ρ) := do
  host.note .warn ("[restore] " ++ archive ++ ": rejected metadata: " ++ e.message)
  let (more, c) := c.dismiss archive (.failed e)
  return (⟨pathname, .failed e⟩ :: more, { c with rejected := (archive, e) :: c.rejected })

/-- The message about an archive of another guest. -/
def noteOther (archive : String) (vmid : Int) : StateM σ Unit :=
  host.note .debug
    ("[restore] " ++ archive ++ ": vmid " ++ toString vmid ++ " filtered out")

/-- Takes the metadata of an archive. -/
def feedSidecar (c : Correlator ρ) (archive : String) (record : Record ρ) :
    StateM σ (List Resolution × Correlator ρ) := do
  if archive ∈ c.skipped then return ([⟨record.pathname, .skipped⟩], c)
  match Metadata.decode record.reader with
  | .error e => c.reject host archive record.pathname e
  | .ok metadata =>
    let vmid : Int :=
      match ArchiveName.parse archive with
      | .ok (_, id) => id
      | .error _ => metadata.vmid
    if isOther settings vmid then
      noteOther host archive vmid
      let (more, c) := c.dismiss archive .skipped
      return (⟨record.pathname, .skipped⟩ :: more, { c with skipped := archive :: c.skipped })
    match metadata.validate archive with
    | .error e => c.reject host archive record.pathname e
    | .ok _ =>
      match c.join.offer archive (.right (record.pathname, metadata)) with
      | (.waiting, join) => return ([], { c with join })
      | (.complete payload (sidecar, metadata), join) =>
        return (← complete host guest settings archive payload sidecar metadata, { c with join })
      | (.duplicate _, join) =>
        return ([⟨record.pathname,
          .failed (.validation ("duplicate metadata for archive " ++ archive))⟩], { c with join })

/-- Takes an archive whose name, if it is a proper one, carries the given id. -/
def feedNamed (c : Correlator ρ) (archive : String) (id : Option Nat) (record : Record ρ) :
    StateM σ (List Resolution × Correlator ρ) := do
  match c.rejected.lookup archive with
  | some e => return ([⟨record.pathname, .failed e⟩], c)
  | none =>
    if archive ∈ c.skipped then return ([⟨record.pathname, .skipped⟩], c)
    match id.filter (fun id => isOther settings id) with
    | some id =>
      noteOther host archive id
      return ([⟨record.pathname, .skipped⟩], { c with skipped := archive :: c.skipped })
    | none =>
      match c.join.offer archive (.left record) with
      | (.waiting, join) => return ([], { c with join })
      | (.complete payload (sidecar, metadata), join) =>
        return (← complete host guest settings archive payload sidecar metadata, { c with join })
      | (.duplicate _, join) =>
        return ([⟨record.pathname,
          .failed (.validation ("duplicate archive " ++ archive))⟩], { c with join })

/-- Takes an archive. A name that claims to be one of the dump tool's must be a proper one. -/
def feedPayload (c : Correlator ρ) (archive : String) (record : Record ρ) :
    StateM σ (List Resolution × Correlator ρ) :=
  match ArchiveName.parse archive with
  | .ok (_, id) => c.feedNamed host guest settings archive (some id) record
  | .error e =>
    if "vzdump-".toList.isPrefixOf archive.toList then
      pure ([⟨record.pathname, .failed e⟩], c)
    else c.feedNamed host guest settings archive none record

/-- Takes one record; gives all records that are settled by it. -/
def feed (c : Correlator ρ) (record : Record ρ) : StateM σ (List Resolution × Correlator ρ) :=
  match RecordClass.ofName record.name with
  | .sidecar archive => c.feedSidecar host guest settings archive record
  | .payload => c.feedPayload host guest settings record.name record
  | .other => pure ([⟨record.pathname, .ignored⟩], c)

/-- The resolution of a half that found no partner. -/
def orphan : String × Side (Record ρ) (String × Metadata) → Resolution
  | (archive, .left payload) => ⟨payload.pathname, .failed (.missingMetadata archive)⟩
  | (archive, .right (sidecar, _)) => ⟨sidecar, .failed (.missingArchive archive)⟩

/-- The message about a half that found no partner. -/
def orphanReport : String × Side (Record ρ) (String × Metadata) → LogEntry
  | (archive, .left _) =>
    { level := .warn, message := "[restore] " ++ archive ++ ": no metadata received" }
  | (archive, .right _) =>
    { level := .warn, message := "[restore] " ++ archive ++ ": metadata without archive" }

/-- Ends the job: every half without a partner fails. -/
def finish (c : Correlator ρ) : List Resolution :=
  c.join.orphans.map orphan

end Correlator

end GuestVault
