import GuestVault.Archive.Name
import GuestVault.Json.Reader
import GuestVault.Json.Writer
import GuestVault.Settings
import GuestVault.Stream.Reader
import GuestVault.Time.Rfc3339

/-!
# Archive metadata

The record that describes an archive from beside it. Texts that are empty, a size of zero and an
unknown time are left out when a record is written and come back as such when it is read. Whether
the record fits an archive is decided later, by `Metadata.validate`, so that a record with a
nonsensical id can still be read and rejected.
-/

namespace GuestVault

open GuestVault.Text GuestVault.Time

/-- The description of one archive. -/
structure Metadata where
  format : String := ""
  version : Nat := 0
  /-- The id as written, which may be negative or too large for a guest. -/
  vmid : Int := 0
  vmType : String := ""
  node : String := ""
  backupMode : String := ""
  backupCompression : String := ""
  archiveName : String := ""
  archiveSize : Nat := 0
  createdAt : Option Moment := none
  /-- The host that the archive was made on. -/
  origin : String := ""
deriving Repr, DecidableEq

namespace Metadata

/-- The format tag of a record. -/
def formatTag : String := "proxmox-backup-meta"

/-- The only version of the format. -/
def formatVersion : Nat := 1

/-- The record of a fresh archive. The kind of guest is taken from the archive's own name. -/
def ofArchive (archive : String) (vmid : Nat) (backup : BackupSettings) (origin : String)
    (size : Nat) (createdAt : Moment) : Metadata :=
  { format := formatTag
    version := formatVersion
    vmid
    vmType :=
      match ArchiveName.parse archive with
      | .ok (kind, _) => kind.name
      | .error _ => ""
    node := backup.node.getD ""
    backupMode := backup.mode.name
    backupCompression := backup.compress.name
    archiveName := archive
    archiveSize := size
    createdAt := some createdAt
    origin }

/-! ## Writing -/

/-- A text member, left out when empty. -/
def textMember (key value : String) : List (String × Json) :=
  if value = "" then [] else [(key, .ofText value)]

/-- The member for the time of creation, left out when unknown. -/
def createdMember : Option Moment → Except Rfc3339Fault (List (String × Json))
  | none => .ok []
  | some m => m.toRfc3339.map fun text => [("created_at", .ofText text)]

/-- The record as a JSON object. -/
def toJson (m : Metadata) : Except Rfc3339Fault Json := do
  let created ← createdMember m.createdAt
  return .ofMembers <|
    [("format", .ofText m.format), ("version", .ofInt m.version), ("vmid", .ofInt m.vmid)] ++
    textMember "vm_type" m.vmType ++ textMember "node" m.node ++
    textMember "backup_mode" m.backupMode ++
    textMember "backup_compression" m.backupCompression ++
    [("archive_name", .ofText m.archiveName)] ++
    (if m.archiveSize = 0 then [] else [("archive_size", .ofInt m.archiveSize)]) ++
    created ++ textMember "origin" m.origin

/-- The text of a record. -/
def encode (m : Metadata) : Except Error String :=
  match m.toJson with
  | .ok json => .ok json.render
  | .error fault => .error (.parse ("encode metadata: " ++ fault.message))

/-! ## Reading -/

/-- The names of the members. -/
def memberNames : List String :=
  ["format", "version", "vmid", "vm_type", "node", "backup_mode", "backup_compression",
    "archive_name", "archive_size", "created_at", "origin"]

/-- The moment that a string names. -/
def moment? (j : Json) : Option Moment := j.text?.bind Moment.ofRfc3339?

/-- The record that a JSON value describes, whatever its format and version. -/
def ofJson? (j : Json) : Option Metadata :=
  match j.record? memberNames with
  | some [format, version, vmid, vmType, node, backupMode, backupCompression, archiveName,
      archiveSize, createdAt, origin] => do
    some {
      format := ← Json.fieldOr "" Json.text? format
      version := ← Json.fieldOr 0 (Json.nat? maxWord64) version
      vmid := ← Json.fieldOr 0 Json.int64? vmid
      vmType := ← Json.fieldOr "" Json.text? vmType
      node := ← Json.fieldOr "" Json.text? node
      backupMode := ← Json.fieldOr "" Json.text? backupMode
      backupCompression := ← Json.fieldOr "" Json.text? backupCompression
      archiveName := ← Json.fieldOr "" Json.text? archiveName
      archiveSize := ← Json.fieldOr 0 (Json.nat? maxWord64) archiveSize
      createdAt := ← Json.fieldOr none (Json.optional? moment?) createdAt
      origin := ← Json.fieldOr "" Json.text? origin }
  | _ => none

/-- Absent tags are tolerated, wrong ones are not; the format counts before the version. -/
def checkTags (m : Metadata) : Except Error Metadata :=
  if m.format ≠ "" ∧ m.format ≠ formatTag then
    .error (.parse ("unsupported metadata format: " ++ m.format))
  else if m.version ≠ 0 ∧ m.version ≠ formatVersion then
    .error (.unsupportedVersion .metadata m.version)
  else .ok m

/-- The record in some bytes. -/
def ofBytes (bytes : Bytes) : Except Error Metadata :=
  match (Json.parse? bytes).bind ofJson? with
  | some m => m.checkTags
  | none => .error (.parse "decode metadata: invalid record")

/-- The record that a reader delivers. -/
def decode {ρ : Type} [ByteSource ρ] (reader : ρ) : Except Error Metadata :=
  match readToEnd reader with
  | (.ok (), bytes, _) => ofBytes bytes
  | (.error e, _, _) => .error (.io "read metadata" e)

/-! ## Judging -/

/-- Kind and id of the guest that a record describes, if the record belongs to the archive. -/
def validate (m : Metadata) (archive : String) : Except Error (Kind × Nat) :=
  if m.archiveName ≠ "" ∧ m.archiveName ≠ archive then
    .error (.validation
      ("metadata archive name mismatch: " ++ m.archiveName ++ " != " ++ archive))
  else if m.vmid ≤ 0 ∨ (maxWord32 : Int) < m.vmid then
    .error (.validation ("invalid vmid in metadata: " ++ toString m.vmid))
  else
    match Kind.parse m.vmType with
    | .ok kind => .ok (kind, m.vmid.toNat)
    | .error e => .error e

/-- Two records say the same; times count as instants. -/
def agrees (a b : Metadata) : Bool :=
  let sameTime : Bool :=
    match a.createdAt, b.createdAt with
    | none, none => true
    | some x, some y => x.sameInstant y
    | _, _ => false
  sameTime && { a with createdAt := none } = { b with createdAt := none }

end Metadata

end GuestVault
