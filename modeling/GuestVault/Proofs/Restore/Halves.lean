import Mathlib.Data.List.Permutation
import GuestVault.Proofs.Archive.Staging
import GuestVault.Proofs.Host.Counting
import GuestVault.Proofs.Restore.Provenance
import GuestVault.Proofs.Restore.RecordClass

/-!
# Both halves of an archive

An archive is kept under a name of the dump tool's scheme, be it its own or the one that it is staged
under (`IsNameOf`), and its metadata under the sidecar name of that. Wherever the two files are, the
correlator takes the one for the archive of that name and the other for its metadata.

1. `IsNameOf.parse_eq`, `IsNameOf.ofName_eq`: names of archives are names of payloads.
2. `feed_payload`, `feed_sidecar`: a record is dealt with under the name of its archive, whatever
   directory it is in.
3. `restoreAll_pair`: two such records and nothing else make one pair, in either order.
4. `halves_recognised`: all of this, with the names that are taken for sidecars.
-/

namespace GuestVault

open GuestVault.Text

variable {kind : Kind} {vmid : Nat} {archive name path : String}

/-! ## Names of archives -/

/-- The names that the archive of a guest is kept under: its own, and the one that it is staged
under. -/
inductive IsNameOf (kind : Kind) (vmid : Nat) : String → Prop where
  | named (a : ArchiveName.Naming) (n : ArchiveName) (hname : a.name? = .ok n)
      (hkind : a.kind = kind) (hvmid : a.vmid = vmid) : IsNameOf kind vmid n.render
  | staged (original : String) (now : Time.Moment) :
      IsNameOf kind vmid (stagingName original kind vmid now)

namespace IsNameOf

theorem parse_eq (h : IsNameOf kind vmid archive) (hvmid : vmid ≤ maxWord32) :
    ArchiveName.parse archive = .ok (kind, vmid) := by
  cases h with
  | named a n hname hkind hid =>
    obtain ⟨m, hm, hmkind, hmvmid, hstamp, -⟩ := (ArchiveName.Naming.supported hname).exists_name
    obtain rfl := Except.ok.inj (hname.symm.trans hm)
    subst hkind hid
    rw [← hmkind, ← hmvmid]
    refine ArchiveName.parse_render (hstamp ▸ a.moment.nameChars_stamp) ?_
    rwa [hmvmid]
  | staged original now => exact parse_stagingName original kind hvmid now

theorem slash_notMem (h : IsNameOf kind vmid archive) : '/' ∉ archive.toList := by
  cases h with
  | named a n hname =>
    obtain ⟨m, hm, -, -, hstamp, -⟩ := (ArchiveName.Naming.supported hname).exists_name
    obtain rfl := Except.ok.inj (hname.symm.trans hm)
    exact (ArchiveName.nameChars_render (hstamp ▸ a.moment.nameChars_stamp)).slash_notMem
  | staged original now => exact slash_notMem_stagingName original kind vmid now

theorem exists_toList_eq (h : IsNameOf kind vmid archive) :
    ∃ rest, archive.toList = "vzdump".toList ++ rest := by
  cases h with
  | named a n => exact ⟨_, ArchiveName.toList_render n⟩
  | staged original now => exact ⟨_, toList_stagingName original kind vmid now⟩

theorem ne_empty (h : IsNameOf kind vmid archive) : archive ≠ "" := by
  rintro rfl
  obtain ⟨rest, hrest⟩ := h.exists_toList_eq
  exact absurd hrest (by simp)

/-- It is no sidecar, because these are hidden files. -/
theorem archive?_eq_none (h : IsNameOf kind vmid archive) : Sidecar.archive? archive = none := by
  rw [Option.eq_none_iff_forall_ne_some]
  intro other hother
  obtain ⟨rest, hrest⟩ := h.exists_toList_eq
  obtain ⟨-, rfl⟩ := Sidecar.archive?_eq_some_iff.mp hother
  unfold Sidecar.name at hrest
  simp only [String.toList_append, List.append_assoc] at hrest
  exact absurd (List.cons.inj hrest).1 (by decide)

/-- **The name of an archive is that of a payload.** -/
theorem ofName_eq (h : IsNameOf kind vmid archive) (hvmid : vmid ≤ maxWord32) :
    RecordClass.ofName archive = .payload :=
  RecordClass.ofName_eq_payload_iff.mpr ⟨h.archive?_eq_none, Or.inl ⟨_, h.parse_eq hvmid⟩⟩

theorem ofName_sidecar (h : IsNameOf kind vmid archive) :
    RecordClass.ofName (Sidecar.name archive) = .sidecar archive :=
  RecordClass.ofName_eq_sidecar_iff.mpr ⟨h.ne_empty, rfl⟩

end IsNameOf

/-! ## Records in directories -/

/-- A path of a file with the given name, in whatever directory. -/
inductive IsPathOf (name : String) : String → Prop where
  | bare : IsPathOf name name
  | inside (dir : String) : IsPathOf name (dir ++ "/" ++ name)

theorem IsPathOf.basename_eq (h : IsPathOf name path) (hslash : '/' ∉ name.toList) :
    basename path = name := by
  have hbase : basename name = name := by
    unfold basename
    rw [baseChars_of_notMem hslash, String.ofList_toList]
  cases h with
  | bare => exact hbase
  | inside dir =>
    have hchars : "/".toList = ['/'] := rfl
    rw [← hbase]
    unfold basename
    simp only [String.toList_append, hchars, List.append_assoc, List.singleton_append,
      baseChars_append_slash, String.toList_ofList]
    rw [baseChars_of_notMem (slash_notMem_baseChars _)]

theorem slash_notMem_sidecar (h : '/' ∉ archive.toList) : '/' ∉ (Sidecar.name archive).toList := by
  unfold Sidecar.name
  simp only [String.toList_append, List.mem_append, not_or]
  exact ⟨⟨by decide, h⟩, by decide⟩

namespace Correlator

attribute [local irreducible] ArchiveName.parse Metadata.decode Metadata.validate
  RecordClass.ofName

variable {σ κ ρ : Type} [ByteSource ρ] (host : Host σ κ) (guest : Guest σ)
  (settings : RestoreSettings) {record payload sidecar : Record ρ} {metadata : Metadata}

/-- The record is the file with this name, in whatever directory. -/
def IsFileOf (name : String) (record : Record ρ) : Prop :=
  IsPathOf name record.pathname

omit [ByteSource ρ] in
theorem name_payload (h : IsNameOf kind vmid archive) (hrecord : IsFileOf archive record) :
    record.name = archive :=
  IsPathOf.basename_eq hrecord h.slash_notMem

omit [ByteSource ρ] in
theorem name_sidecar (h : IsNameOf kind vmid archive)
    (hrecord : IsFileOf (Sidecar.name archive) record) : record.name = Sidecar.name archive :=
  IsPathOf.basename_eq hrecord (slash_notMem_sidecar h.slash_notMem)

theorem feed_payload (h : IsNameOf kind vmid archive) (hvmid : vmid ≤ maxWord32)
    (hrecord : IsFileOf archive record) (c : Correlator ρ) :
    c.feed host guest settings record =
      c.feedNamed host guest settings archive (some vmid) record := by
  unfold feed feedPayload
  rw [name_payload h hrecord, h.ofName_eq hvmid]
  dsimp only
  rw [h.parse_eq hvmid]

theorem feed_sidecar (h : IsNameOf kind vmid archive)
    (hrecord : IsFileOf (Sidecar.name archive) record) (c : Correlator ρ) :
    c.feed host guest settings record = c.feedSidecar host guest settings archive record := by
  unfold feed
  rw [name_sidecar h hrecord, h.ofName_sidecar]

/-! ## Pairs -/

omit [ByteSource ρ] in
theorem erase_insert_empty (key : String) (half : Side (Record ρ) (String × Metadata)) :
    ((PairJoin.insert {} key half).erase key).entries = [] := by
  simp [PairJoin.insert, PairJoin.insertEntry, PairJoin.erase]

/-- A record that waits and one that completes it are all that there is to do. -/
theorem restoreAll_of_replies {first second : Record ρ} {c c' : Correlator ρ} {path : String}
    (hfirst : ({} : Correlator ρ).react settings first = (.settle [] [], c))
    (hsecond : c.react settings second = (.restore ⟨archive, payload, path, metadata⟩, c'))
    (hend : c'.join.entries = []) :
    restoreAll host guest settings [first, second] =
      complete host guest settings archive payload path metadata := by
  have hfinish : c'.finish = [] := by
    unfold finish PairJoin.orphans
    rw [hend]
    rfl
  rw [restoreAll_eq]
  simp only [transcript, after, hfirst, hsecond, hfinish, List.map_cons, List.map_nil, enactAll,
    Reply.enact, Restore.sayAll]
  simp

theorem judgePayload_of_named (h : IsNameOf kind vmid archive) (hvmid : vmid ≤ maxWord32)
    (hasked : isOther settings vmid = false) : judgePayload settings archive = .good () :=
  judgePayload_eq_good_iff.mpr (Or.inl ⟨kind, vmid, h.parse_eq hvmid, hasked⟩)

theorem judgeSidecar_of_named (h : IsNameOf kind vmid archive) (hvmid : vmid ≤ maxWord32)
    (hasked : isOther settings vmid = false) {reader : ρ}
    (hdecode : Metadata.decode reader = .ok metadata) {described : Kind × Nat}
    (hvalid : metadata.validate archive = .ok described) :
    judgeSidecar settings archive reader = .good metadata := by
  refine judgeSidecar_eq_good_iff.mpr ⟨hdecode, ?_, described, hvalid⟩
  unfold filterId
  rw [h.parse_eq hvmid]
  exact hasked

/-- **The halves of an archive find each other**, in whatever directories they are and whichever comes
first. -/
theorem restoreAll_pair (h : IsNameOf kind vmid archive) (hvmid : vmid ≤ maxWord32)
    (hpayload : IsFileOf archive payload) (hsidecar : IsFileOf (Sidecar.name archive) sidecar)
    (hdecode : Metadata.decode sidecar.reader = .ok metadata) {described : Kind × Nat}
    (hvalid : metadata.validate archive = .ok described) (hasked : isOther settings vmid = false)
    {records : List (Record ρ)} (hrecords : records.Perm [payload, sidecar]) :
    restoreAll host guest settings records =
      complete host guest settings archive payload sidecar.pathname metadata := by
  have hreactPayload (c : Correlator ρ) :
      c.react settings payload = c.reactNamed archive none payload := by
    unfold react reactPayload
    rw [name_payload h hpayload, h.ofName_eq hvmid]
    dsimp only
    rw [judgePayload_of_named settings h hvmid hasked]
  have hjudge := judgeSidecar_of_named settings h hvmid hasked hdecode hvalid
  have hreactSidecar (c : Correlator ρ) :
      c.react settings sidecar = c.reactSidecar settings archive sidecar := by
    unfold react
    rw [name_sidecar h hsidecar, h.ofName_sidecar]
  rcases List.perm_pair.mp hrecords with rfl | rfl
  · have hwaits : ({} : Correlator ρ).react settings payload = (.settle [] [],
        { join := PairJoin.insert {} archive (.left payload) }) := by
      rw [hreactPayload]
      rfl
    have hpair : ({ join := PairJoin.insert {} archive (.left payload) } : Correlator ρ).react
        settings sidecar = (.restore ⟨archive, payload, sidecar.pathname, metadata⟩,
          { join := (PairJoin.insert {} archive (.left payload)).erase archive }) := by
      rw [hreactSidecar]
      unfold reactSidecar
      rw [if_neg List.not_mem_nil, hjudge]
      dsimp only
      rw [PairJoin.get?_insert, if_pos rfl]
    exact restoreAll_of_replies host guest settings hwaits hpair (erase_insert_empty _ _)
  · have hwaits : ({} : Correlator ρ).react settings sidecar = (.settle [] [],
        { join := PairJoin.insert {} archive (.right (sidecar.pathname, metadata)) }) := by
      rw [hreactSidecar]
      unfold reactSidecar
      rw [if_neg List.not_mem_nil, hjudge]
      rfl
    have hpair : ({ join := PairJoin.insert {} archive (.right (sidecar.pathname, metadata)) } :
        Correlator ρ).react settings payload =
          (.restore ⟨archive, payload, sidecar.pathname, metadata⟩,
            { join :=
                (PairJoin.insert {} archive (.right (sidecar.pathname, metadata))).erase archive }) := by
      rw [hreactPayload]
      unfold reactNamed
      rw [PairJoin.get?_insert, if_pos rfl]
      rfl
    exact restoreAll_of_replies host guest settings hwaits hpair (erase_insert_empty _ _)

variable (ρ) in
/-- The records with the archive of this name and those with its metadata are taken for what they are,
and one of each is a pair. -/
structure Recognises (kind : Kind) (vmid : Nat) (archive : String) : Prop where
  named : ArchiveName.parse archive = .ok (kind, vmid)
  payload (record : Record ρ) (hfile : IsFileOf archive record) :
    RecordClass.ofName record.name = .payload ∧ ∀ c : Correlator ρ,
      c.feed host guest settings record = c.feedNamed host guest settings archive (some vmid) record
  sidecar (record : Record ρ) (hfile : IsFileOf (Sidecar.name archive) record) :
    RecordClass.ofName record.name = .sidecar archive ∧ ∀ c : Correlator ρ,
      c.feed host guest settings record = c.feedSidecar host guest settings archive record
  pair (payload sidecar : Record ρ) (hpayload : IsFileOf archive payload)
    (hsidecar : IsFileOf (Sidecar.name archive) sidecar) (metadata : Metadata)
    (hdecode : Metadata.decode sidecar.reader = .ok metadata) (described : Kind × Nat)
    (hvalid : metadata.validate archive = .ok described) (hasked : isOther settings vmid = false)
    (records : List (Record ρ)) (hrecords : records.Perm [payload, sidecar]) :
    restoreAll host guest settings records =
      complete host guest settings archive payload sidecar.pathname metadata

variable (ρ) in
/-- **Both halves of an archive are recognised.** The names of sidecars are those that are made from a
name that is not empty, and say which. Every name of an archive is that of a payload and no sidecar,
its sidecar is that of this archive and no payload, and the two are restored together. -/
theorem halves_recognised :
    (∀ name archive, Sidecar.archive? name = some archive ↔
      archive ≠ "" ∧ name = Sidecar.name archive) ∧
    ∀ kind vmid archive, vmid ≤ maxWord32 → IsNameOf kind vmid archive →
      Recognises ρ host guest settings kind vmid archive := by
  refine ⟨fun name archive => Sidecar.archive?_eq_some_iff, ?_⟩
  intro kind vmid archive hvmid h
  constructor
  · exact h.parse_eq hvmid
  · intro record hfile
    rw [name_payload h hfile]
    exact ⟨h.ofName_eq hvmid, feed_payload host guest settings h hvmid hfile⟩
  · intro record hfile
    rw [name_sidecar h hfile]
    exact ⟨h.ofName_sidecar, feed_sidecar host guest settings h hfile⟩
  · intro payload sidecar hpayload hsidecar metadata hdecode described hvalid hasked records hrecords
    exact restoreAll_pair host guest settings h hvmid hpayload hsidecar hdecode hvalid hasked hrecords

/-- The archive that guest 7 was staged under, by another name of its own. -/
def stagedOf7 : String :=
  stagingName "/in/größe.VMA.ZST" .qemu 7 { unix := 0, nanos := 0, offset := 0 }

/-- The record with this archive. -/
def archiveOf7 : Record Script :=
  .ofText ("dump//" ++ stagedOf7) "payload"

/-- The record with its metadata, in another directory. -/
def metadataOf7 : Record Script :=
  .ofText ("/meta/" ++ Sidecar.name stagedOf7) "\x7b\"vmid\":7,\"vm_type\":\"qemu\"\x7d"

theorem halves_recognised_of_7 :
    IsNameOf .qemu 7 stagedOf7 ∧ archiveOf7.name = "vzdump-qemu-7-1970_01_01-00_00_00.VMA.ZST" ∧
      RecordClass.ofName metadataOf7.name = .sidecar stagedOf7 ∧
      restoreAll Host.counting Guest.willing {} [metadataOf7, archiveOf7] =
        complete Host.counting Guest.willing {} stagedOf7 archiveOf7 metadataOf7.pathname
          { vmid := 7, vmType := "qemu" } := by
  have hnamed : IsNameOf .qemu 7 stagedOf7 := .staged _ _
  have h := (halves_recognised Script Host.counting Guest.willing {}).2 .qemu 7 stagedOf7 (by decide)
    hnamed
  have hpayload : IsFileOf stagedOf7 archiveOf7 := .inside "dump/"
  have hsidecar : IsFileOf (Sidecar.name stagedOf7) metadataOf7 := .inside "/meta"
  refine ⟨hnamed, by decide +kernel, (h.sidecar metadataOf7 hsidecar).1, ?_⟩
  exact h.pair archiveOf7 metadataOf7 hpayload hsidecar _ (by decide +kernel) (.qemu, 7)
    (by decide +kernel) rfl _ (List.Perm.swap _ _ _)

end Correlator

end GuestVault
