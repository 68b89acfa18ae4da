import GuestVault.Archive.Sidecar
import GuestVault.Proofs.Archive.Metadata
import GuestVault.Proofs.Archive.Name
import GuestVault.Proofs.Store.Contents

/-!
# What a backup leaves

A backup leaves two records for each machine, an archive and its metadata (`Deposited`). Their names
fit into any directory (`ArchiveName.Proper.storable`), and no name is left for two machines
(`ArchiveName.Belongs.vmid_eq`).
-/

namespace GuestVault

open GuestVault.Text

/-! ## Names -/

theorem DirectoryStore.nameOf_of_nameChars {name : String} (hchars : NameChars name.toList)
    (hlong : 2 < name.toList.length) : nameOf ("/" ++ name) = .ok name := by
  refine nameOf_slash hchars.slash_notMem ?_ ?_ ?_
  all_goals
    rintro rfl
    exact absurd hlong (by decide)

theorem DirectoryStore.nul_free_of_nameChars {name : String} (hchars : NameChars name.toList) :
    ¬ holdsNul name := by
  unfold holdsNul
  rw [List.contains_iff_mem]
  exact hchars.nul_notMem

theorem DirectoryStore.storable_of_nameChars {name : String} (hchars : NameChars name.toList)
    (hlong : 2 < name.toList.length) (hshort : name.toList.length ≤ 250) :
    DirectoryStore.Storable name where
  slash_notMem := hchars.slash_notMem
  ne_empty h := by rw [h] at hlong; exact absurd hlong (by decide)
  ne_dot h := by rw [h] at hlong; exact absurd hlong (by decide)
  ne_dots h := by rw [h] at hlong; exact absurd hlong (by decide)
  nul_free := nul_free_of_nameChars hchars
  length_le := by
    have hprefix : NameChars temporaryPrefix.toList := by decide
    have hall : NameChars (temporaryPrefix ++ name).toList := by
      rw [String.toList_append]
      exact hprefix.append hchars
    have hfront : temporaryPrefix.toList.length = 5 := rfl
    rw [length_utf8 fun c hc => hall.toNat_lt hc, String.toList_append, List.length_append, hfront]
    exact Nat.add_le_add_left hshort 5

namespace ArchiveName

/-- The name is one that a dump can have: its stamp is short and made of the usual characters, and its
id is that of a guest. -/
structure Proper (n : ArchiveName) : Prop where
  stamp_chars : NameChars n.stamp.toList
  stamp_length : n.stamp.toList.length ≤ 19
  vmid_le : n.vmid ≤ maxWord32

variable {n m : ArchiveName}

theorem Proper.parse (h : n.Proper) : parse n.render = .ok (n.kind, n.vmid) :=
  parse_render h.stamp_chars h.vmid_le

theorem render_length (n : ArchiveName) : 6 ≤ n.render.toList.length := by
  rw [toList_render, List.length_append]
  exact Nat.le_add_right _ _

theorem Proper.storable (h : n.Proper) : DirectoryStore.Storable n.render := by
  have hlength := render_length n
  have hshort := length_render_le h.stamp_length h.vmid_le
  exact DirectoryStore.storable_of_nameChars (nameChars_render h.stamp_chars) (by omega) (by omega)

theorem Proper.storable_sidecar (h : n.Proper) :
    DirectoryStore.Storable (Sidecar.name n.render) := by
  have hshort := length_render_le h.stamp_length h.vmid_le
  have hends : NameChars Sidecar.front.toList ∧ NameChars Sidecar.back.toList := by decide
  have hlengths : Sidecar.front.toList.length = 13 ∧ Sidecar.back.toList.length = 5 := ⟨rfl, rfl⟩
  refine DirectoryStore.storable_of_nameChars ?_ ?_ ?_
  · unfold Sidecar.name
    rw [String.toList_append, String.toList_append]
    exact (hends.1.append (nameChars_render h.stamp_chars)).append hends.2
  · unfold Sidecar.name
    rw [String.toList_append, String.toList_append, List.length_append, List.length_append]
    omega
  · unfold Sidecar.name
    rw [String.toList_append, String.toList_append, List.length_append, List.length_append]
    omega

/-! ## Names that are different -/

theorem exists_render_eq (n : ArchiveName) : ∃ rest, n.render.toList = 'v' :: rest :=
  ⟨_, toList_render n⟩

theorem render_ne_sidecar (n : ArchiveName) (archive : String) :
    n.render ≠ Sidecar.name archive := by
  obtain ⟨rest, hrest⟩ := exists_render_eq n
  intro h
  rw [h] at hrest
  unfold Sidecar.name at hrest
  rw [String.toList_append, String.toList_append] at hrest
  exact absurd (List.cons.inj hrest).1 (by decide)

theorem render_ne_temporary (n : ArchiveName) (name : String) :
    n.render ≠ DirectoryStore.temporaryPrefix ++ name := by
  obtain ⟨rest, hrest⟩ := exists_render_eq n
  intro h
  rw [h, String.toList_append] at hrest
  exact absurd (List.cons.inj hrest).1 (by decide)

theorem sidecar_ne_temporary (archive name : String) :
    Sidecar.name archive ≠ DirectoryStore.temporaryPrefix ++ name := by
  intro h
  have hchars := congrArg String.toList h
  unfold Sidecar.name at hchars
  rw [String.toList_append, String.toList_append, String.toList_append] at hchars
  exact absurd (List.cons.inj (List.cons.inj hchars).2).1 (by decide)

theorem eq_of_sidecar_eq {archive other : String} (h : Sidecar.name archive = Sidecar.name other) :
    archive = other := by
  unfold Sidecar.name at h
  have hchars := congrArg String.toList h
  simp only [String.toList_append, List.append_assoc] at hchars
  exact String.toList_inj.mp (List.append_cancel_right (List.append_cancel_left hchars))

/-- The name is that of an archive of the guest, or of its metadata. -/
def Belongs (name : String) (vmid : Nat) : Prop :=
  ∃ n : ArchiveName, n.vmid = vmid ∧ (name = n.render ∨ name = Sidecar.name n.render)

theorem belongs_render (n : ArchiveName) : Belongs n.render n.vmid :=
  ⟨n, rfl, Or.inl rfl⟩

theorem belongs_sidecar (n : ArchiveName) : Belongs (Sidecar.name n.render) n.vmid :=
  ⟨n, rfl, Or.inr rfl⟩

theorem Belongs.vmid_eq {name : String} {vmid other : Nat} (h : Belongs name vmid)
    (hother : Belongs name other) : vmid = other := by
  obtain ⟨n, rfl, hn⟩ := h
  obtain ⟨m, rfl, hm⟩ := hother
  rcases hn with rfl | rfl
  · rcases hm with hm | hm
    · exact vmid_eq_of_render_eq hm
    · exact absurd hm (render_ne_sidecar n _)
  · rcases hm with hm | hm
    · exact absurd hm.symm (render_ne_sidecar m _)
    · exact vmid_eq_of_render_eq (eq_of_sidecar_eq hm)

theorem Belongs.ne_temporary {name : String} {vmid : Nat} (h : Belongs name vmid)
    (other : String) : name ≠ DirectoryStore.temporaryPrefix ++ other := by
  obtain ⟨n, -, rfl | rfl⟩ := h
  · exact render_ne_temporary n other
  · exact sidecar_ne_temporary _ other

end ArchiveName

/-! ## Metadata of an archive -/

theorem Metadata.validate_eq_ok {m : Metadata} {archive : String} {kind : Kind} {vmid : Nat}
    (hname : m.archiveName = archive) (hkind : m.vmType = kind.name) (hvmid : m.vmid = vmid)
    (hpos : 0 < vmid) (hword : vmid ≤ maxWord32) : m.validate archive = .ok (kind, vmid) := by
  have hrange : ¬ ((vmid : Int) ≤ 0 ∨ (maxWord32 : Int) < vmid) := by omega
  unfold validate Kind.parse
  rw [hname, hvmid, hkind, if_neg (fun h => h.2 rfl), if_neg hrange, Kind.ofName?_name]
  rfl

theorem Metadata.vmType_ofArchive {archive : ArchiveName} (harchive : archive.Proper)
    (backup : BackupSettings) (origin : String) (size : Nat) (now : Time.Moment) :
    (ofArchive archive.render archive.vmid backup origin size now).vmType = archive.kind.name := by
  unfold ofArchive
  rw [harchive.parse]

/-- The metadata of an archive can be written, and reads back. -/
theorem Metadata.ofArchive_readsBack {archive : ArchiveName} (harchive : archive.Proper) {size : Nat}
    (hsize : size ≤ maxWord64) {now : Time.Moment} (hnow : now.Encodable) (backup : BackupSettings)
    (origin : String) :
    ∃ text,
      (ofArchive archive.render archive.vmid backup origin size now).encode = .ok text ∧
      ofBytes (utf8 text) = .ok (ofArchive archive.render archive.vmid backup origin size now) := by
  have hcreated : ∀ moment, (ofArchive archive.render archive.vmid backup origin size now).createdAt =
      some moment → moment = now := fun moment h => (Option.some.inj h).symm
  have hword : (archive.vmid : Int) ≤ maxWord32 := Int.ofNat_le.mpr harchive.vmid_le
  have hsized : (ofArchive archive.render archive.vmid backup origin size now).Sized := {
    version_le := by show formatVersion ≤ maxWord64; decide
    le_vmid := by
      show -(Int.pow 2 63) ≤ (archive.vmid : Int)
      exact Int.le_trans (by decide) (Int.natCast_nonneg _)
    vmid_lt := by
      show (archive.vmid : Int) < Int.pow 2 63
      exact Int.lt_of_le_of_lt hword (by decide)
    archiveSize_le := hsize
    nanos_le := fun moment h => hcreated moment h ▸ hnow.nanos_le }
  obtain ⟨text, htext⟩ :=
    (exists_encode_iff (ofArchive archive.render archive.vmid backup origin size now)).mpr
      fun moment h => hcreated moment h ▸ hnow.exists_text
  exact ⟨text, htext, (ofBytes_encode hsized htext).trans rfl⟩

/-! ## Deposits -/

/-- An archive of a machine, and metadata that describes it. -/
structure Described (machine : Machine) (size : Nat) (archive : ArchiveName) (body : Bytes) :
    Prop where
  proper : archive.Proper
  kind_eq : archive.kind = machine.kind
  vmid_eq : archive.vmid = machine.vmid
  metadata : ∃ metadata, Metadata.ofBytes body = .ok metadata ∧
    metadata.archiveName = archive.render ∧ metadata.archiveSize = size ∧
    metadata.vmid = machine.vmid ∧ metadata.vmType = machine.kind.name

/-- The two records that a backup leaves for a machine: the archive, and metadata that fits it. -/
structure Deposited (machine : Machine) (size : Nat) (archive : ArchiveName) (body : Bytes) :
    Prop where
  proper : archive.Proper
  kind_eq : archive.kind = machine.kind
  vmid_eq : archive.vmid = machine.vmid
  metadata : ∃ metadata, Metadata.ofBytes body = .ok metadata ∧
    metadata.archiveName = archive.render ∧ metadata.archiveSize = size ∧
    metadata.validate archive.render = .ok (machine.kind, machine.vmid)

theorem Described.deposited {machine : Machine} {size : Nat} {archive : ArchiveName} {body : Bytes}
    (h : Described machine size archive body) (hpos : 0 < machine.vmid) :
    Deposited machine size archive body := by
  obtain ⟨metadata, hread, hname, hsize, hvmid, hkind⟩ := h.metadata
  refine ⟨h.proper, h.kind_eq, h.vmid_eq, metadata, hread, hname, hsize, ?_⟩
  exact Metadata.validate_eq_ok hname hkind hvmid hpos (h.vmid_eq ▸ h.proper.vmid_le)

end GuestVault
