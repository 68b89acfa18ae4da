import GuestVault.Proofs.Archive.Name
import GuestVault.Proofs.Store.Listing
import GuestVault.Proofs.Text.Encoded
import GuestVault.Proofs.Time.Stamp
import Mathlib.Data.List.Basic

/-!
# Archives identified by their names

A `Naming` is all that the name of a new archive is made from, and the name says all of it again
(`naming_identified`): kind and id are read back behind any directory (`parse_append_render`), and
two names are the same only for the same kind, id, second of the local clock, compression and tag
(`render_eq_iff`). Names that differ in their second are ordered as their times are
(`render_lt_iff`), and that is the order in which a store lists them
(`DirectoryStore.idxOf_lt_idxOf_iff`).
-/

namespace GuestVault

open GuestVault.Text

/-! ## Order -/

theorem Text.utf8_lt_utf8_iff {s t : String} : utf8 s < utf8 t ↔ s < t := by
  refine ⟨fun h => Decidable.by_contra fun hle => ?_, utf8_lt_utf8⟩
  by_cases hgt : t < s
  · exact List.lt_asymm h (utf8_lt_utf8 hgt)
  · obtain rfl := String.le_antisymm hgt hle
    exact List.lt_irrefl _ h

namespace DirectoryStore

variable {store : DirectoryStore} {t : FileTree} {names : List String} {a b : String}

theorem pairwise_names (h : store.names t = .ok names) : names.Pairwise (· ≤ ·) := by
  unfold DirectoryStore.names at h
  rcases hdir : osFailure ("read store " ++ store.root) (t.find true (.ofText store.root)) with
    e | ⟨l, entry⟩
  · rw [hdir] at h
    cases h
  · rw [hdir] at h
    cases entry <;> cases h
    exact pairwise_sorted _

theorem idxOf_lt_idxOf (h : store.names t = .ok names) (ha : a ∈ names) (hb : b ∈ names)
    (hlt : a < b) : names.idxOf a < names.idxOf b := by
  have hgeta := List.getElem_idxOf (List.idxOf_lt_length_of_mem ha)
  have hgetb := List.getElem_idxOf (List.idxOf_lt_length_of_mem hb)
  refine Nat.lt_of_not_le fun hle => ?_
  rcases Nat.lt_or_eq_of_le hle with hbefore | hsame
  · have hle := List.pairwise_iff_getElem.mp (pairwise_names h) _ _
      (List.idxOf_lt_length_of_mem hb) (List.idxOf_lt_length_of_mem ha) hbefore
    rw [hgeta, hgetb] at hle
    exact absurd hlt hle
  · simp only [hsame] at hgetb
    rw [hgeta] at hgetb
    exact absurd hlt (hgetb ▸ String.lt_irrefl a)

/-- **A store lists names in order.** -/
theorem idxOf_lt_idxOf_iff (h : store.names t = .ok names) (ha : a ∈ names) (hb : b ∈ names) :
    names.idxOf a < names.idxOf b ↔ a < b := by
  refine ⟨fun hidx => Decidable.by_contra fun hle => ?_, idxOf_lt_idxOf h ha hb⟩
  by_cases hgt : b < a
  · exact Nat.lt_asymm hidx (idxOf_lt_idxOf h hb ha hgt)
  · obtain rfl := String.le_antisymm hgt hle
    exact Nat.lt_irrefl _ hidx

end DirectoryStore

/-! ## Stamps in names -/

/-- Two texts that are equal are so up to the first place of a character, and behind it. -/
theorem Text.append_cons_inj {c : Char} {s s' r r' : List Char} (hs : c ∉ s) (hs' : c ∉ s')
    (h : s ++ c :: r = s' ++ c :: r') : s = s' ∧ r = r' := by
  induction s generalizing s' with
  | nil =>
    cases s' with
    | nil => exact ⟨rfl, (List.cons_eq_cons.mp h).2⟩
    | cons d s' =>
      obtain ⟨rfl, -⟩ := List.cons_eq_cons.mp h
      exact absurd List.mem_cons_self hs'
  | cons d s ih =>
    rw [List.mem_cons, not_or] at hs
    cases s' with
    | nil => exact absurd (List.cons_eq_cons.mp h).1.symm hs.1
    | cons d' s' =>
      rw [List.mem_cons, not_or] at hs'
      obtain ⟨rfl, hrest⟩ := List.cons_eq_cons.mp h
      obtain ⟨rfl, hr⟩ := ih hs.2 hs'.2 hrest
      exact ⟨rfl, hr⟩

theorem Text.AllDigits.dot_notMem {s : List Char} (hs : AllDigits s) : '.' ∉ s :=
  fun h => absurd (hs '.' h) (by decide)

theorem Text.dot_notMem_padInt (places : Nat) (z : Int) : '.' ∉ (padInt places z).toList := by
  by_cases hz : z < 0
  · rw [toList_padInt_of_neg hz, List.mem_cons, not_or]
    exact ⟨by decide, (allDigits_padNat _ _).dot_notMem⟩
  · rw [padInt_of_nonneg (Int.not_lt.mp hz)]
    exact (allDigits_padNat _ _).dot_notMem

/-- The extension begins at the first point after the stamp. -/
theorem Time.Moment.dot_notMem_stamp (m : Time.Moment) : '.' ∉ m.stamp.toList := by
  have hdot (n : Nat) : '.' ∉ (padNat 2 n).toList := (allDigits_padNat 2 n).dot_notMem
  rw [toList_stamp]
  simp only [List.mem_append, List.mem_cons, not_or]
  exact ⟨dot_notMem_padInt _ _, by decide, hdot _, by decide, hdot _, by decide, hdot _, by decide,
    hdot _, by decide, hdot _⟩

namespace ArchiveName

variable {n m : ArchiveName}

/-! ## Names -/

theorem suffix_inj {c c' : Compression} (h : c.suffix = c'.suffix) : c = c' := by
  cases c <;> cases c' <;> first | rfl | exact absurd h (by decide)

theorem tag_inj {t t' : Bool}
    (h : (if t then some ['1'] else none) = if t' then some ['1'] else none) : t = t' := by
  cases t <;> cases t' <;> first | rfl | exact absurd h (by decide)

theorem eq_iff : n = m ↔ n.kind = m.kind ∧ n.vmid = m.vmid ∧ n.stamp = m.stamp ∧
    n.compression = m.compression ∧ n.tagged = m.tagged := by
  cases n
  cases m
  rw [mk.injEq]

/-- **A name says all that it is made from.** -/
theorem render_eq_iff (hn : '.' ∉ n.stamp.toList) (hm : '.' ∉ m.stamp.toList) :
    n.render = m.render ↔ n = m := by
  refine ⟨fun h => ?_, congrArg render⟩
  have hshape := shape?_render n
  rw [h, shape?_render m] at hshape
  obtain ⟨htag, hkind, -⟩ := Shape.mk.inj (Option.some.inj hshape)
  have htagged := tag_inj htag
  have hvmid := vmid_eq_of_render_eq h
  have hchars := congrArg String.toList h
  rw [toList_render, toList_render, hvmid, hkind, htagged] at hchars
  simp only [List.append_cancel_left_eq, List.cons.injEq, true_and, rest, hkind] at hchars
  obtain ⟨hstamp, hend⟩ := append_cons_inj hn hm hchars
  have hcompression := suffix_inj (String.toList_inj.mp (List.append_cancel_left hend))
  exact eq_iff.mpr ⟨hkind.symm, hvmid, String.toList_inj.mp hstamp, hcompression, htagged.symm⟩

theorem parse_append_render (hstamp : NameChars n.stamp.toList) (hvmid : n.vmid ≤ maxWord32)
    (dir : String) : parse (dir ++ "/" ++ n.render) = .ok (n.kind, n.vmid) := by
  have hbase : basename (dir ++ "/" ++ n.render) = basename n.render := by
    have hslash : "/".toList = ['/'] := rfl
    unfold basename
    simp only [String.toList_append, hslash, List.append_assoc, List.singleton_append,
      baseChars_append_slash]
  rw [← parse_render hstamp hvmid]
  unfold parse
  rw [hbase]

/-- Names that differ in their stamps are ordered as these, whatever their compressions are. -/
theorem render_lt_iff (hkind : n.kind = m.kind) (hvmid : n.vmid = m.vmid)
    (htagged : n.tagged = m.tagged) (hlength : n.stamp.toList.length = m.stamp.toList.length)
    (hne : n.stamp ≠ m.stamp) : n.render < m.render ↔ n.stamp.toList < m.stamp.toList := by
  have hne' : n.stamp.toList ≠ m.stamp.toList := fun h => hne (String.toList_inj.mp h)
  rw [String.lt_iff, toList_render, toList_render, hkind, hvmid, htagged]
  simp only [append_lt_append_iff rfl, Std.Irrefl.irrefl, false_or, true_and, List.cons_lt_cons_iff]
  unfold rest
  rw [append_lt_append_iff hlength]
  exact or_iff_left fun h => hne' h.1

/-! ## Namings -/

/-- What the name of a new archive is made from. -/
structure Naming where
  kind : Kind
  vmid : Nat
  moment : Time.Moment
  compression : Compression
  /-- The version tag that is asked for. -/
  tag : Option Nat

namespace Naming

/-- The name, unless the tag is refused. -/
def name? (a : Naming) : Except Error ArchiveName :=
  match a.tag with
  | none => .ok (ofMoment a.kind a.vmid a.moment a.compression)
  | some v => (ofMoment a.kind a.vmid a.moment a.compression).withVersion v

/-- There is no tag, or it is the only one that is supported. -/
def Supported (a : Naming) : Prop :=
  ∀ v ∈ a.tag, v = version

variable {a b : Naming}

theorem Supported.exists_name (ha : a.Supported) : ∃ n, a.name? = .ok n ∧ n.kind = a.kind ∧
    n.vmid = a.vmid ∧ n.stamp = a.moment.stamp ∧ n.compression = a.compression ∧ n.tagged = a.tag.isSome := by
  unfold name?
  cases htag : a.tag with
  | none => exact ⟨_, rfl, rfl, rfl, rfl, rfl, rfl⟩
  | some v =>
    obtain rfl := ha v htag
    exact ⟨_, rfl, rfl, rfl, rfl, rfl, rfl⟩

theorem supported {n : ArchiveName} (h : a.name? = .ok n) : a.Supported := by
  rintro v hv
  unfold name? at h
  rw [hv] at h
  by_contra hother
  have hcheck : checkVersion v = .error (.unsupportedVersion .archiveName v) := if_neg hother
  unfold withVersion at h
  dsimp only at h
  rw [hcheck] at h
  cases h

theorem isSome_tag_inj (ha : a.Supported) (hb : b.Supported) :
    a.tag.isSome = b.tag.isSome ↔ a.tag = b.tag := by
  refine ⟨fun h => ?_, congrArg _⟩
  unfold Supported at ha hb
  cases htag : a.tag <;> cases htag' : b.tag
  · rfl
  · rw [htag, htag'] at h
    cases h
  · rw [htag, htag'] at h
    cases h
  · rw [ha _ htag, hb _ htag']

end Naming

/-- **The name of an archive identifies it.** It exists for every naming without a tag or with the
supported one, kind and id are read back from it, also behind a directory, and it is the name of
another naming only if that has the same kind, id, second of the local clock, compression and tag.
If namings have kind, id, tag and offset in common and their local years have four digits, the names
of different seconds are ordered byte by byte as their times are, whatever the compressions, and so
are they where a store lists both. -/
theorem naming_identified {a b : Naming} (ha : a.Supported) (hb : b.Supported) :
    ∃ n m, a.name? = .ok n ∧ b.name? = .ok m ∧
      (a.vmid ≤ maxWord32 → parse n.render = .ok (a.kind, a.vmid) ∧
        ∀ dir, parse (dir ++ "/" ++ n.render) = .ok (a.kind, a.vmid)) ∧
      (n.render = m.render ↔ a.kind = b.kind ∧ a.vmid = b.vmid ∧
        a.moment.localSecond = b.moment.localSecond ∧ a.compression = b.compression ∧
        a.tag = b.tag) ∧
      (a.kind = b.kind → a.vmid = b.vmid → a.tag = b.tag → a.moment.offset = b.moment.offset →
        0 ≤ a.moment.date.year ∧ a.moment.date.year ≤ 9999 →
        0 ≤ b.moment.date.year ∧ b.moment.date.year ≤ 9999 → a.moment.unix ≠ b.moment.unix →
        (utf8 n.render < utf8 m.render ↔ a.moment.unix < b.moment.unix) ∧
        ∀ (store : DirectoryStore) (t : FileTree) (names : List String),
          store.names t = .ok names → n.render ∈ names → m.render ∈ names →
            (names.idxOf n.render < names.idxOf m.render ↔ a.moment.unix < b.moment.unix)) := by
  obtain ⟨n, hn, hkind, hvmid, hstamp, hcompression, htagged⟩ := ha.exists_name
  obtain ⟨m, hm, hkind', hvmid', hstamp', hcompression', htagged'⟩ := hb.exists_name
  refine ⟨n, m, hn, hm, fun hword => ?_, ?_, ?_⟩
  · have hchars : NameChars n.stamp.toList := hstamp ▸ a.moment.nameChars_stamp
    rw [← hkind, ← hvmid]
    rw [← hvmid] at hword
    exact ⟨parse_render hchars hword, parse_append_render hchars hword⟩
  · rw [render_eq_iff (hstamp ▸ a.moment.dot_notMem_stamp) (hstamp' ▸ b.moment.dot_notMem_stamp),
      eq_iff, hkind, hkind', hvmid, hvmid', hstamp, hstamp', hcompression, hcompression', htagged,
      htagged', Time.Moment.stamp_eq_iff, Naming.isSome_tag_inj ha hb]
  · intro hsameKind hsameId hsameTag hoffset hyear hyear' hne
    have hlocal : a.moment.localSecond < b.moment.localSecond ↔ a.moment.unix < b.moment.unix := by
      unfold Time.Moment.localSecond
      omega
    have hdiffer : a.moment.stamp ≠ b.moment.stamp := by
      rw [Ne, Time.Moment.stamp_eq_iff]
      unfold Time.Moment.localSecond
      omega
    have hlength : a.moment.stamp.toList.length = b.moment.stamp.toList.length := by
      rw [Time.Moment.length_stamp hyear, Time.Moment.length_stamp hyear']
    have horder : n.render < m.render ↔ a.moment.unix < b.moment.unix := by
      rw [render_lt_iff (by rw [hkind, hkind', hsameKind]) (by rw [hvmid, hvmid', hsameId])
        (by rw [htagged, htagged', hsameTag]) (by rw [hstamp, hstamp', hlength])
        (by rw [hstamp, hstamp']; exact hdiffer), hstamp, hstamp',
        Time.Moment.stamp_lt_iff hyear hyear', hlocal]
    refine ⟨utf8_lt_utf8_iff.trans horder, fun store t names hnames hn hm => ?_⟩
    exact (DirectoryStore.idxOf_lt_idxOf_iff hnames hn hm).trans horder

/-- The naming of a machine at the given instant, on a clock an hour ahead of UTC. -/
def Naming.tagged101 (unix : Int) (compression : Compression) : Naming :=
  { kind := .qemu, vmid := 101, moment := { unix, nanos := 0, offset := 3600 }, compression,
    tag := some version }

/-- The last second of a leap year and the first second of the next one. -/
theorem new_year_in_order : ∃ n m, (Naming.tagged101 1735685999 .zstd).name? = .ok n ∧
    (Naming.tagged101 1735686000 .gzip).name? = .ok m ∧
    parse ("/var/dump" ++ "/" ++ n.render) = .ok (.qemu, 101) ∧ n.render ≠ m.render ∧
    utf8 n.render < utf8 m.render := by
  have hsupported (unix : Int) (compression : Compression) :
      (Naming.tagged101 unix compression).Supported := by
    rintro v ⟨⟩
    rfl
  obtain ⟨n, m, hn, hm, hparse, hsame, horder⟩ :=
    naming_identified (hsupported 1735685999 .zstd) (hsupported 1735686000 .gzip)
  have hlt := (horder rfl rfl rfl rfl (by decide) (by decide) (by decide)).1.mpr (by decide)
  exact ⟨n, m, hn, hm, (hparse (by decide)).2 "/var/dump",
    fun h => absurd (hsame.mp h).2.2.1 (by decide), hlt⟩

end ArchiveName

end GuestVault
