import GuestVault.Proofs.Archive.Grammar
import GuestVault.Proofs.Archive.Identity
import GuestVault.Proofs.Archive.Tail

/-!
# Staging names

Whatever an archive is called, its staging name is one of the dump tool's names with a tail that
fits the kind (`stagingName_canonical`): it has no slash and says kind and id. The tail that is kept
is the part of the base name behind a byte that lies between two characters. The name of an archive
of this library is staged under the untagged name of the same scheme (`stagingName_render`).
-/

namespace GuestVault

open GuestVault.Text

variable {s front tail : List Char} {kind : Kind}

/-! ## Tails -/

/-- In lower case, the tail is the extension of the kind, alone or followed by one dotted suffix of
letters and digits. -/
def Kind.HasTail (kind : Kind) (tail : List Char) : Prop :=
  tail.map Char.toLower = '.' :: kind.extension.toList ∨
    ∃ suffix, suffix ≠ [] ∧ (∀ c ∈ suffix, isSuffixChar c = true) ∧
      tail.map Char.toLower = '.' :: (kind.extension.toList ++ '.' :: suffix)

theorem rest_of_extension (kind : Kind) (r : List Char) :
    (dropFront? ".vma".toList ('.' :: (kind.extension.toList ++ r))).or
      (dropFront? ".tar".toList ('.' :: (kind.extension.toList ++ r))) = some r := by
  cases kind with
  | qemu => rfl
  | lxc => rfl

/-- Only one dotted suffix may follow the extension. -/
theorem isArchiveTail_iff (kind : Kind) {r : List Char} :
    isArchiveTail ('.' :: (kind.extension.toList ++ r)) = true ↔
      r = [] ∨ ∃ suffix, suffix ≠ [] ∧ (∀ c ∈ suffix, isSuffixChar c = true) ∧
        r = '.' :: suffix := by
  unfold isArchiveTail
  rw [rest_of_extension]
  dsimp only
  split
  · rename_i h
    exact ⟨fun _ => Or.inl (Option.some.inj h), fun _ => rfl⟩
  · rename_i c s h
    obtain rfl := Option.some.inj h
    rw [List.all_eq_true]
    refine ⟨fun hall => Or.inr ⟨c :: s, List.cons_ne_nil c s, hall, rfl⟩, ?_⟩
    rintro (hnil | ⟨suffix, -, hall, hsame⟩)
    · cases hnil
    · obtain ⟨-, rfl⟩ := List.cons_eq_cons.mp hsame
      exact hall
  · rename_i hnil hdot
    refine ⟨fun h => absurd h Bool.false_ne_true, ?_⟩
    rintro (rfl | ⟨suffix, hne, -, rfl⟩)
    · exact absurd rfl hnil
    · obtain ⟨c, s, rfl⟩ := List.exists_cons_of_ne_nil hne
      exact absurd rfl (hdot c s)

/-- What begins with the extension in lower case is checked for the rest of a tail. -/
theorem Kind.hasTail_iff
    (hext : ('.' :: kind.extension.toList).isPrefixOf (tail.map Char.toLower)) :
    kind.HasTail tail ↔ isArchiveTail (tail.map Char.toLower) = true := by
  obtain ⟨r, hr⟩ := List.isPrefixOf_iff_prefix.mp hext
  rw [List.cons_append] at hr
  unfold HasTail
  rw [← hr, isArchiveTail_iff]
  simp only [List.cons.injEq, true_and, List.append_right_eq_self, List.append_cancel_left_eq]

theorem Kind.hasTail_extension (kind : Kind) : kind.HasTail ("." ++ kind.extension).toList := by
  cases kind with
  | qemu => exact Or.inl rfl
  | lxc => exact Or.inl rfl

theorem isPrefixOf_of_tailFrom? {ext : List Char} (h : tailFrom? ext s = some tail) :
    ext.isPrefixOf (tail.map Char.toLower) = true := by
  induction s with
  | nil => cases h
  | cons c s ih =>
    unfold tailFrom? at h
    split at h
    · obtain rfl := Option.some.inj h
      assumption
    · exact ih h

theorem toList_dot_extension (kind : Kind) :
    ("." ++ kind.extension).toList = '.' :: kind.extension.toList := by
  rw [String.toList_append]
  rfl

theorem keptTail_of_none {archive : String}
    (h : tailFrom? ('.' :: kind.extension.toList) (baseChars archive.toList) = none) :
    keptTail archive kind = "." ++ kind.extension := by
  unfold keptTail
  dsimp only
  rw [toList_dot_extension, h]

theorem keptTail_of_some {archive : String}
    (h : tailFrom? ('.' :: kind.extension.toList) (baseChars archive.toList) = some tail) :
    kind.HasTail tail ∧ keptTail archive kind = String.ofList tail ∨
      ¬ kind.HasTail tail ∧ keptTail archive kind = "." ++ kind.extension := by
  rw [Kind.hasTail_iff (isPrefixOf_of_tailFrom? h)]
  unfold keptTail
  dsimp only
  rw [toList_dot_extension, h]
  by_cases hkept : isArchiveTail (tail.map Char.toLower) = true
  · exact Or.inl ⟨hkept, if_pos hkept⟩
  · exact Or.inr ⟨hkept, if_neg hkept⟩

/-- **The tail that is kept fits the kind.** -/
theorem hasTail_keptTail (archive : String) (kind : Kind) :
    kind.HasTail (keptTail archive kind).toList := by
  cases h : tailFrom? ('.' :: kind.extension.toList) (baseChars archive.toList) with
  | none =>
    rw [keptTail_of_none h]
    exact kind.hasTail_extension
  | some tail =>
    rcases keptTail_of_some h with ⟨htail, hkept⟩ | ⟨-, hkept⟩
    · rw [hkept, String.toList_ofList]
      exact htail
    · rw [hkept]
      exact kind.hasTail_extension

theorem Kind.HasTail.slash_notMem (h : kind.HasTail tail) : '/' ∉ tail := by
  have hext : '/' ∉ '.' :: kind.extension.toList := by cases kind <;> decide
  intro hslash
  have hlow : '/' ∈ tail.map Char.toLower := List.mem_map.mpr ⟨'/', hslash, rfl⟩
  rcases h with htail | ⟨suffix, -, hsuffix, htail⟩
  · rw [htail] at hlow
    exact hext hlow
  · rw [htail, ← List.cons_append, List.mem_append] at hlow
    rcases hlow with hlow | hlow
    · exact hext hlow
    · rcases List.mem_cons.mp hlow with hdot | hlow
      · exact absurd hdot (by decide)
      · exact absurd (hsuffix '/' hlow) (by decide)

/-! ## Staging names -/

theorem toList_stagingName (archive : String) (kind : Kind) (vmid : Nat) (now : Time.Moment) :
    (stagingName archive kind vmid now).toList =
      "vzdump".toList ++ ([] ++ '-' :: (kind.name.toList ++ '-' :: ((toString vmid).toList ++
        '-' :: (now.stamp.toList ++ (keptTail archive kind).toList)))) := by
  have hdash : "-".toList = ['-'] := rfl
  have hfront : "vzdump-".toList = "vzdump".toList ++ ['-'] := rfl
  unfold stagingName
  simp only [String.toList_append, hdash, hfront, List.append_assoc, List.cons_append,
    List.nil_append]

theorem slash_notMem_stagingName (archive : String) (kind : Kind) (vmid : Nat)
    (now : Time.Moment) : '/' ∉ (stagingName archive kind vmid now).toList := by
  have hname : '/' ∉ kind.name.toList := by cases kind <;> decide
  have hid : '/' ∉ (toString vmid).toList :=
    (NameChars.of_allDigits (allDigits_toString vmid)).slash_notMem
  rw [toList_stagingName]
  simp only [List.mem_append, List.mem_cons, List.not_mem_nil, not_or]
  exact ⟨by decide, not_false, by decide, hname, by decide, hid, by decide,
    now.nameChars_stamp.slash_notMem, (hasTail_keptTail archive kind).slash_notMem⟩

/-- **A staging name says kind and id.** -/
theorem parse_stagingName (archive : String) (kind : Kind) {vmid : Nat} (hvmid : vmid ≤ maxWord32)
    (now : Time.Moment) :
    ArchiveName.parse (stagingName archive kind vmid now) = .ok (kind, vmid) := by
  have hbase : IsBase (stagingName archive kind vmid now).toList
      (stagingName archive kind vmid now).toList :=
    ⟨slash_notMem_stagingName archive kind vmid now, Or.inl rfl⟩
  have hnumeral : IsNumeral (toString vmid).toList :=
    isNumeral_iff.mpr ⟨toString_ne_nil vmid, allDigits_toString vmid⟩
  have hspells : ArchiveName.Spells (stagingName archive kind vmid now).toList
      ⟨none, kind, (toString vmid).toList⟩ (now.stamp.toList ++ (keptTail archive kind).toList) :=
    ⟨toList_stagingName archive kind vmid now, nofun, hnumeral⟩
  refine ArchiveName.parse_of_accepted ⟨none, ⟨_, _, _, hbase, hspells, rfl, rfl, ?_⟩, nofun, hvmid⟩
  rw [← hnumeral.digitsValue_eq, digitsValue_toString]

/-! ## Bytes -/

/-- A text in lower case, as far as it is ASCII. -/
def lowerAscii (s : String) : String :=
  String.ofList (s.toList.map Char.toLower)

/-- The place of the extension in a base name, counted in bytes of its lower case. -/
def extensionByte? (archive : String) (kind : Kind) : Option Nat :=
  firstIndex? (utf8 ("." ++ kind.extension)) (utf8 (lowerAscii (basename archive)))

/-- A text is cut at a byte that lies between two characters, of the text as of its lower case. -/
structure CutAt (s : String) (i : Nat) (front back : String) : Prop where
  eq_append : s = front ++ back
  length_front : (utf8 front).length = i
  length_lowerAscii_front : (utf8 (lowerAscii front)).length = i

theorem eq_nil_of_charBytes_eq_nil {s : List Char} (h : charBytes s = []) : s = [] := by
  cases s with
  | nil => rfl
  | cons c s =>
    obtain ⟨a, r, hcode, -⟩ := leading_utf8Code c []
    rw [charBytes_cons, hcode] at h
    cases h

/-- A byte cuts a text in one way. -/
theorem CutAt.back_eq {s front back front' back' : String} {i : Nat} (h : CutAt s i front back)
    (h' : CutAt s i front' back') : back = back' := by
  have hchars := congrArg String.toList (h.eq_append.symm.trans h'.eq_append)
  have hlength : (charBytes front.toList).length = (charBytes front'.toList).length :=
    h.length_front.trans h'.length_front.symm
  rw [String.toList_append, String.toList_append, List.append_eq_append_iff] at hchars
  -- One front continues the other by characters without bytes.
  rcases hchars with ⟨mid, hfront, hback⟩ | ⟨mid, hfront, hback⟩ <;>
  · rw [hfront, charBytes_append, List.length_append] at hlength
    have hmid : charBytes mid = [] := List.length_eq_zero_iff.mp (by omega)
    obtain rfl := eq_nil_of_charBytes_eq_nil hmid
    exact String.toList_inj.mp (by rw [hback, List.nil_append])

theorem ascii_extension (kind : Kind) : ∀ x ∈ '.' :: kind.extension.toList, x.toNat < 128 := by
  have hchars : NameChars ('.' :: kind.extension.toList) := by cases kind <;> decide
  exact fun x hx => hchars.toNat_lt hx

theorem extensionByte?_eq (archive : String) (kind : Kind) :
    extensionByte? archive kind = firstIndex? (charBytes ('.' :: kind.extension.toList))
      (charBytes ((baseChars archive.toList).map Char.toLower)) := by
  have hext : utf8 ("." ++ kind.extension) = charBytes ('.' :: kind.extension.toList) := by
    show charBytes ("." ++ kind.extension).toList = _
    rw [toList_dot_extension]
  have hlower : utf8 (lowerAscii (basename archive)) =
      charBytes ((baseChars archive.toList).map Char.toLower) := by
    show charBytes (lowerAscii (basename archive)).toList = _
    unfold lowerAscii basename
    rw [String.toList_ofList, String.toList_ofList]
  unfold extensionByte?
  rw [hext, hlower]

/-- **Where the bytes of the extension are not found, the bare extension is kept.** -/
theorem keptTail_of_extensionByte?_eq_none {archive : String}
    (h : extensionByte? archive kind = none) : keptTail archive kind = "." ++ kind.extension := by
  rw [extensionByte?_eq] at h
  cases htail : tailFrom? ('.' :: kind.extension.toList) (baseChars archive.toList) with
  | none => exact keptTail_of_none htail
  | some tail =>
    obtain ⟨front, -, hindex⟩ := firstIndex?_eq_some (ascii_extension kind) htail
    rw [hindex] at h
    cases h

/-- **Where they are found, the name is cut between two characters**, and what is behind is kept if
it is a tail. -/
theorem keptTail_of_extensionByte?_eq_some {archive : String} {i : Nat}
    (h : extensionByte? archive kind = some i) :
    ∃ front back, CutAt (basename archive) i front back ∧
      (kind.HasTail back.toList ∧ keptTail archive kind = back ∨
        ¬ kind.HasTail back.toList ∧ keptTail archive kind = "." ++ kind.extension) := by
  rw [extensionByte?_eq] at h
  cases htail : tailFrom? ('.' :: kind.extension.toList) (baseChars archive.toList) with
  | none =>
    rw [firstIndex?_eq_none (ascii_extension kind) htail] at h
    cases h
  | some tail =>
    obtain ⟨front, hbase, hindex⟩ := firstIndex?_eq_some (ascii_extension kind) htail
    obtain rfl := Option.some.inj (hindex.symm.trans h)
    refine ⟨.ofList front, .ofList tail, ⟨?_, ?_, ?_⟩, ?_⟩
    · unfold basename
      rw [hbase, String.ofList_append]
    · show (charBytes (String.ofList front).toList).length = _
      rw [String.toList_ofList]
    · show (charBytes (lowerAscii (String.ofList front)).toList).length = _
      unfold lowerAscii
      rw [String.toList_ofList, String.toList_ofList, length_charBytes_toLower]
    · rw [String.toList_ofList]
      exact keptTail_of_some htail

/-! ## Names of this library -/

theorem eq_dot_of_toLower {c : Char} (h : c.toLower = '.') : c = '.' := by
  have hcode := congrArg Char.toNat h
  have hdot : '.'.toNat = 46 := rfl
  rw [toNat_toLower, hdot] at hcode
  split at hcode
  · omega
  · exact Char.toNat_inj.mp hcode

theorem tailFrom?_append {ext : List Char} (hfront : '.' ∉ front) :
    tailFrom? ('.' :: ext) (front ++ tail) = tailFrom? ('.' :: ext) tail := by
  induction front with
  | nil => rfl
  | cons c front ih =>
    rw [List.mem_cons, not_or] at hfront
    have hfirst : ('.' == c.toLower) = false :=
      beq_eq_false_iff_ne.mpr fun h => hfront.1 (eq_dot_of_toLower h.symm).symm
    have hfits : ('.' :: ext).isPrefixOf ((c :: (front ++ tail)).map Char.toLower) = false := by
      show ('.' == c.toLower && _) = false
      rw [hfirst, Bool.false_and]
    rw [List.cons_append, tailFrom?, hfits, if_neg Bool.false_ne_true, ih hfront.2]

theorem tailFrom?_extension (kind : Kind) (compression : Compression) :
    tailFrom? ('.' :: kind.extension.toList)
        ('.' :: (kind.extension.toList ++ compression.suffix.toList)) =
      some ('.' :: (kind.extension.toList ++ compression.suffix.toList)) := by
  cases kind <;> cases compression <;> decide

theorem Kind.hasTail_suffix (kind : Kind) (compression : Compression) :
    kind.HasTail ('.' :: (kind.extension.toList ++ compression.suffix.toList)) := by
  rw [hasTail_iff (isPrefixOf_of_tailFrom? (tailFrom?_extension kind compression))]
  cases kind <;> cases compression <;> decide

theorem ArchiveName.dot_notMem_front {n : ArchiveName} (hdot : '.' ∉ n.stamp.toList) :
    '.' ∉ "vzdump".toList ++ (tag n.tagged ++ '-' :: (n.kind.name.toList ++
      '-' :: ((toString n.vmid).toList ++ '-' :: n.stamp.toList))) := by
  have htag : '.' ∉ tag n.tagged := by cases n.tagged <;> decide
  have hkind : '.' ∉ n.kind.name.toList := by cases n.kind <;> decide
  simp only [List.mem_append, List.mem_cons, not_or]
  exact ⟨by decide, htag, by decide, hkind, by decide, (allDigits_toString n.vmid).dot_notMem,
    by decide, hdot⟩

theorem keptTail_render {n : ArchiveName} (hstamp : NameChars n.stamp.toList)
    (hdot : '.' ∉ n.stamp.toList) :
    keptTail n.render n.kind = "." ++ n.kind.extension ++ n.compression.suffix := by
  have hbase := baseChars_of_notMem (ArchiveName.nameChars_render hstamp).slash_notMem
  have hchars : n.render.toList = "vzdump".toList ++ (ArchiveName.tag n.tagged ++
      '-' :: (n.kind.name.toList ++ '-' :: ((toString n.vmid).toList ++ '-' :: n.stamp.toList))) ++
      '.' :: (n.kind.extension.toList ++ n.compression.suffix.toList) := by
    rw [ArchiveName.toList_render]
    unfold ArchiveName.rest
    simp only [List.append_assoc, List.cons_append]
  have hfound : tailFrom? ('.' :: n.kind.extension.toList) (baseChars n.render.toList) =
      some ('.' :: (n.kind.extension.toList ++ n.compression.suffix.toList)) := by
    rw [hbase, hchars, tailFrom?_append (ArchiveName.dot_notMem_front hdot), tailFrom?_extension]
  have hkept := (keptTail_of_some hfound).resolve_right fun h =>
    h.1 (n.kind.hasTail_suffix n.compression)
  rw [hkept.2, ← String.toList_inj, String.toList_ofList, String.toList_append,
    toList_dot_extension, List.cons_append]

/-- **A name of this library is staged under an untagged name.** -/
theorem stagingName_render {n : ArchiveName} (hstamp : NameChars n.stamp.toList)
    (hdot : '.' ∉ n.stamp.toList) (vmid : Nat) (now : Time.Moment) :
    stagingName n.render n.kind vmid now =
      (ArchiveName.ofMoment n.kind vmid now n.compression).render := by
  unfold stagingName
  rw [keptTail_render hstamp hdot]
  show _ = "vzdump" ++ "" ++ "-" ++ n.kind.name ++ "-" ++ toString vmid ++ "-" ++ now.stamp ++
    "." ++ n.kind.extension ++ n.compression.suffix
  have hfront : "vzdump-" = "vzdump" ++ "" ++ "-" := rfl
  rw [hfront]
  simp only [String.append_assoc]

/-- **Staging names are safe and canonical**, whatever the archive is called. A staging name is made
of kind, id, stamp and a tail that fits the kind, it has no slash, and kind and id are read back
from it. The tail depends on the byte where the extension is found: that byte lies between two
characters. The name of an archive of this library is staged under the untagged name with the same
compression. -/
theorem stagingName_canonical (archive : String) (kind : Kind) {vmid : Nat}
    (hvmid : vmid ≤ maxWord32) (now : Time.Moment) :
    (∃ tail, stagingName archive kind vmid now =
        "vzdump-" ++ kind.name ++ "-" ++ toString vmid ++ "-" ++ now.stamp ++ tail ∧
      kind.HasTail tail.toList ∧
      (extensionByte? archive kind = none → tail = "." ++ kind.extension) ∧
      ∀ i, extensionByte? archive kind = some i →
        ∃ front back, CutAt (basename archive) i front back ∧
          (kind.HasTail back.toList ∧ tail = back ∨
            ¬ kind.HasTail back.toList ∧ tail = "." ++ kind.extension)) ∧
    '/' ∉ (stagingName archive kind vmid now).toList ∧
    ArchiveName.parse (stagingName archive kind vmid now) = .ok (kind, vmid) ∧
    ∀ (a : ArchiveName.Naming) (n : ArchiveName), a.name? = .ok n → a.kind = kind →
      n.render = archive → stagingName archive kind vmid now =
        (ArchiveName.ofMoment kind vmid now a.compression).render := by
  refine ⟨⟨keptTail archive kind, rfl, hasTail_keptTail archive kind,
    keptTail_of_extensionByte?_eq_none, fun i => keptTail_of_extensionByte?_eq_some⟩,
    slash_notMem_stagingName archive kind vmid now, parse_stagingName archive kind hvmid now, ?_⟩
  rintro a n hn rfl rfl
  obtain ⟨m, hm, hkind, -, hstamp, hcompression, -⟩ := (ArchiveName.Naming.supported hn).exists_name
  obtain rfl := Except.ok.inj (hn.symm.trans hm)
  rw [← hkind, ← hcompression]
  exact stagingName_render (hstamp ▸ a.moment.nameChars_stamp) (hstamp ▸ a.moment.dot_notMem_stamp)
    vmid now

/-- A tail in capitals behind letters of two bytes each, in a directory. -/
theorem stagingName_capitals :
    extensionByte? "/in/größe.VMA.ZST" .qemu = some 7 ∧
      ArchiveName.parse (stagingName "/in/größe.VMA.ZST" .qemu 300 ⟨0, 0, 0⟩) = .ok (.qemu, 300) ∧
      ∃ front back, CutAt "größe.VMA.ZST" 7 front back ∧
        stagingName "/in/größe.VMA.ZST" .qemu 300 ⟨0, 0, 0⟩ =
          "vzdump-qemu-300-" ++ Time.Moment.stamp ⟨0, 0, 0⟩ ++ back := by
  have hbyte : extensionByte? "/in/größe.VMA.ZST" .qemu = some 7 := by decide
  have hbase : basename "/in/größe.VMA.ZST" = "größe.VMA.ZST" := rfl
  have hcut : CutAt "größe.VMA.ZST" 7 "größe" ".VMA.ZST" := ⟨rfl, by decide, by decide⟩
  have htail : Kind.HasTail .qemu ".VMA.ZST".toList :=
    Or.inr ⟨"zst".toList, by decide, List.all_eq_true.mp (by decide), rfl⟩
  obtain ⟨⟨tail, hname, -, -, hfound⟩, -, hparse, -⟩ :=
    stagingName_canonical "/in/größe.VMA.ZST" .qemu (show 300 ≤ maxWord32 by decide) ⟨0, 0, 0⟩
  obtain ⟨front, back, hfront, hkept⟩ := hfound 7 hbyte
  rw [hbase] at hfront
  obtain rfl := hfront.back_eq hcut
  obtain ⟨-, rfl⟩ := hkept.resolve_right fun h => h.1 htail
  exact ⟨hbyte, hparse, front, _, hfront, hname⟩

end GuestVault
