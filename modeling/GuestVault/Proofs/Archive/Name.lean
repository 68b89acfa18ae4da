import GuestVault.Archive.Name
import GuestVault.Archive.Sidecar
import GuestVault.Proofs.Text.Digits
import GuestVault.Proofs.Time.Rfc3339

/-!
# Archive names read back

The name of an archive says its kind and id again (`parse_render`), so archives of different ids
have different names. It is made of a few characters only (`nameChar`) and is short enough for any
directory, also inside the name of a sidecar (`length_render_le`).
-/

namespace GuestVault

open GuestVault.Text

/-! ## The characters of a name -/

/-- The characters that names of archives are made of. -/
def nameChar (c : Char) : Bool :=
  (digit? c).isSome || ('a' ≤ c && c ≤ 'z') || c == '-' || c == '_' || c == '.'

/-- A text is made of such characters. -/
def NameChars (s : List Char) : Prop :=
  ∀ c ∈ s, nameChar c = true

variable {s t : List Char}

instance : Decidable (NameChars s) :=
  decidable_of_iff (s.all nameChar = true) List.all_eq_true

theorem NameChars.append (hs : NameChars s) (ht : NameChars t) : NameChars (s ++ t) :=
  List.forall_mem_append.mpr ⟨hs, ht⟩

theorem NameChars.of_allDigits (hs : AllDigits s) : NameChars s := by
  intro c hc
  unfold nameChar
  rw [hs c hc]
  rfl

theorem NameChars.slash_notMem (hs : NameChars s) : '/' ∉ s :=
  fun h => absurd (hs '/' h) (by decide)

theorem NameChars.nul_notMem (hs : NameChars s) : '\x00' ∉ s :=
  fun h => absurd (hs '\x00' h) (by decide)

theorem NameChars.toNat_lt (hs : NameChars s) {c : Char} (hc : c ∈ s) : c.toNat < 128 := by
  have h := hs c hc
  unfold nameChar at h
  simp only [Bool.or_eq_true, Bool.and_eq_true, decide_eq_true_eq, beq_iff_eq] at h
  rcases h with (((hdigit | ⟨-, hz⟩) | rfl) | rfl) | rfl
  · have hbounds := toNat_bounds_of_digit hdigit
    omega
  · have hz' : c.toNat ≤ 122 := hz
    omega
  · decide
  · decide
  · decide

theorem nameChars_padNat (places n : Nat) : NameChars (padNat places n).toList :=
  .of_allDigits (allDigits_padNat places n)

theorem nameChars_padInt (places : Nat) (n : Int) : NameChars (padInt places n).toList := by
  unfold padInt
  split
  · rw [String.toList_append]
    exact NameChars.append (by decide) (nameChars_padNat _ _)
  · exact nameChars_padNat _ _

theorem Time.Moment.nameChars_stamp (m : Time.Moment) : NameChars m.stamp.toList := by
  have hlow : NameChars "_".toList := by decide
  have hdash : NameChars "-".toList := by decide
  unfold stamp
  simp only [String.toList_append]
  exact ((((((((((nameChars_padInt _ _).append hlow).append (nameChars_padNat _ _)).append
    hlow).append (nameChars_padNat _ _)).append hdash).append (nameChars_padNat _ _)).append
    hlow).append (nameChars_padNat _ _)).append hlow).append (nameChars_padNat _ _)

theorem Time.Moment.length_stamp {m : Time.Moment} (hyear : 0 ≤ m.date.year ∧ m.date.year ≤ 9999) :
    m.stamp.toList.length = 19 := by
  have hbounds := Time.Date.le_of_isValid (Time.isValid_ofDays (m.localSecond / 86400))
  have hclock := m.clock_le
  have htwo {n : Nat} (hn : n < 100) : (padNat 2 n).toList.length = 2 :=
    length_padNat (by decide) hn
  have hmonth : m.date.month < 100 := Nat.lt_of_le_of_lt hbounds.1 (by decide)
  have hday : m.date.day < 100 := Nat.lt_of_le_of_lt hbounds.2 (by decide)
  have hfour : (padNat 4 m.date.year.natAbs).toList.length = 4 :=
    length_padNat (by decide) (by omega)
  unfold stamp
  simp only [String.toList_append, List.length_append, padInt_of_nonneg hyear.1, hfour, htwo hmonth,
    htwo hday, htwo (show m.hour < 100 by omega), htwo (show m.minute < 100 by omega),
    htwo (show m.second < 100 by omega)]
  rfl

namespace ArchiveName

/-! ## Reading a name -/

/-- The version tag of a name. -/
def tag (tagged : Bool) : List Char :=
  if tagged then ['-', 'v', '1'] else []

/-- What follows the id in a name. -/
def rest (n : ArchiveName) : List Char :=
  n.stamp.toList ++ '.' :: (n.kind.extension.toList ++ n.compression.suffix.toList)

theorem toList_render (n : ArchiveName) :
    n.render.toList = "vzdump".toList ++ (tag n.tagged ++ ('-' :: (n.kind.name.toList ++ '-' ::
      ((toString n.vmid).toList ++ '-' :: n.rest)))) := by
  have hdash : "-".toList = ['-'] := rfl
  have hdot : ".".toList = ['.'] := rfl
  have htag : (if n.tagged then "-v" ++ toString version else "").toList = tag n.tagged := by
    cases n.tagged with
    | false => rfl
    | true => rfl
  unfold render rest
  simp only [String.toList_append, htag, hdash, hdot, List.append_assoc, List.cons_append,
    List.nil_append]

theorem takeVersion_tag (tagged : Bool) (kind : Kind) (r : List Char) :
    takeVersion (tag tagged ++ '-' :: (kind.name.toList ++ r)) =
      (if tagged then some ['1'] else none, '-' :: (kind.name.toList ++ r)) := by
  cases tagged with
  | true => rfl
  | false =>
    cases kind with
    | qemu => rfl
    | lxc => rfl

theorem takeKind?_name (kind : Kind) (r : List Char) :
    takeKind? ('-' :: (kind.name.toList ++ '-' :: r)) = some (kind, r) := by
  cases kind with
  | qemu => rfl
  | lxc => rfl

theorem shape?_render (n : ArchiveName) :
    shape? n.render.toList =
      some { version := if n.tagged then some ['1'] else none, kind := n.kind
             vmid := (toString n.vmid).toList } := by
  have hends : EndsDigits ('-' :: n.rest) := by
    rintro c t h
    cases h
    rfl
  have htake : ((toString n.vmid).toList ++ '-' :: n.rest).takeWhile isDigit =
      (toString n.vmid).toList := takeWhile_digits (allDigits_toString n.vmid) hends
  have hdrop : ((toString n.vmid).toList ++ '-' :: n.rest).dropWhile isDigit = '-' :: n.rest :=
    dropWhile_digits (allDigits_toString n.vmid) hends
  obtain ⟨c, digits, hdigits⟩ := List.exists_cons_of_ne_nil (toString_ne_nil n.vmid)
  rw [hdigits] at htake hdrop
  rw [toList_render, hdigits]
  unfold shape?
  simp only [dropFront?_append, takeVersion_tag, takeKind?_name, Option.bind_eq_bind,
    Option.bind_some]
  rw [htake, hdrop]
  rfl

theorem nameChars_render {n : ArchiveName} (hstamp : NameChars n.stamp.toList) :
    NameChars n.render.toList := by
  have hkind : NameChars n.kind.name.toList ∧ NameChars n.kind.extension.toList := by
    cases n.kind <;> decide
  have hsuffix : NameChars n.compression.suffix.toList := by
    cases n.compression <;> decide
  have htag : NameChars (tag n.tagged) := by
    cases n.tagged <;> decide
  have hcons {c : Char} {s : List Char} (hc : nameChar c = true) (hs : NameChars s) :
      NameChars (c :: s) := List.forall_mem_cons.mpr ⟨hc, hs⟩
  rw [toList_render]
  unfold rest
  refine .append (by decide) (htag.append (hcons (by decide) (hkind.1.append (hcons (by decide) ?_))))
  refine .append (.of_allDigits (allDigits_toString n.vmid)) (hcons (by decide) ?_)
  exact hstamp.append (hcons (by decide) (hkind.2.append hsuffix))

/-- **A name says its kind and id again.** -/
theorem parse_render {n : ArchiveName} (hstamp : NameChars n.stamp.toList)
    (hvmid : n.vmid ≤ maxWord32) : parse n.render = .ok (n.kind, n.vmid) := by
  have hbase : (basename n.render).toList = n.render.toList := by
    unfold basename
    rw [String.toList_ofList, baseChars_of_notMem (nameChars_render hstamp).slash_notMem]
  have hone : checkVersion (digitsValue ['1']) = .ok () := by decide
  unfold parse
  simp only [hbase, shape?_render, digitsValue_toString, if_pos hvmid]
  cases n.tagged with
  | false => rfl
  | true => rfl

theorem vmid_eq_of_render_eq {n m : ArchiveName} (h : n.render = m.render) : n.vmid = m.vmid := by
  have hshape := shape?_render n
  rw [h, shape?_render m] at hshape
  have hdigits := congrArg (fun s => digitsValue s.vmid) (Option.some.inj hshape)
  dsimp only at hdigits
  rw [digitsValue_toString, digitsValue_toString] at hdigits
  exact hdigits.symm

theorem length_render_le {n : ArchiveName} (hstamp : n.stamp.toList.length ≤ 19)
    (hvmid : n.vmid ≤ maxWord32) : n.render.toList.length ≤ 53 := by
  have hdigits : (toString n.vmid).toList.length ≤ 10 := by
    rw [toList_toString]
    exact (Nat.length_toDigits_le_iff (by decide) (by decide)).mpr
      (Nat.lt_of_le_of_lt hvmid (by decide))
  have hkind : n.kind.name.toList.length ≤ 4 ∧ n.kind.extension.toList.length = 3 := by
    cases n.kind <;> decide
  have hsuffix : n.compression.suffix.toList.length ≤ 4 := by
    cases n.compression <;> decide
  have htag : (tag n.tagged).length ≤ 3 := by
    cases n.tagged <;> decide
  have hfront : "vzdump".toList.length = 6 := rfl
  rw [toList_render]
  unfold rest
  simp only [List.length_append, List.length_cons, hfront]
  omega

end ArchiveName

end GuestVault
