import GuestVault.Proofs.Archive.Staging
import Mathlib.Data.List.Infix

/-!
# The longest tail of a name

A name can read like the extension at several places (`Kind.Opens`) and have several tails, of which
the longest is the one to recognise (`Kind.recognised`). Staging looks at the first place only.

1. `find?_tails_eq_some_iff`: the first rest of a text that has a property is the longest one.
2. `suffix_stagingName_iff`: a staging name has no extension but in the tail that is kept.
3. `keptTail_cases`: staging keeps the tail to recognise if nothing before it reads like the extension,
   and the bare extension otherwise.
4. `recognised_kept_iff`: when a staging name ends with the tail to recognise.
-/

namespace GuestVault

open GuestVault.Text

variable {s front tail : List Char} {kind : Kind}

/-! ## Rests of a text -/

/-- The rests of a text are tried from the longest on. -/
theorem find?_tails_eq_some_iff (p : List Char → Bool) : s.tails.find? p = some tail ↔
    tail <:+ s ∧ p tail ∧ ∀ other, other <:+ s → p other → other <:+ tail := by
  induction s with
  | nil =>
    have htails : ([] : List Char).tails = [[]] := rfl
    rw [htails]
    by_cases h : p [] = true
    · rw [List.find?_cons_of_pos h]
      grind
    · rw [List.find?_cons_of_neg h]
      grind
  | cons c s ih =>
    rw [List.tails_cons]
    by_cases h : p (c :: s) = true
    · rw [List.find?_cons_of_pos h, Option.some.injEq]
      constructor
      · rintro rfl
        exact ⟨List.suffix_rfl, h, fun other hother _ => hother⟩
      · rintro ⟨htail, -, hall⟩
        exact (hall _ List.suffix_rfl h).eq_of_length_le htail.length_le
    · have hrest {t : List Char} (ht : p t = true) : t <:+ c :: s ↔ t <:+ s := by
        rw [List.suffix_cons_iff]
        refine or_iff_right ?_
        rintro rfl
        exact h ht
      have hall : (∀ other, other <:+ s → p other = true → other <:+ tail) ↔
          ∀ other, other <:+ c :: s → p other = true → other <:+ tail :=
        forall_congr' fun other =>
          ⟨fun hs hlong hp => hs ((hrest hp).mp hlong) hp,
            fun hs hshort hp => hs ((hrest hp).mpr hshort) hp⟩
      rw [List.find?_cons_of_neg h, ih, hall]
      exact and_congr_left fun hp => (hrest hp.1).symm

/-- A rest that begins with a point does not begin in a front without points. -/
theorem suffix_append_iff_of_dot {r : List Char} (hfront : '.' ∉ front) :
    '.' :: r <:+ front ++ tail ↔ '.' :: r <:+ tail := by
  refine ⟨?_, fun h => h.trans (List.suffix_append front tail)⟩
  rintro ⟨before, h⟩
  rcases List.append_eq_append_iff.mp h with ⟨mid, hmid, hrest⟩ | ⟨mid, -, hrest⟩
  · cases mid with
    | nil => exact ⟨[], hrest⟩
    | cons c mid =>
      obtain ⟨rfl, -⟩ := List.cons.inj hrest
      exact absurd (hmid ▸ List.mem_append_right _ List.mem_cons_self) hfront
  · exact ⟨mid, hrest.symm⟩

/-! ## Places of the extension -/

namespace Kind

/-- In lower case, the text begins with the extension of the kind. -/
def Opens (kind : Kind) (s : List Char) : Prop :=
  '.' :: kind.extension.toList <+: s.map Char.toLower

instance : Decidable (kind.Opens s) :=
  inferInstanceAs (Decidable (_ <+: _))

theorem HasTail.opens (h : kind.HasTail tail) : kind.Opens tail := by
  rcases h with h | ⟨suffix, -, -, h⟩
  · exact ⟨[], by rw [h, List.append_nil]⟩
  · exact ⟨'.' :: suffix, by rw [h, List.cons_append]⟩

theorem hasTail_iff_opens :
    kind.HasTail tail ↔ kind.Opens tail ∧ isArchiveTail (tail.map Char.toLower) = true := by
  constructor
  · intro h
    exact ⟨h.opens, (hasTail_iff (List.isPrefixOf_iff_prefix.mpr h.opens)).mp h⟩
  · rintro ⟨hopens, h⟩
    exact (hasTail_iff (List.isPrefixOf_iff_prefix.mpr hopens)).mpr h

instance : Decidable (kind.HasTail tail) :=
  decidable_of_iff _ hasTail_iff_opens.symm

theorem Opens.exists_eq_cons (h : kind.Opens s) : ∃ r, s = '.' :: r := by
  cases s with
  | nil => exact absurd (List.prefix_nil.mp h) (List.cons_ne_nil _ _)
  | cons c s =>
    have hfirst : '.' = c.toLower := (List.cons_prefix_cons.mp h).1
    exact ⟨s, by rw [eq_dot_of_toLower hfirst.symm]⟩

theorem Opens.length_ge (h : kind.Opens s) : ('.' :: kind.extension.toList).length ≤ s.length := by
  have hlength := h.length_le
  rwa [List.length_map] at hlength

/-- The tail of a name to recognise: the longest one, or the bare extension if it has none. -/
def recognised (kind : Kind) (s : List Char) : List Char :=
  (s.tails.find? (kind.HasTail ·)).getD ('.' :: kind.extension.toList)

theorem recognised_spec (kind : Kind) (s : List Char) :
    (kind.recognised s = '.' :: kind.extension.toList ∧ ∀ tail, tail <:+ s → ¬ kind.HasTail tail) ∨
      kind.recognised s <:+ s ∧ kind.HasTail (kind.recognised s) ∧
        ∀ tail, tail <:+ s → kind.HasTail tail → tail <:+ kind.recognised s := by
  unfold recognised
  cases h : s.tails.find? (kind.HasTail ·) with
  | none =>
    rw [List.find?_eq_none] at h
    exact Or.inl ⟨rfl, fun tail htail => by simpa using h tail ((List.mem_tails _ _).mpr htail)⟩
  | some tail =>
    right
    simpa using (find?_tails_eq_some_iff _).mp h

/-- No place before the tail to recognise reads like the extension. -/
def Undisturbed (kind : Kind) (s : List Char) : Prop :=
  ∀ other, other <:+ s → kind.Opens other → other <:+ kind.recognised s

theorem hasTail_recognised (kind : Kind) (s : List Char) : kind.HasTail (kind.recognised s) := by
  rcases kind.recognised_spec s with ⟨h, -⟩ | ⟨-, h, -⟩
  · rw [h, ← toList_dot_extension]
    exact kind.hasTail_extension
  · exact h

/-- If the longest rest that begins with the extension ends the tail to recognise, it is that tail. -/
theorem eq_of_suffix_recognised (hall : ∀ other, other <:+ s → kind.Opens other → other <:+ tail)
    (hopens : kind.Opens tail) (h : tail <:+ kind.recognised s) : tail = kind.recognised s := by
  refine h.eq_of_length_le ?_
  rcases kind.recognised_spec s with ⟨hbare, -⟩ | ⟨hsuffix, hlongest, -⟩
  · rw [hbare]
    exact hopens.length_ge
  · exact (hall _ hsuffix hlongest.opens).length_le

end Kind

/-! ## Names that are staged -/

theorem tailFrom?_eq_find? : tailFrom? ('.' :: kind.extension.toList) s =
    s.tails.find? (kind.Opens ·) := by
  induction s with
  | nil => rfl
  | cons c s ih =>
    rw [List.tails_cons, tailFrom?, ih]
    by_cases h : kind.Opens (c :: s)
    · rw [if_pos (List.isPrefixOf_iff_prefix.mpr h), List.find?_cons_of_pos (by simpa using h)]
    · rw [if_neg (mt List.isPrefixOf_iff_prefix.mp h), List.find?_cons_of_neg (by simpa using h)]

theorem suffix_stagingName_iff (archive : String) (vmid : Nat) (now : Time.Moment)
    (htail : kind.Opens tail) : tail <:+ (stagingName archive kind vmid now).toList ↔
      tail <:+ (keptTail archive kind).toList := by
  obtain ⟨r, rfl⟩ := htail.exists_eq_cons
  have hfront : '.' ∉ "vzdump".toList ++ '-' :: (kind.name.toList ++ '-' :: ((toString vmid).toList ++
      '-' :: now.stamp.toList)) := by
    have hname : '.' ∉ kind.name.toList := by cases kind <;> decide
    simp only [List.mem_append, List.mem_cons, not_or]
    exact ⟨by decide, by decide, hname, by decide, (allDigits_toString vmid).dot_notMem, by decide,
      now.dot_notMem_stamp⟩
  refine Iff.trans ?_ (suffix_append_iff_of_dot hfront)
  rw [toList_stagingName]
  simp only [List.append_assoc, List.cons_append, List.nil_append]

/-- **Staging keeps the tail to recognise** if no place before it reads like the extension, and the bare
extension otherwise. -/
theorem keptTail_cases (archive : String) (kind : Kind) :
    (kind.Undisturbed (baseChars archive.toList) ∧
      (keptTail archive kind).toList = kind.recognised (baseChars archive.toList)) ∨
    (¬ kind.Undisturbed (baseChars archive.toList) ∧
      (keptTail archive kind).toList = '.' :: kind.extension.toList) := by
  generalize hbase : baseChars archive.toList = base
  cases hfound : tailFrom? ('.' :: kind.extension.toList) base with
  | none =>
    rw [keptTail_of_none (hbase ▸ hfound), toList_dot_extension]
    rw [tailFrom?_eq_find?, List.find?_eq_none] at hfound
    have hnone (tail : List Char) (htail : tail <:+ base) : ¬ kind.Opens tail := by
      simpa using hfound tail ((List.mem_tails _ _).mpr htail)
    rcases kind.recognised_spec base with ⟨hbare, -⟩ | ⟨hsuffix, htail, -⟩
    · exact Or.inl ⟨fun other hother ho => absurd ho (hnone other hother), hbare.symm⟩
    · exact absurd htail.opens (hnone _ hsuffix)
  | some first =>
    obtain ⟨hfirst, hopens, hall⟩ := (find?_tails_eq_some_iff _).mp (tailFrom?_eq_find? ▸ hfound)
    simp only [decide_eq_true_eq] at hopens hall
    rcases keptTail_of_some (hbase ▸ hfound) with ⟨htail, hkept⟩ | ⟨hno, hkept⟩
    · -- The first place is that of a tail, so it is that of the longest one.
      have hsame : first = kind.recognised base := by
        rcases kind.recognised_spec base with ⟨-, hnone⟩ | ⟨hsuffix, hlongest, hmost⟩
        · exact absurd htail (hnone first hfirst)
        · exact (hmost first hfirst htail).eq_of_length_le
            (hall _ hsuffix hlongest.opens).length_le
      refine Or.inl ⟨fun other hother ho => hsame ▸ hall other hother ho, ?_⟩
      rw [hkept, String.toList_ofList, hsame]
    · refine Or.inr ⟨fun hsole => hno ?_, by rw [hkept, toList_dot_extension]⟩
      -- A tail that begins no earlier than the first place would begin there.
      rw [Kind.eq_of_suffix_recognised hall hopens (hsole first hfirst hopens)]
      exact kind.hasTail_recognised base

/-- **When the longest tail survives.** A staging name ends with the tail that is to be recognised in
the name of the archive exactly if this is the bare extension, or if no place before it reads like the
extension. -/
theorem recognised_kept_iff (archive : String) (kind : Kind) (vmid : Nat) (now : Time.Moment) :
    kind.recognised (baseChars archive.toList) <:+ (stagingName archive kind vmid now).toList ↔
      kind.recognised (baseChars archive.toList) = '.' :: kind.extension.toList ∨
        kind.Undisturbed (baseChars archive.toList) := by
  have htail := kind.hasTail_recognised (baseChars archive.toList)
  rw [suffix_stagingName_iff archive vmid now htail.opens]
  rcases keptTail_cases archive kind with ⟨hsole, hkept⟩ | ⟨hnot, hkept⟩
  · rw [hkept]
    exact iff_of_true List.suffix_rfl (Or.inr hsole)
  · rw [hkept, or_iff_left hnot]
    constructor
    · intro h
      exact h.eq_of_length_le htail.opens.length_ge
    · intro h
      rw [h]

/-- The host name before a tail begins like the extension. -/
theorem compression_lost_behind_vmail :
    Kind.recognised .qemu (baseChars "mx.vmail.lan.vma.zst".toList) = ".vma.zst".toList ∧
      stagingName "mx.vmail.lan.vma.zst" .qemu 1 ⟨0, 0, 0⟩ =
        "vzdump-qemu-1-1970_01_01-00_00_00.vma" ∧
      ¬ Kind.recognised .qemu (baseChars "mx.vmail.lan.vma.zst".toList) <:+
        (stagingName "mx.vmail.lan.vma.zst" .qemu 1 ⟨0, 0, 0⟩).toList := by
  decide +kernel

end GuestVault
