import GuestVault.Proofs.Archive.Name
import GuestVault.Proofs.Text.Numeral

/-!
# The grammar of archive names

`ArchiveName.Spells` is the grammar of a base name: the word `vzdump`, an optional version tag, a
kind and an id between dashes, and any rest.

1. The base name is what follows the last slash (`baseChars_eq_iff`).
2. A shape is read from a base name exactly if the base name spells it (`shape?_eq_some_iff`), so no
   base name spells two (`Spells.unique`).
3. What is read from a name then follows from its numerals alone (`parse_by_grammar`): the version is
   judged before the id.
-/

namespace GuestVault

namespace Text

variable {s base : List Char}

/-- The part of a text after its last slash, or all of it if there is none. -/
def IsBase (s base : List Char) : Prop :=
  '/' ∉ base ∧ (s = base ∨ ∃ dir, s = dir ++ '/' :: base)

theorem isBase_baseChars (s : List Char) : IsBase s (baseChars s) := by
  refine ⟨slash_notMem_baseChars s, ?_⟩
  have hsplit := List.takeWhile_append_dropWhile (p := (· != '/')) (l := s.reverse)
  have hhead := List.head?_dropWhile_not (· != '/') s.reverse
  unfold baseChars
  rcases hrest : s.reverse.dropWhile (· != '/') with _ | ⟨c, r⟩
  · left
    rw [hrest, List.append_nil] at hsplit
    rw [hsplit, List.reverse_reverse]
  · right
    rw [hrest] at hhead hsplit
    obtain rfl : c = '/' := by simpa using hhead
    refine ⟨r.reverse, ?_⟩
    have h := congrArg List.reverse hsplit
    rw [List.reverse_reverse, List.reverse_append, List.reverse_cons, List.append_assoc] at h
    exact h.symm

/-- **The base name is what follows the last slash.** -/
theorem baseChars_eq_iff : baseChars s = base ↔ IsBase s base := by
  constructor
  · rintro rfl
    exact isBase_baseChars s
  · rintro ⟨hslash, rfl | ⟨dir, rfl⟩⟩
    · exact baseChars_of_notMem hslash
    · rw [baseChars_append_slash, baseChars_of_notMem hslash]

theorem toList_basename_eq_iff {name : String} :
    (basename name).toList = base ↔ IsBase name.toList base := by
  unfold basename
  rw [String.toList_ofList, baseChars_eq_iff]

end Text

namespace ArchiveName

open GuestVault.Text

variable {base rest rest' s : List Char} {shape shape' : Shape} {name : String}

/-! ## Shapes -/

/-- The version tag with the given digits, if any. -/
def versionTag : Option (List Char) → List Char
  | none => []
  | some digits => '-' :: 'v' :: digits

/-- The grammar of base names: `vzdump[-v<digits>]-<kind>-<digits>-<rest>`. -/
structure Spells (base : List Char) (shape : Shape) (rest : List Char) : Prop where
  chars : base = "vzdump".toList ++ (versionTag shape.version ++
    '-' :: (shape.kind.name.toList ++ '-' :: (shape.vmid ++ '-' :: rest)))
  version : ∀ digits ∈ shape.version, IsNumeral digits
  vmid : IsNumeral shape.vmid

/-- A version tag is taken off, or there is none. -/
theorem takeVersion_cases (s : List Char) :
    takeVersion s = (none, s) ∨
      ∃ digits r, takeVersion s = (some digits, r) ∧ IsNumeral digits ∧
        s = versionTag (some digits) ++ r := by
  unfold takeVersion
  cases hfront : dropFront? ['-', 'v'] s with
  | none => exact Or.inl rfl
  | some r =>
    have hs := dropFront?_eq_some_iff.mp hfront
    have hsplit := List.takeWhile_append_dropWhile (p := isDigit) (l := r)
    have hall := allDigits_takeWhile r
    dsimp only
    cases hdigits : r.takeWhile isDigit with
    | nil => exact Or.inl rfl
    | cons c digits =>
      refine Or.inr ⟨c :: digits, r.dropWhile isDigit, rfl, ?_, ?_⟩
      · exact isNumeral_iff.mpr ⟨List.cons_ne_nil c digits, hdigits ▸ hall⟩
      · rw [hdigits] at hsplit
        exact hs.trans (congrArg (['-', 'v'] ++ ·) hsplit.symm)

theorem takeVersion_versionTag {version : Option (List Char)}
    (hversion : ∀ digits ∈ version, IsNumeral digits) (kind : Kind) (r : List Char) :
    takeVersion (versionTag version ++ '-' :: (kind.name.toList ++ r)) =
      (version, '-' :: (kind.name.toList ++ r)) := by
  cases version with
  | none => exact takeVersion_tag false kind r
  | some digits =>
    obtain ⟨hne, hall⟩ := isNumeral_iff.mp (hversion digits rfl)
    have hends : EndsDigits ('-' :: (kind.name.toList ++ r)) := by
      rintro c t ⟨⟩
      rfl
    have htake : (digits ++ '-' :: (kind.name.toList ++ r)).takeWhile isDigit = digits :=
      takeWhile_digits hall hends
    have hdrop : (digits ++ '-' :: (kind.name.toList ++ r)).dropWhile isDigit =
        '-' :: (kind.name.toList ++ r) := dropWhile_digits hall hends
    obtain ⟨c, t, rfl⟩ := List.exists_cons_of_ne_nil hne
    have hfront : dropFront? ['-', 'v']
        (versionTag (some (c :: t)) ++ '-' :: (kind.name.toList ++ r)) =
          some (c :: t ++ '-' :: (kind.name.toList ++ r)) := rfl
    unfold takeVersion
    rw [hfront]
    dsimp only
    rw [htake, hdrop]

theorem eq_of_takeKind? {kind : Kind} {r : List Char} (h : takeKind? s = some (kind, r)) :
    s = '-' :: (kind.name.toList ++ '-' :: r) := by
  unfold takeKind? at h
  split at h
  · rename_i hqemu
    obtain ⟨rfl, rfl⟩ := Prod.mk.inj (Option.some.inj h)
    exact dropFront?_eq_some_iff.mp hqemu
  · obtain ⟨r', hlxc, hr⟩ := Option.map_eq_some_iff.mp h
    obtain ⟨rfl, rfl⟩ := Prod.mk.inj hr
    exact dropFront?_eq_some_iff.mp hlxc

theorem exists_spells_of_shape? (h : shape? base = some shape) :
    ∃ rest, Spells base shape rest := by
  unfold shape? at h
  obtain ⟨s, hword, h⟩ := Option.bind_eq_some_iff.mp h
  have hbase := dropFront?_eq_some_iff.mp hword
  have hversion := takeVersion_cases s
  rcases htake : takeVersion s with ⟨version, s'⟩
  rw [htake] at h hversion
  obtain ⟨⟨kind, r⟩, hkind, h⟩ := Option.bind_eq_some_iff.mp h
  have hs' := eq_of_takeKind? hkind
  have hsplit := List.takeWhile_append_dropWhile (p := isDigit) (l := r)
  have hall := allDigits_takeWhile r
  dsimp only at h
  split at h
  · rename_i c digits rest hdigits hrest
    cases h
    rw [hdigits, hrest] at hsplit
    rw [← hsplit] at hs'
    have hnumeral : IsNumeral (c :: digits) :=
      isNumeral_iff.mpr ⟨List.cons_ne_nil c digits, hdigits ▸ hall⟩
    refine ⟨rest, ?_, ?_, hnumeral⟩
    · rw [hbase]
      rcases hversion with hnone | ⟨_, _, hsome, -, rfl⟩
      · obtain ⟨rfl, rfl⟩ := Prod.mk.inj hnone
        rw [hs']
        rfl
      · obtain ⟨rfl, rfl⟩ := Prod.mk.inj hsome
        rw [hs']
    · rintro found ⟨⟩
      rcases hversion with hnone | ⟨_, _, hsome, hnumeral, -⟩
      · cases hnone
      · cases hsome
        exact hnumeral
  · cases h

theorem Spells.shape?_eq (h : Spells base shape rest) : shape? base = some shape := by
  obtain ⟨version, kind, vmid⟩ := shape
  obtain ⟨hchars, hversion, hvmid⟩ := h
  obtain ⟨hne, hall⟩ := isNumeral_iff.mp hvmid
  have hends : EndsDigits ('-' :: rest) := by
    rintro c t ⟨⟩
    rfl
  have htake : (vmid ++ '-' :: rest).takeWhile isDigit = vmid := takeWhile_digits hall hends
  have hdrop : (vmid ++ '-' :: rest).dropWhile isDigit = '-' :: rest := dropWhile_digits hall hends
  obtain ⟨c, digits, rfl⟩ := List.exists_cons_of_ne_nil hne
  rw [hchars]
  unfold shape?
  simp only [dropFront?_append, takeVersion_versionTag hversion, takeKind?_name,
    Option.bind_eq_bind, Option.bind_some]
  rw [htake, hdrop]
  rfl

/-- **A shape is read exactly from the base names that spell it.** -/
theorem shape?_eq_some_iff : shape? base = some shape ↔ ∃ rest, Spells base shape rest :=
  ⟨exists_spells_of_shape?, fun ⟨_, h⟩ => h.shape?_eq⟩

/-- **No base name spells two things.** -/
theorem Spells.unique (h : Spells base shape rest) (h' : Spells base shape' rest') :
    shape = shape' ∧ rest = rest' := by
  obtain rfl : shape = shape' := Option.some.inj (h.shape?_eq.symm.trans h'.shape?_eq)
  have hchars := h.chars.symm.trans h'.chars
  simp only [List.append_cancel_left_eq, List.cons.injEq, true_and] at hchars
  exact ⟨rfl, hchars⟩

/-! ## Names -/

/-- The base name of a name spells the given version, if any, kind and id. -/
def Says (name : String) (version : Option Nat) (kind : Kind) (vmid : Nat) : Prop :=
  ∃ base shape rest, IsBase name.toList base ∧ Spells base shape rest ∧
    shape.version.map numeralValue = version ∧ shape.kind = kind ∧ numeralValue shape.vmid = vmid

/-- The name is one of an archive of the given guest: its version is 1 if it has one, and the id is
a 32-bit number. -/
def Accepted (name : String) (kind : Kind) (vmid : Nat) : Prop :=
  ∃ version, Says name version kind vmid ∧ (∀ v ∈ version, v = 1) ∧ vmid ≤ maxWord32

/-- The name is one of an archive of another version, whatever its id is; the version is a 64-bit
number. -/
def OfOtherVersion (name : String) (v : Nat) : Prop :=
  (∃ kind vmid, Says name (some v) kind vmid) ∧ v ≠ 1 ∧ v ≤ maxWord64

variable {version version' : Option Nat} {kind : Kind} {vmid : Nat}

theorem parse_of_said (h : Says name version kind vmid) :
    parse name = (do
      match version with
      | none => pure ()
      | some v =>
        if v ≤ maxWord64 then checkVersion v
        else .error (.parse ("invalid vzdump filename version: " ++ basename name))
      if vmid ≤ maxWord32 then .ok (kind, vmid)
      else .error (.parse ("invalid vmid in filename: " ++ basename name))) := by
  obtain ⟨base, shape, rest, hbase, hspells, hversion, rfl, rfl⟩ := h
  have hshape : shape? (basename name).toList = some shape := by
    rw [toList_basename_eq_iff.mpr hbase]
    exact hspells.shape?_eq
  unfold parse
  dsimp only
  rw [hshape, ← hspells.vmid.digitsValue_eq]
  dsimp only
  cases hdigits : shape.version with
  | none =>
    obtain rfl : none = version := by rw [← hversion, hdigits]; rfl
    rfl
  | some digits =>
    obtain rfl : some (numeralValue digits) = version := by rw [← hversion, hdigits]; rfl
    rw [← (hspells.version digits hdigits).digitsValue_eq]

theorem parse_of_unsaid (h : ∀ version kind vmid, ¬ Says name version kind vmid) :
    parse name = .error (.parse ("invalid vzdump filename: " ++ basename name)) := by
  have hshape : shape? (basename name).toList = none := by
    refine Option.eq_none_iff_forall_ne_some.mpr fun shape hshape => ?_
    obtain ⟨rest, hspells⟩ := shape?_eq_some_iff.mp hshape
    exact h _ _ _ ⟨_, shape, rest, toList_basename_eq_iff.mp rfl, hspells, rfl, rfl, rfl⟩
  unfold parse
  dsimp only
  rw [hshape]

theorem parse_of_accepted (h : Accepted name kind vmid) : parse name = .ok (kind, vmid) := by
  obtain ⟨version, hsays, hone, hvmid⟩ := h
  rw [parse_of_said hsays, if_pos hvmid]
  cases version with
  | none => rfl
  | some v =>
    obtain rfl := hone v rfl
    rfl

theorem parse_of_otherVersion {v : Nat} (h : OfOtherVersion name v) :
    parse name = .error (.unsupportedVersion .archiveName v) := by
  obtain ⟨⟨kind, vmid, hsays⟩, hother, hv⟩ := h
  rw [parse_of_said hsays]
  dsimp only
  rw [if_pos hv, checkVersion, if_neg (show v ≠ ArchiveName.version from hother)]
  rfl

/-- The three ways in which reading a name can go. -/
theorem parse_cases (name : String) :
    (∃ kind vmid, parse name = .ok (kind, vmid) ∧ Accepted name kind vmid) ∨
      (∃ v, parse name = .error (.unsupportedVersion .archiveName v) ∧ OfOtherVersion name v) ∨
      ∃ text, parse name = .error (.parse text) := by
  by_cases hnone : ∀ version kind vmid, ¬ Says name version kind vmid
  · exact Or.inr (Or.inr ⟨_, parse_of_unsaid hnone⟩)
  simp only [not_forall, not_not] at hnone
  obtain ⟨version, kind, vmid, hsays⟩ := hnone
  -- the version is judged before the id
  by_cases hhuge : ∃ v ∈ version, maxWord64 < v
  · obtain ⟨v, rfl, hv⟩ := hhuge
    refine Or.inr (Or.inr ⟨"invalid vzdump filename version: " ++ basename name, ?_⟩)
    rw [parse_of_said hsays]
    dsimp only
    rw [if_neg (Nat.not_le_of_lt hv)]
    rfl
  by_cases hother : ∃ v ∈ version, v ≠ 1
  · obtain ⟨v, rfl, hv⟩ := hother
    have hof : OfOtherVersion name v :=
      ⟨⟨kind, vmid, hsays⟩, hv, Nat.le_of_not_lt fun hlt => hhuge ⟨v, rfl, hlt⟩⟩
    exact Or.inr (Or.inl ⟨v, parse_of_otherVersion hof, hof⟩)
  have hone : ∀ v ∈ version, v = 1 := fun v hv => Decidable.by_contra fun hne => hother ⟨v, hv, hne⟩
  by_cases hvmid : vmid ≤ maxWord32
  · have haccepted : Accepted name kind vmid := ⟨version, hsays, hone, hvmid⟩
    exact Or.inl ⟨kind, vmid, parse_of_accepted haccepted, haccepted⟩
  · refine Or.inr (Or.inr ⟨"invalid vmid in filename: " ++ basename name, ?_⟩)
    rw [parse_of_said hsays, if_neg hvmid]
    cases version with
    | none => rfl
    | some v =>
      obtain rfl := hone v rfl
      rfl

theorem parse_eq_ok_iff : parse name = .ok (kind, vmid) ↔ Accepted name kind vmid := by
  refine ⟨fun h => ?_, parse_of_accepted⟩
  rcases parse_cases name with ⟨kind', vmid', hparse, haccepted⟩ | ⟨v, hparse, -⟩ | ⟨text, hparse⟩
  · rw [h] at hparse
    cases hparse
    exact haccepted
  · rw [h] at hparse
    cases hparse
  · rw [h] at hparse
    cases hparse

theorem parse_eq_otherVersion_iff {v : Nat} :
    parse name = .error (.unsupportedVersion .archiveName v) ↔ OfOtherVersion name v := by
  refine ⟨fun h => ?_, parse_of_otherVersion⟩
  rcases parse_cases name with ⟨kind', vmid', hparse, -⟩ | ⟨v', hparse, hof⟩ | ⟨text, hparse⟩
  · rw [h] at hparse
    cases hparse
  · rw [h] at hparse
    cases hparse
    exact hof
  · rw [h] at hparse
    cases hparse

/-- **Reading a name accepts exactly the grammar.** A name has one base name, and that spells one
thing at most. Kind and id are read if the version is 1 or absent and the id is a 32-bit number;
another version is reported as such, whatever the id is, if it is a 64-bit number; everything else
is malformed. -/
theorem parse_by_grammar (name : String) :
    (∃! base, IsBase name.toList base) ∧
      (∀ base shape rest shape' rest', Spells base shape rest → Spells base shape' rest' →
        shape = shape' ∧ rest = rest') ∧
      (∀ kind vmid, parse name = .ok (kind, vmid) ↔ Accepted name kind vmid) ∧
      (∀ v, parse name = .error (.unsupportedVersion .archiveName v) ↔ OfOtherVersion name v) ∧
      ((∃ text, parse name = .error (.parse text)) ↔
        (∀ kind vmid, ¬ Accepted name kind vmid) ∧ ∀ v, ¬ OfOtherVersion name v) := by
  refine ⟨⟨baseChars name.toList, isBase_baseChars _, fun base h => (baseChars_eq_iff.mpr h).symm⟩,
    fun _ _ _ _ _ => Spells.unique, fun _ _ => parse_eq_ok_iff,
    fun _ => parse_eq_otherVersion_iff, ?_, ?_⟩
  · rintro ⟨text, hparse⟩
    refine ⟨fun kind vmid h => ?_, fun v h => ?_⟩
    · rw [parse_of_accepted h] at hparse
      cases hparse
    · rw [parse_of_otherVersion h] at hparse
      cases hparse
  · rintro ⟨hnone, hother⟩
    rcases parse_cases name with ⟨kind, vmid, -, h⟩ | ⟨v, -, h⟩ | htext
    · exact absurd h (hnone kind vmid)
    · exact absurd h (hother v)
    · exact htext

end ArchiveName

end GuestVault
