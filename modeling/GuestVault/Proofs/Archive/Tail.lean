import GuestVault.Archive.Staging
import GuestVault.Proofs.Text.Encoded

/-!
# The tail of a name, found by bytes

`tailFrom?` looks for an extension character by character. The same place is found if the bytes of
the extension are looked for in the bytes of the name in lower case (`firstIndex?_eq_some`,
`firstIndex?_eq_none`), because an extension of ASCII cannot begin inside a character. Lower case
keeps every character's number of bytes, so that place lies between two characters of the name
itself.
-/

namespace GuestVault

namespace Text

variable {s t ext front tail : List Char}

/-! ## Lower case -/

theorem toNat_toLower (c : Char) :
    c.toLower.toNat = if 65 ≤ c.toNat ∧ c.toNat ≤ 90 then c.toNat + 32 else c.toNat := by
  have hrange : (c.val ≥ 'A'.val ∧ c.val ≤ 'Z'.val) ↔ 65 ≤ c.toNat ∧ c.toNat ≤ 90 := Iff.rfl
  unfold Char.toLower
  by_cases h : 65 ≤ c.toNat ∧ c.toNat ≤ 90
  · rw [dif_pos (hrange.mpr h), if_pos h]
    show (c.val + 32).toNat = c.toNat + 32
    have hval : c.val.toNat = c.toNat := rfl
    rw [UInt32.toNat_add, hval]
    exact Nat.mod_eq_of_lt (by have := h.2; show c.toNat + 32 < 4294967296; omega)
  · rw [dif_neg fun hc => h (hrange.mp hc), if_neg h]

theorem length_utf8Code_toLower (c : Char) :
    (utf8Code c.toLower.toNat).length = (utf8Code c.toNat).length := by
  rw [toNat_toLower]
  split
  · unfold utf8Code
    rw [if_pos (by omega), if_pos (by omega)]
    rfl
  · rfl

/-! ## Bytes of characters -/

/-- The bytes of some characters. -/
def charBytes (s : List Char) : Bytes :=
  s.flatMap fun c => utf8Code c.toNat

theorem charBytes_cons (c : Char) (s : List Char) :
    charBytes (c :: s) = utf8Code c.toNat ++ charBytes s :=
  List.flatMap_cons

theorem charBytes_append (s t : List Char) : charBytes (s ++ t) = charBytes s ++ charBytes t :=
  List.flatMap_append

theorem length_charBytes_toLower (s : List Char) :
    (charBytes (s.map Char.toLower)).length = (charBytes s).length := by
  induction s with
  | nil => rfl
  | cons c s ih =>
    rw [List.map_cons, charBytes_cons, charBytes_cons, List.length_append, List.length_append, ih,
      length_utf8Code_toLower]

theorem utf8Code_of_ascii {c : Char} (hc : c.toNat < 128) : utf8Code c.toNat = [.ofNat c.toNat] :=
  if_pos hc

theorem eq_of_ofNat_mem_utf8Code {c e : Char} (he : e.toNat < 128)
    (h : UInt8.ofNat e.toNat ∈ utf8Code c.toNat) : c = e := by
  have hbounds := char_toNat_bounds c
  have hbyte : (UInt8.ofNat e.toNat).toNat = e.toNat := by
    rw [UInt8.toNat_ofNat']
    exact Nat.mod_eq_of_lt (by omega)
  have hvalue := toNat_eq_of_mem_utf8Code (by omega) h (by omega)
  exact Char.toNat_inj.mp (by omega)

/-- Text of ASCII begins another text if its bytes do. -/
theorem isPrefixOf_charBytes (hext : ∀ e ∈ ext, e.toNat < 128) (s : List Char) :
    (charBytes ext).isPrefixOf (charBytes s) = ext.isPrefixOf s := by
  induction ext generalizing s with
  | nil => rfl
  | cons e ext ih =>
    obtain ⟨he, hrest⟩ := List.forall_mem_cons.mp hext
    rw [charBytes_cons, utf8Code_of_ascii he]
    cases s with
    | nil => rfl
    | cons c s =>
      rw [charBytes_cons]
      by_cases hsame : c = e
      · subst hsame
        rw [utf8Code_of_ascii he]
        show (_ == _ && (charBytes ext).isPrefixOf (charBytes s)) = (c == c && ext.isPrefixOf s)
        rw [beq_self_eq_true, beq_self_eq_true, ih hrest]
      · obtain ⟨a, r, hcode, -⟩ := leading_utf8Code c []
        have hfirst : (UInt8.ofNat e.toNat == a) = false := by
          refine beq_eq_false_iff_ne.mpr fun h => hsame (eq_of_ofNat_mem_utf8Code he ?_)
          rw [hcode, h]
          exact List.mem_cons_self
        have hchar : (e == c) = false := beq_eq_false_iff_ne.mpr (Ne.symm hsame)
        rw [hcode]
        show (UInt8.ofNat e.toNat == a && _) = (e == c && _)
        rw [hfirst, hchar, Bool.false_and, Bool.false_and]

/-! ## Looking for bytes -/

/-- The first place in some bytes where others begin. -/
def firstIndex? (pattern : Bytes) : Bytes → Option Nat
  | [] => none
  | b :: bs =>
    if pattern.isPrefixOf (b :: bs) then some 0 else (firstIndex? pattern bs).map (· + 1)

theorem firstIndex?_append {p : UInt8} {ps block : Bytes} (hblock : p ∉ block) (bs : Bytes) :
    firstIndex? (p :: ps) (block ++ bs) =
      (firstIndex? (p :: ps) bs).map (· + block.length) := by
  induction block with
  | nil => exact Option.map_id'.symm
  | cons b block ih =>
    rw [List.mem_cons, not_or] at hblock
    have hfirst : (p :: ps).isPrefixOf (b :: (block ++ bs)) = false := by
      show (p == b && _) = false
      rw [beq_eq_false_iff_ne.mpr hblock.1, Bool.false_and]
    rw [List.cons_append, firstIndex?, hfirst, if_neg Bool.false_ne_true, ih hblock.2,
      Option.map_map]
    rfl

end Text

open GuestVault.Text

variable {s ext tail : List Char} {e c : Char}

/-- Where the text in lower case does not begin with the extension, a whole character is passed
over. -/
theorem firstIndex?_cons (hext : ∀ x ∈ e :: ext, x.toNat < 128)
    (h : (e :: ext).isPrefixOf ((c :: s).map Char.toLower) = false) :
    firstIndex? (charBytes (e :: ext)) (charBytes ((c :: s).map Char.toLower)) =
      (firstIndex? (charBytes (e :: ext)) (charBytes (s.map Char.toLower))).map
        (· + (utf8Code c.toNat).length) := by
  have he := hext e List.mem_cons_self
  have hpattern : charBytes (e :: ext) = .ofNat e.toNat :: charBytes ext := by
    rw [charBytes_cons, utf8Code_of_ascii he]
    rfl
  rw [← isPrefixOf_charBytes hext] at h
  rw [List.map_cons, charBytes_cons c.toLower] at h ⊢
  rw [← length_utf8Code_toLower c]
  by_cases hsame : c.toLower = e
  · rw [hsame, utf8Code_of_ascii he, List.singleton_append] at h ⊢
    rw [firstIndex?, if_neg (by rw [h]; exact Bool.false_ne_true)]
    rfl
  · rw [hpattern]
    exact firstIndex?_append (fun hmem => hsame (eq_of_ofNat_mem_utf8Code he hmem)) _

/-- **The tail that is found by characters is found by bytes**, between two characters. -/
theorem firstIndex?_eq_some (hext : ∀ x ∈ e :: ext, x.toNat < 128)
    (h : tailFrom? (e :: ext) s = some tail) :
    ∃ front, s = front ++ tail ∧
      firstIndex? (charBytes (e :: ext)) (charBytes (s.map Char.toLower)) =
        some (charBytes front).length := by
  induction s with
  | nil => cases h
  | cons c s ih =>
    unfold tailFrom? at h
    by_cases hfits : (e :: ext).isPrefixOf ((c :: s).map Char.toLower) = true
    · rw [if_pos hfits] at h
      obtain rfl := Option.some.inj h
      refine ⟨[], rfl, ?_⟩
      obtain ⟨a, r, hcode, -⟩ := leading_utf8Code c.toLower []
      rw [← isPrefixOf_charBytes hext] at hfits
      rw [List.map_cons, charBytes_cons c.toLower, hcode, List.cons_append] at hfits ⊢
      rw [firstIndex?, if_pos hfits]
      rfl
    · rw [if_neg hfits] at h
      obtain ⟨front, rfl, hindex⟩ := ih h
      refine ⟨c :: front, rfl, ?_⟩
      rw [firstIndex?_cons hext (Bool.not_eq_true _ ▸ hfits), hindex, charBytes_cons,
        List.length_append, Nat.add_comm]
      rfl

/-- **If no tail is found by characters, none is found by bytes.** -/
theorem firstIndex?_eq_none (hext : ∀ x ∈ e :: ext, x.toNat < 128)
    (h : tailFrom? (e :: ext) s = none) :
    firstIndex? (charBytes (e :: ext)) (charBytes (s.map Char.toLower)) = none := by
  induction s with
  | nil => rfl
  | cons c s ih =>
    unfold tailFrom? at h
    by_cases hfits : (e :: ext).isPrefixOf ((c :: s).map Char.toLower) = true
    · rw [if_pos hfits] at h
      cases h
    · rw [if_neg hfits] at h
      rw [firstIndex?_cons hext (Bool.not_eq_true _ ▸ hfits), ih h]
      rfl

end GuestVault
