import GuestVault.Json.Reader
import GuestVault.Json.Writer
import GuestVault.Proofs.Text.Digits
import Mathlib.Tactic.IntervalCases
import Mathlib.Tactic.SplitIfs

/-!
# Written JSON reads back

A string is read as it was written, whatever its characters (`string?_text`), and so is an integer
that is followed by no more of a number (`value?_ofInt`). An object of texts and integers therefore
reads back as it is, with its members in order (`parse?_render`).
-/

namespace GuestVault.Json

open GuestVault.Text

variable {r : Symbols} {s : List Char} {c : Char}

/-! ## Strings -/

/-- The piece that a character is read as: an escaped unit if it has no other spelling. -/
def pieceOf (c : Char) : Piece :=
  if c.toNat < 0x20 ∧ c ≠ '\x08' ∧ c ≠ '\x0c' ∧ c ≠ '\n' ∧ c ≠ '\r' ∧ c ≠ '\t' then .unit c.toNat
  else .char c

theorem hexValue?_hexDigit {n : Nat} (hn : n < 16) : hexValue? (hexDigit n) = some n := by
  interval_cases n <;> decide

theorem pieces?_plain (hspace : 0x20 ≤ c.toNat) (hquote : c ≠ '"') (hslash : c ≠ '\\')
    (r : Symbols) :
    pieces? (some c :: r) = (pieces? r).map fun (ps, s) => (.char c :: ps, s) := by
  rw [pieces?]
  · rw [if_neg]
    rw [Bool.or_eq_true, decide_eq_true_eq, decide_eq_true_eq]
    exact not_or.mpr ⟨Nat.not_lt.mpr hspace, hslash⟩
  · simpa using hquote
  · simp [hslash]
  · simp [hslash]

theorem pieces?_control {n : Nat} (hn : n < 0x20) (r : Symbols) :
    pieces? (['\\', 'u', '0', '0', hexDigit (n / 16), hexDigit (n % 16)].map some ++ r) =
      (pieces? r).map fun (ps, s) => (.unit n :: ps, s) := by
  have hzero : hexValue? '0' = some 0 := by decide
  show pieces? (some '\\' :: some 'u' :: some '0' :: some '0' :: some (hexDigit (n / 16)) ::
    some (hexDigit (n % 16)) :: r) = _
  rw [pieces?]
  simp only [hzero, hexValue?_hexDigit (show n / 16 < 16 by omega),
    hexValue?_hexDigit (show n % 16 < 16 by omega), Option.bind_eq_bind, Option.bind_some]
  rw [show 0 * 4096 + 0 * 256 + n / 16 * 16 + n % 16 = n by omega]

theorem pieces?_escapeChar (c : Char) (r : Symbols) :
    pieces? ((escapeChar c).map some ++ r) =
      (pieces? r).map fun (ps, s) => (pieceOf c :: ps, s) := by
  by_cases hquote : c = '"'
  · subst hquote; rfl
  by_cases hslash : c = '\\'
  · subst hslash; rfl
  by_cases hshort : c = '\x08' ∨ c = '\x0c' ∨ c = '\n' ∨ c = '\r' ∨ c = '\t'
  · rcases hshort with rfl | rfl | rfl | rfl | rfl <;> rfl
  simp only [not_or] at hshort
  obtain ⟨hb, hf, hn, hr, ht⟩ := hshort
  unfold escapeChar pieceOf
  rw [if_neg hquote, if_neg hslash, if_neg hb, if_neg hf, if_neg hn, if_neg hr, if_neg ht]
  by_cases hcontrol : c.toNat < 0x20
  · rw [if_pos hcontrol, if_pos ⟨hcontrol, hb, hf, hn, hr, ht⟩]
    exact pieces?_control hcontrol r
  · rw [if_neg hcontrol, if_neg fun h => hcontrol h.1]
    exact pieces?_plain (Nat.not_lt.mp hcontrol) hquote hslash r

theorem assemble?_unit {n : Nat} (hn : n < 0xD800) (ps : List Piece) :
    assemble? (.unit n :: ps) = (assemble? ps).map (Char.ofNat n :: ·) := by
  have hhigh : isHighUnit n = false := by
    unfold isHighUnit
    simp only [Bool.and_eq_false_iff, decide_eq_false_iff_not]
    omega
  have hlow : isLowUnit n = false := by
    unfold isLowUnit
    simp only [Bool.and_eq_false_iff, decide_eq_false_iff_not]
    omega
  rcases ps with _ | ⟨_ | m | _, ps⟩
  · simp [assemble?, hhigh, hlow]
  · simp [assemble?, hhigh, hlow]
  · rw [assemble?, hhigh, hlow]
    rfl
  · simp [assemble?, hhigh, hlow]

theorem assemble?_pieceOf (c : Char) (ps : List Piece) :
    assemble? (pieceOf c :: ps) = (assemble? ps).map (c :: ·) := by
  unfold pieceOf
  split
  · rename_i hcontrol
    rw [assemble?_unit (by omega), Char.ofNat_toNat]
  · rfl

theorem pieces?_escaped (s : List Char) (r : Symbols) :
    pieces? ((s.flatMap escapeChar).map some ++ some '"' :: r) = some (s.map pieceOf, r) := by
  induction s with
  | nil => rfl
  | cons c s ih =>
    rw [List.flatMap_cons, List.map_append, List.append_assoc, pieces?_escapeChar, ih]
    rfl

theorem assemble?_map_pieceOf (s : List Char) : assemble? (s.map pieceOf) = some s := by
  induction s with
  | nil => rfl
  | cons c s ih =>
    rw [List.map_cons, assemble?_pieceOf, ih]
    rfl

/-- **A text reads back.** -/
theorem string?_text (s : String) (r : Symbols) :
    string? ((s.toList.flatMap escapeChar).map some ++ some '"' :: r) = some (some s, r) := by
  unfold string?
  rw [pieces?_escaped]
  show some ((assemble? _).map String.ofList, r) = _
  rw [assemble?_map_pieceOf, Option.map_some, String.ofList_toList]

/-! ## Integers -/

/-- A symbol that ends a value. -/
def Closes (r : Symbols) : Prop :=
  ∃ t, r = some ',' :: t ∨ r = some '\x7d' :: t

theorem takeDigits_append (hs : AllDigits s) (hr : Closes r) :
    takeDigits (s.map some ++ r) = (s, r) := by
  induction s with
  | nil =>
    obtain ⟨t, rfl | rfl⟩ := hr
    · rfl
    · rfl
  | cons c s ih =>
    obtain ⟨hc, hs⟩ := List.forall_mem_cons.mp hs
    rw [List.map_cons, List.cons_append, takeDigits, if_pos hc, ih hs]

theorem wholePart?_toString (n : Nat) (hr : Closes r) :
    wholePart? ((toString n).toList.map some ++ r) = some ((toString n).toList, r) := by
  have hne := toString_ne_nil n
  have hzero (t : List Char) := toString_eq_zero_cons (n := n) (r := t)
  unfold wholePart?
  rw [takeDigits_append (allDigits_toString n) hr]
  generalize (toString n).toList = ds at hne hzero
  split
  · rename_i heq
    exact absurd (Prod.mk.inj heq).1 hne
  · rename_i c t r' heq
    obtain ⟨rfl, -⟩ := Prod.mk.inj heq
    exact absurd (hzero _ rfl) (List.cons_ne_nil _ _)
  · rename_i heq
    obtain ⟨rfl, rfl⟩ := Prod.mk.inj heq
    rfl

theorem unsigned?_toString (n : Nat) (hr : Closes r) :
    unsigned? ((toString n).toList.map some ++ r) = some ((toString n).toList, r) := by
  have hfraction : fraction? r = some ([], r) := by
    obtain ⟨t, rfl | rfl⟩ := hr
    · rfl
    · rfl
  have hexponent : exponent? r = some ([], r) := by
    obtain ⟨t, rfl | rfl⟩ := hr
    · rfl
    · rfl
  unfold unsigned?
  simp only [wholePart?_toString n hr, hfraction, hexponent, Option.bind_eq_bind, Option.bind_some,
    List.append_nil]

theorem int?_digits (hs : AllDigits s) : (number s).int? = some (digitsValue s : Int) := by
  have hall : s.all (fun c => (digit? c).isSome) = true := List.all_eq_true.mpr hs
  unfold int?
  split
  · rename_i ds heq
    obtain rfl := Json.number.inj heq
    exact absurd (hs '-' List.mem_cons_self) (by decide)
  · rename_i ds _ heq
    obtain rfl := Json.number.inj heq
    rw [if_pos hall]
  · rename_i hnumber
    exact absurd rfl (hnumber s)

theorem int?_ofInt (n : Int) : (ofInt n).int? = some n := by
  cases n with
  | ofNat n => exact (int?_digits (allDigits_toString n)).trans (by rw [digitsValue_toString]; rfl)
  | negSucc n =>
    have hall : (toString (n + 1)).toList.all (fun c => (digit? c).isSome) = true :=
      List.all_eq_true.mpr (allDigits_toString (n + 1))
    have hzero : (toString (n + 1)).toList ≠ ['0'] := by
      intro h
      have hvalue := digitsValue_toString (n + 1)
      rw [h] at hvalue
      exact absurd hvalue (Nat.succ_ne_zero n).symm
    unfold ofInt
    rw [toList_toString_negSucc, int?, if_pos (by simp only [hall, hzero, ne_eq]; decide),
      digitsValue_toString]
    rfl

theorem nat?_ofInt {n bound : Nat} (hn : n ≤ bound) : nat? bound (ofInt n) = some n := by
  unfold nat?
  rw [int?_ofInt]
  exact if_pos hn

theorem int64?_ofInt {n : Int} (hlow : -(Int.pow 2 63) ≤ n) (hhigh : n < Int.pow 2 63) :
    int64? (ofInt n) = some n := by
  unfold int64?
  rw [int?_ofInt]
  exact if_pos ⟨hlow, hhigh⟩

/-- A text or an integer. -/
inductive Plain : Json → Prop where
  | text (s : String) : Plain (.ofText s)
  | int (n : Int) : Plain (.ofInt n)

theorem value?_ofText (fuel : Nat) (s : String) (r : Symbols) :
    value? (fuel + 1) ((Json.ofText s).chars.map some ++ r) = some (.ofText s, r) := by
  have hchars : (Json.ofText s).chars = '"' :: (s.toList.flatMap escapeChar ++ ['"']) := rfl
  rw [hchars, List.map_cons, List.map_append, List.cons_append, List.append_assoc, value?]
  show (string? ((s.toList.flatMap escapeChar).map some ++ some '"' :: r)).map _ = _
  rw [string?_text]
  rfl

/-- The first digit of a number starts no other value. -/
theorem value?_digit (fuel : Nat) (hc : (digit? c).isSome = true) (r : Symbols) :
    value? (fuel + 1) (some c :: r) =
      (unsigned? (some c :: r)).map fun (ds, s) => (.number ds, s) := by
  have hbounds := toNat_bounds_of_digit hc
  have hne (d : Char) (hd : d.toNat < 48 ∨ 57 < d.toNat) : c ≠ d := by
    rintro rfl
    omega
  have hspace : skipSpace (some c :: r) = some c :: r := by
    rw [skipSpace, if_neg]
    simp only [Bool.or_eq_true, decide_eq_true_eq, not_or]
    exact ⟨⟨⟨hne _ (by decide), hne _ (by decide)⟩, hne _ (by decide)⟩, hne _ (by decide)⟩
  rw [value?, hspace]
  split
  case h_8 => rfl
  all_goals
    rename_i heq
    exact absurd (Option.some.inj (List.cons_eq_cons.mp heq).1) (hne _ (by decide))

theorem value?_ofInt (fuel : Nat) (n : Int) (hr : Closes r) :
    value? (fuel + 1) ((Json.ofInt n).chars.map some ++ r) = some (.ofInt n, r) := by
  show value? (fuel + 1) ((toString n).toList.map some ++ r) = some (.number (toString n).toList, r)
  cases n with
  | ofNat n =>
    obtain ⟨c, ds, hds⟩ := List.exists_cons_of_ne_nil (toString_ne_nil n)
    have hc := allDigits_toString n c (by rw [hds]; exact List.mem_cons_self)
    have hunsigned := unsigned?_toString n hr
    rw [show (toString (Int.ofNat n)).toList = (toString n).toList from rfl]
    rw [hds, List.map_cons, List.cons_append] at hunsigned ⊢
    rw [value?_digit fuel hc, hunsigned]
    rfl
  | negSucc n =>
    rw [toList_toString_negSucc, List.map_cons, List.cons_append, value?]
    show (unsigned? ((toString (n + 1)).toList.map some ++ r)).map _ = _
    rw [unsigned?_toString (n + 1) hr]
    rfl

theorem Plain.value? {j : Json} (hj : j.Plain) (fuel : Nat) (hr : Closes r) :
    Json.value? (fuel + 1) (j.chars.map some ++ r) = some (j, r) := by
  cases hj with
  | text s => exact value?_ofText fuel s r
  | int n => exact value?_ofInt fuel n hr

/-! ## Objects -/

/-- The text of one member. -/
def memberText (key : String) (value : Json) : List Char :=
  '"' :: (key.toList.flatMap escapeChar ++ '"' :: ':' :: value.chars)

/-- A member is read up to the symbol that ends it, which tells whether more members follow. -/
theorem members?_memberText {value : Json} (hvalue : value.Plain) (key : String) (fuel : Nat)
    (r : Symbols) :
    members? (fuel + 2) ((memberText key value).map some ++ some '\x7d' :: r) =
        some ([(some key, value)], r) ∧
      members? (fuel + 2) ((memberText key value).map some ++ some ',' :: r) =
        (members? (fuel + 1) r).map fun (ms, s) => ((some key, value) :: ms, s) := by
  have htext (t : Symbols) : (memberText key value).map some ++ t =
      some '"' :: ((key.toList.flatMap escapeChar).map some ++ some '"' :: some ':' ::
        (value.chars.map some ++ t)) := by
    simp [memberText]
  have hspace (c : Char) (t : Symbols) (hc : c = '"' ∨ c = ':' ∨ c = ',' ∨ c = '\x7d') :
      skipSpace (some c :: t) = some c :: t := by
    rcases hc with rfl | rfl | rfl | rfl <;> rfl
  constructor
  · rw [htext, members?, hspace _ _ (by simp)]
    simp [string?_text, hspace, hvalue.value? fuel ⟨r, Or.inr rfl⟩]
  · rw [htext, members?, hspace _ _ (by simp)]
    simp [string?_text, hspace, hvalue.value? fuel ⟨r, Or.inl rfl⟩]

theorem memberChars_cons (key : String) (value : Json) (rest : List (Option String × Json)) :
    memberChars ((some key, value) :: rest) =
      memberText key value ++ if rest = [] then [] else ',' :: memberChars rest := by
  cases rest with
  | nil => simp [memberChars, memberText, stringChars]
  | cons member rest => simp [memberChars, memberText, stringChars]

/-- Members whose keys are texts. -/
def keyed (members : List (String × Json)) : List (Option String × Json) :=
  members.map fun (k, v) => (some k, v)

theorem keyed_cons (key : String) (value : Json) (rest : List (String × Json)) :
    keyed ((key, value) :: rest) = (some key, value) :: keyed rest :=
  rfl

theorem keyed_eq_nil_iff {members : List (String × Json)} : keyed members = [] ↔ members = [] :=
  List.map_eq_nil_iff

theorem members?_memberChars {members : List (String × Json)} (hne : members ≠ [])
    (hplain : ∀ member ∈ members, member.2.Plain) {fuel : Nat} (hfuel : members.length < fuel)
    (r : Symbols) :
    members? fuel ((memberChars (keyed members)).map some ++ some '\x7d' :: r) =
      some (keyed members, r) := by
  induction members generalizing fuel with
  | nil => exact absurd rfl hne
  | cons member rest ih =>
    obtain ⟨key, value⟩ := member
    obtain ⟨hvalue, hrest⟩ := List.forall_mem_cons.mp hplain
    rw [List.length_cons] at hfuel
    obtain ⟨fuel, rfl⟩ : ∃ fuel', fuel = fuel' + 2 := ⟨fuel - 2, by omega⟩
    rw [keyed_cons, memberChars_cons]
    by_cases hlast : rest = []
    · rw [if_pos (keyed_eq_nil_iff.mpr hlast), List.append_nil, keyed_eq_nil_iff.mpr hlast]
      exact (members?_memberText hvalue key fuel r).1
    · rw [if_neg (mt keyed_eq_nil_iff.mp hlast), List.map_append, List.append_assoc, List.map_cons,
        List.cons_append, (members?_memberText hvalue key fuel _).2, ih hlast hrest (by omega)]
      rfl

theorem length_le_memberChars (members : List (String × Json)) :
    members.length ≤ (memberChars (keyed members)).length := by
  induction members with
  | nil => exact Nat.zero_le _
  | cons member rest ih =>
    obtain ⟨key, value⟩ := member
    rw [keyed_cons, memberChars_cons, List.length_append, memberText, List.length_cons,
      List.length_cons]
    split
    · rename_i hlast
      rw [keyed_eq_nil_iff.mp hlast, List.length_nil]
      omega
    · rw [List.length_cons]
      omega

/-- **An object of texts and integers reads back.** -/
theorem parse?_render {members : List (String × Json)} (hne : members ≠ [])
    (hplain : ∀ member ∈ members, member.2.Plain) :
    parse? (utf8 (Json.ofMembers members).render) = some (.ofMembers members) := by
  have hchars : (Json.ofMembers members).render.toList =
      '\x7b' :: (memberChars (keyed members) ++ ['\x7d']) :=
    String.toList_ofList
  have hlength := length_le_memberChars members
  obtain ⟨text, hfirst⟩ : ∃ text, memberChars (keyed members) = '"' :: text := by
    obtain ⟨⟨key, value⟩, rest, rfl⟩ := List.exists_cons_of_ne_nil hne
    rw [keyed_cons, memberChars_cons]
    exact ⟨_, rfl⟩
  have hread (fuel : Nat) (hfuel : members.length < fuel) :
      value? (fuel + 1) (some '\x7b' :: ((memberChars (keyed members)).map some ++
        [some '\x7d'])) = some (.ofMembers members, []) := by
    have hmembers := members?_memberChars hne hplain hfuel []
    rw [hfirst, List.map_cons, List.cons_append] at hmembers ⊢
    rw [value?]
    show (members? fuel (some '"' :: _)).map _ = _
    rw [hmembers]
    rfl
  unfold parse?
  rw [scalars_utf8, hchars, List.map_cons, List.map_append]
  dsimp only
  rw [List.map_singleton, hread _ (by simp; omega)]
  rfl

end GuestVault.Json
