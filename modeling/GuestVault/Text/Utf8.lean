import GuestVault.Archive.Compression

/-!
# UTF-8

Text as bytes. Decoding never fails: `scalars` reads well-formed sequences as characters and each
longest start of one that breaks off as a gap, so a strict and a forgiving reading are two views
of the same list. `utf8?_utf8` says that encoded text reads back.
-/

namespace GuestVault.Text

/-- The bytes of a code point, by the arithmetic of the encoding. -/
def utf8Code (n : Nat) : Bytes :=
  if n < 0x80 then [.ofNat n]
  else if n < 0x800 then [.ofNat (0xC0 + n / 64), .ofNat (0x80 + n % 64)]
  else if n < 0x10000 then
    [.ofNat (0xE0 + n / 4096), .ofNat (0x80 + n / 64 % 64), .ofNat (0x80 + n % 64)]
  else
    [.ofNat (0xF0 + n / 262144), .ofNat (0x80 + n / 4096 % 64), .ofNat (0x80 + n / 64 % 64),
      .ofNat (0x80 + n % 64)]

/-- The bytes of a text. -/
def utf8 (s : String) : Bytes :=
  s.toList.flatMap fun c => utf8Code c.toNat

/-- The second byte of a sequence may follow its first. -/
def mayFollow (lead second : Nat) : Bool :=
  if lead = 0xE0 then 0xA0 ≤ second && second ≤ 0xBF
  else if lead = 0xED then 0x80 ≤ second && second ≤ 0x9F
  else if lead = 0xF0 then 0x90 ≤ second && second ≤ 0xBF
  else if lead = 0xF4 then 0x80 ≤ second && second ≤ 0x8F
  else 0x80 ≤ second && second ≤ 0xBF

/-- The byte continues a sequence. -/
def isTail (b : Nat) : Bool := 0x80 ≤ b && b ≤ 0xBF

/-- The character that starts with byte `a`, or a gap, and how many of the following bytes belong
to it. -/
def leading (a : Nat) (r : Bytes) : Option Char × Nat :=
  if a < 0x80 then (some (.ofNat a), 0)
  else if 0xC2 ≤ a && a ≤ 0xDF then
    match r with
    | b :: _ =>
      if isTail b.toNat then (some (.ofNat ((a - 0xC0) * 64 + (b.toNat - 0x80))), 1)
      else (none, 0)
    | _ => (none, 0)
  else if 0xE0 ≤ a && a ≤ 0xEF then
    match r with
    | b :: c :: _ =>
      if mayFollow a b.toNat then
        if isTail c.toNat then
          (some (.ofNat ((a - 0xE0) * 4096 + (b.toNat - 0x80) * 64 + (c.toNat - 0x80))), 2)
        else (none, 1)
      else (none, 0)
    | [b] => (none, if mayFollow a b.toNat then 1 else 0)
    | _ => (none, 0)
  else if 0xF0 ≤ a && a ≤ 0xF4 then
    match r with
    | b :: c :: d :: _ =>
      if mayFollow a b.toNat then
        if isTail c.toNat then
          if isTail d.toNat then
            (some (.ofNat ((a - 0xF0) * 262144 + (b.toNat - 0x80) * 4096 +
              (c.toNat - 0x80) * 64 + (d.toNat - 0x80))), 3)
          else (none, 2)
        else (none, 1)
      else (none, 0)
    | [b, c] => (none, if mayFollow a b.toNat then (if isTail c.toNat then 2 else 1) else 0)
    | [b] => (none, if mayFollow a b.toNat then 1 else 0)
    | _ => (none, 0)
  else (none, 0)

/-- Reads on after `skip` bytes that are already accounted for. -/
def scalarsAfter : Nat → Bytes → List (Option Char)
  | _, [] => []
  | skip + 1, _ :: r => scalarsAfter skip r
  | 0, a :: r => (leading a.toNat r).1 :: scalarsAfter (leading a.toNat r).2 r

/-- The characters of some bytes, with a gap for each sequence that breaks off. -/
def scalars (bs : Bytes) : List (Option Char) := scalarsAfter 0 bs

/-- The text of some bytes, if they are well formed throughout. -/
def utf8? (bs : Bytes) : Option String :=
  let cs := scalars bs
  if cs.all Option.isSome then some (String.ofList (cs.filterMap id)) else none

/-- The text of some bytes, each gap shown as the replacement character. -/
def lossy (bs : Bytes) : String :=
  String.ofList ((scalars bs).map (·.getD '\ufffd'))

/-! ## Encoded text reads back -/

theorem char_toNat_bounds (c : Char) :
    c.toNat < 0xD800 ∨ (0xE000 ≤ c.toNat ∧ c.toNat < 0x110000) := by
  have h : c.toNat.isValidChar := c.valid
  unfold Nat.isValidChar at h
  omega

theorem leading_utf8Code (c : Char) (r : Bytes) :
    ∃ a t, utf8Code c.toNat = a :: t ∧ leading a.toNat (t ++ r) = (some c, t.length) := by
  have hb := char_toNat_bounds c
  have hc : Char.ofNat c.toNat = c := Char.ofNat_toNat c
  generalize c.toNat = n at hb hc
  unfold utf8Code
  split
  · refine ⟨_, _, rfl, ?_⟩
    simp [leading, Nat.mod_eq_of_lt (show n < 256 by omega), *]
  split
  · refine ⟨_, _, rfl, ?_⟩
    have h1 : (192 + n / 64) % 256 = 192 + n / 64 := by omega
    have h2 : (128 + n % 64) % 256 = 128 + n % 64 := by omega
    have h3 : ¬ (192 + n / 64 < 128) := by omega
    have h4 : 194 ≤ 192 + n / 64 ∧ 192 + n / 64 ≤ 223 := by omega
    have h5 : n / 64 * 64 + n % 64 = n := by omega
    simp [leading, isTail, h1, h2, h3, h4, h5, hc]
    omega
  split
  · refine ⟨_, _, rfl, ?_⟩
    have h1 : (224 + n / 4096) % 256 = 224 + n / 4096 := by omega
    have h2 : (128 + n / 64 % 64) % 256 = 128 + n / 64 % 64 := by omega
    have h3 : (128 + n % 64) % 256 = 128 + n % 64 := by omega
    have h4 : n / 4096 * 4096 + n / 64 % 64 * 64 + n % 64 = n := by omega
    have h5 : mayFollow (224 + n / 4096) (128 + n / 64 % 64) = true := by
      unfold mayFollow
      repeat' split
      all_goals simp only [Bool.and_eq_true, decide_eq_true_eq]; omega
    have h6 : isTail (128 + n % 64) = true := by
      simp only [isTail, Bool.and_eq_true, decide_eq_true_eq]; omega
    have h7 : ¬ (224 + n / 4096 < 128) := by omega
    have h8 : ¬ (194 ≤ 224 + n / 4096 ∧ 224 + n / 4096 ≤ 223) := by omega
    have h9 : 224 ≤ 224 + n / 4096 ∧ 224 + n / 4096 ≤ 239 := by omega
    simp only [leading, UInt8.toNat_ofNat', List.cons_append, List.nil_append, Nat.reducePow, h1,
      h2, h3, h7, if_false, Bool.and_eq_true, decide_eq_true_eq, h8, h9, and_self, if_true, h5, h6,
      List.length_cons, List.length_nil]
    rw [show 224 + n / 4096 - 224 = n / 4096 by omega,
      show 128 + n / 64 % 64 - 128 = n / 64 % 64 by omega,
      show 128 + n % 64 - 128 = n % 64 by omega, h4, hc]
  · refine ⟨_, _, rfl, ?_⟩
    have h1 : (240 + n / 262144) % 256 = 240 + n / 262144 := by omega
    have h2 : (128 + n / 4096 % 64) % 256 = 128 + n / 4096 % 64 := by omega
    have h3 : (128 + n / 64 % 64) % 256 = 128 + n / 64 % 64 := by omega
    have h3' : (128 + n % 64) % 256 = 128 + n % 64 := by omega
    have h4 : n / 262144 * 262144 + n / 4096 % 64 * 4096 + n / 64 % 64 * 64 + n % 64 = n := by
      omega
    have h5 : mayFollow (240 + n / 262144) (128 + n / 4096 % 64) = true := by
      unfold mayFollow
      repeat' split
      all_goals simp only [Bool.and_eq_true, decide_eq_true_eq]; omega
    have h6 : isTail (128 + n / 64 % 64) = true := by
      simp only [isTail, Bool.and_eq_true, decide_eq_true_eq]; omega
    have h6' : isTail (128 + n % 64) = true := by
      simp only [isTail, Bool.and_eq_true, decide_eq_true_eq]; omega
    have h7 : ¬ (240 + n / 262144 < 128) := by omega
    have h8 : ¬ (194 ≤ 240 + n / 262144 ∧ 240 + n / 262144 ≤ 223) := by omega
    have h9 : ¬ (224 ≤ 240 + n / 262144 ∧ 240 + n / 262144 ≤ 239) := by omega
    have h10 : 240 ≤ 240 + n / 262144 ∧ 240 + n / 262144 ≤ 244 := by omega
    simp only [leading, UInt8.toNat_ofNat', List.cons_append, List.nil_append, Nat.reducePow, h1,
      h2, h3, h3', h7, if_false, Bool.and_eq_true, decide_eq_true_eq, h8, h9, h10, and_self,
      if_true, h5, h6, h6', List.length_cons, List.length_nil]
    rw [show 240 + n / 262144 - 240 = n / 262144 by omega,
      show 128 + n / 4096 % 64 - 128 = n / 4096 % 64 by omega,
      show 128 + n / 64 % 64 - 128 = n / 64 % 64 by omega,
      show 128 + n % 64 - 128 = n % 64 by omega, h4, hc]

theorem scalarsAfter_length_append (t r : Bytes) : scalarsAfter t.length (t ++ r) = scalars r := by
  induction t with
  | nil => rfl
  | cons a t ih =>
    cases r with
    | nil => simpa [scalarsAfter] using ih
    | cons b r => simpa [scalarsAfter] using ih

theorem scalars_utf8Code_append (c : Char) (r : Bytes) :
    scalars (utf8Code c.toNat ++ r) = some c :: scalars r := by
  obtain ⟨a, t, h, hl⟩ := leading_utf8Code c r
  rw [h, scalars, List.cons_append, scalarsAfter, hl]
  simp [scalarsAfter_length_append]

theorem scalars_flatMap_append (cs : List Char) (r : Bytes) :
    scalars (cs.flatMap (fun c => utf8Code c.toNat) ++ r) = cs.map some ++ scalars r := by
  induction cs with
  | nil => rfl
  | cons c cs ih => simp [scalars_utf8Code_append, ih]

theorem scalars_utf8 (s : String) : scalars (utf8 s) = s.toList.map some := by
  have h := scalars_flatMap_append s.toList []
  simpa [utf8, scalars, scalarsAfter] using h

@[simp] theorem utf8?_utf8 (s : String) : utf8? (utf8 s) = some s := by
  simp [utf8?, scalars_utf8, List.all_map, List.filterMap_map, Function.comp_def]

@[simp] theorem lossy_utf8 (s : String) : lossy (utf8 s) = s := by
  simp [lossy, scalars_utf8, List.map_map, Function.comp_def]

end GuestVault.Text
