/-!
# Parts of a text

Taking a known text off the front or the end of another, and the last component of a path.
-/

namespace GuestVault.Text

/-- What follows `front` at the start of a text. -/
def dropFront? : List Char → List Char → Option (List Char)
  | [], s => some s
  | c :: front, x :: s => if x = c then dropFront? front s else none
  | _ :: _, [] => none

theorem dropFront?_eq_some_iff {front s r : List Char} :
    dropFront? front s = some r ↔ s = front ++ r := by
  induction front generalizing s with
  | nil => simp [dropFront?]
  | cons c front ih =>
    cases s with
    | nil => simp [dropFront?]
    | cons x s =>
      by_cases h : x = c
      · subst h; simp [dropFront?, ih]
      · simp [dropFront?, h]

@[simp] theorem dropFront?_append (front r : List Char) :
    dropFront? front (front ++ r) = some r :=
  dropFront?_eq_some_iff.2 rfl

/-- What precedes `back` at the end of a text. -/
def dropBack? (back s : List Char) : Option (List Char) :=
  (dropFront? back.reverse s.reverse).map List.reverse

theorem dropBack?_eq_some_iff {back s r : List Char} :
    dropBack? back s = some r ↔ s = r ++ back := by
  unfold dropBack?
  rw [Option.map_eq_some_iff]
  constructor
  · rintro ⟨t, ht, rfl⟩
    have h := dropFront?_eq_some_iff.1 ht
    have := congrArg List.reverse h
    simpa using this
  · rintro rfl
    exact ⟨r.reverse, by simp, by simp⟩

/-- The part after the last slash. -/
def baseChars (s : List Char) : List Char :=
  (s.reverse.takeWhile (· != '/')).reverse

/-- The part of a path after the last slash. -/
def basename (s : String) : String :=
  String.ofList (baseChars s.toList)

theorem slash_notMem_baseChars (s : List Char) : '/' ∉ baseChars s := by
  intro h
  have h1 : '/' ∈ s.reverse.takeWhile (· != '/') := List.mem_reverse.1 h
  have h2 := List.all_eq_true.1 (List.all_takeWhile (p := (· != '/')) (l := s.reverse)) _ h1
  simp at h2

theorem baseChars_of_notMem {s : List Char} (h : '/' ∉ s) : baseChars s = s := by
  have : ∀ t : List Char, '/' ∉ t → t.takeWhile (· != '/') = t := by
    intro t
    induction t with
    | nil => simp
    | cons c r ih =>
      intro h
      have hc : c ≠ '/' := fun e => h (by simp [e])
      have hr : '/' ∉ r := fun m => h (by simp [m])
      rw [List.takeWhile_cons_of_pos (by simpa using hc), ih hr]
  simp [baseChars, this s.reverse (by simpa using h)]

@[simp] theorem baseChars_append_slash (dir s : List Char) :
    baseChars (dir ++ '/' :: s) = baseChars s := by
  have : ∀ t u : List Char,
      (t ++ '/' :: u).takeWhile (· != '/') = t.takeWhile (· != '/') := by
    intro t u
    induction t with
    | nil => simp
    | cons c r ih => simp [List.takeWhile, ih]
  simp [baseChars, this]

end GuestVault.Text
