import GuestVault.Text.Blank

/-!
# Texts without blanks at their ends

Trimming leaves no blank at either end (`trimmed_trimChars`) and changes no text that has none there
(`trimChars_of_trimmed`). What is left of an optional text is tidy, and a tidy text is left as it is
(`tidy_of_trimmed?`, `Tidy.trimmed?_eq`).
-/

namespace GuestVault.Text

variable {s t : List Char} {text : String} {value : Option String}

/-- There is no blank at either end of the text. -/
structure Trimmed (s : List Char) : Prop where
  front : ∀ c ∈ s.head?, isBlank c = false
  back : ∀ c ∈ s.getLast?, isBlank c = false

/-- A text that says something: it is not empty, and there is no blank at either end. -/
structure Tidy (text : String) : Prop where
  ne_empty : text ≠ ""
  trimmed : Trimmed text.toList

theorem dropWhile_of_head? (h : ∀ c ∈ s.head?, isBlank c = false) : s.dropWhile isBlank = s := by
  cases s with
  | nil => rfl
  | cons c s => rw [List.dropWhile_cons_of_neg (by rw [h c rfl]; exact Bool.false_ne_true)]

/-- **A text that is blank at neither end stays as it is.** -/
theorem trimChars_of_trimmed (h : Trimmed s) : trimChars s = s := by
  unfold trimChars
  rw [dropWhile_of_head? h.front, dropWhile_of_head? (by rw [List.head?_reverse]; exact h.back),
    List.reverse_reverse]

/-- **A text is trimmed at both ends.** -/
theorem trimmed_trimChars (s : List Char) : Trimmed (trimChars s) := by
  have hhead (t : List Char) : ∀ c ∈ (t.dropWhile isBlank).head?, isBlank c = false := by
    intro c hc
    have h := List.head?_dropWhile_not isBlank t
    rw [Option.mem_def.mp hc] at h
    simpa using h
  unfold trimChars
  constructor
  · intro c hc
    -- cutting off the end leaves the first character, if it leaves any
    obtain ⟨back, hback⟩ := List.dropWhile_suffix isBlank (l := (s.dropWhile isBlank).reverse)
    have hfront := congrArg List.reverse hback
    rw [List.reverse_append, List.reverse_reverse] at hfront
    refine hhead s c ?_
    rw [← hfront, List.head?_append, Option.mem_def.mp hc]
    rfl
  · rw [List.getLast?_reverse]
    exact hhead _

theorem trimmed_trim (text : String) : Trimmed (trim text).toList := by
  unfold trim
  rw [String.toList_ofList]
  exact trimmed_trimChars text.toList

theorem trim_of_trimmed (h : Trimmed text.toList) : trim text = text := by
  unfold trim
  rw [trimChars_of_trimmed h, String.ofList_toList]

/-! ## Optional texts -/

theorem tidy_of_trimmed? (h : trimmed? value = some text) : Tidy text := by
  obtain ⟨htext, hne⟩ := Option.filter_eq_some_iff.mp h
  obtain ⟨given, -, rfl⟩ := Option.map_eq_some_iff.mp htext
  exact ⟨of_decide_eq_true hne, trimmed_trim given⟩

theorem Tidy.trimmed?_eq (h : Tidy text) : trimmed? (some text) = some text := by
  unfold trimmed?
  rw [Option.map_some, trim_of_trimmed h.trimmed]
  exact Option.filter_eq_some_iff.mpr ⟨rfl, decide_eq_true h.ne_empty⟩

theorem trimmed?_of_tidy (h : ∀ text ∈ value, Tidy text) : trimmed? value = value := by
  cases value with
  | none => rfl
  | some text => exact (h text rfl).trimmed?_eq

end GuestVault.Text
