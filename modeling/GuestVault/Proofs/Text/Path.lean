import GuestVault.Proofs.Text.Trim
import GuestVault.Text.Path

/-!
# Paths put together

A path into a directory is made of the two with a slash between them (`joinPath_cases`). A path that is
absolute has no blank at its ends if there is none at its end (`tidy_of_absolute`), as if it was put
together of a directory and a text without blanks at its ends (`not_blank_behind_slash`).
-/

namespace GuestVault.Text

variable {root name path front : String}

/-- A path into a directory is the path of the directory, a slash unless it ends in one, and the
name. -/
theorem joinPath_cases (hroot : root ≠ "") (hname : isAbsolute name = false) :
    (∃ front, root = front ++ "/" ∧ joinPath root name = root ++ name) ∨
      joinPath root name = root ++ "/" ++ name := by
  unfold joinPath
  rw [if_neg (by rw [hname]; exact Bool.false_ne_true)]
  split
  · rename_i hlast
    exact absurd (String.toList_eq_nil_iff.mp (List.getLast?_eq_none_iff.mp hlast)) hroot
  · rename_i hlast
    obtain ⟨front, hfront⟩ := List.getLast?_eq_some_iff.mp hlast
    refine Or.inl ⟨String.ofList front, String.toList_inj.mp ?_, rfl⟩
    rw [hfront, String.toList_append, String.toList_ofList]
    rfl
  · exact Or.inr rfl

/-! ## Absolute paths -/

theorem isAbsolute_iff : isAbsolute path = true ↔ path.toList.head? = some '/' :=
  decide_eq_true_iff

theorem isAbsolute_append (h : isAbsolute front = true) : isAbsolute (front ++ path) = true := by
  rw [isAbsolute_iff] at h ⊢
  rw [String.toList_append, List.head?_append, h]
  rfl

theorem ne_empty_of_absolute (h : isAbsolute path = true) : path ≠ "" := by
  rintro rfl
  cases h

/-! ## Paths without blanks at their ends -/

/-- An absolute path begins with its slash, so only its end could be blank. -/
theorem tidy_of_absolute (h : isAbsolute path = true)
    (hback : ∀ c ∈ path.toList.getLast?, isBlank c = false) : Tidy path := by
  refine ⟨ne_empty_of_absolute h, ?_, hback⟩
  intro c hc
  rw [isAbsolute_iff.mp h] at hc
  obtain rfl := Option.some.inj hc
  rfl

/-- A text behind a slash ends as it does on its own, and in the slash if it is empty. -/
theorem not_blank_behind_slash (hname : Trimmed name.toList) (front : String) :
    ∀ c ∈ (front ++ "/" ++ name).toList.getLast?, isBlank c = false := by
  intro c hc
  rw [String.toList_append, List.getLast?_append, Option.mem_def] at hc
  cases hlast : name.toList.getLast? with
  | none =>
    rw [hlast, String.toList_append, List.getLast?_append] at hc
    obtain rfl : '/' = c := Option.some.inj hc
    rfl
  | some d =>
    rw [hlast] at hc
    obtain rfl : d = c := Option.some.inj hc
    exact hname.back d hlast

end GuestVault.Text
