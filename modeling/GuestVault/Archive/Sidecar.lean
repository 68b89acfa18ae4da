import GuestVault.Text.Part

/-!
# Sidecar names

Next to every archive lies a hidden file that describes it. Its name is made from the archive's,
and `Sidecar.archive?` takes the archive's name out again.
-/

namespace GuestVault.Sidecar

open GuestVault.Text

/-- What a sidecar's name starts with. -/
def front : String := ".vzdump-meta-"

/-- What a sidecar's name ends with. -/
def back : String := ".json"

/-- The name of the sidecar of an archive. -/
def name (archive : String) : String := front ++ archive ++ back

/-- The archive that a name is the sidecar of. -/
def archive? (name : String) : Option String :=
  match (dropFront? front.toList name.toList).bind (dropBack? back.toList) with
  | none | some [] => none
  | some archive => some (String.ofList archive)

theorem archive?_eq_some_iff {n a : String} : archive? n = some a ↔ a ≠ "" ∧ n = name a := by
  unfold archive?
  constructor
  · intro h
    split at h
    · cases h
    · cases h
    · rename_i archive hne heq
      cases h
      obtain ⟨r, hr, hb⟩ := Option.bind_eq_some_iff.1 heq
      rw [dropFront?_eq_some_iff] at hr
      rw [dropBack?_eq_some_iff] at hb
      refine ⟨fun h => hne (by simpa using congrArg String.toList h), ?_⟩
      apply String.toList_inj.1
      rw [hr, hb]
      simp [name]
  · rintro ⟨hne, rfl⟩
    have h1 : dropFront? front.toList (name a).toList = some (a.toList ++ back.toList) := by
      rw [dropFront?_eq_some_iff]; simp [name]
    have h2 : dropBack? back.toList (a.toList ++ back.toList) = some a.toList := by
      rw [dropBack?_eq_some_iff]
    rw [h1]
    simp only [Option.bind_some, h2]
    have h3 : a.toList ≠ [] := by simpa using hne
    cases ha : a.toList with
    | nil => exact absurd ha h3
    | cons c r => simp [← ha]

end GuestVault.Sidecar
