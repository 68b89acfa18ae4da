import GuestVault.Restore.Correlator

/-!
# Names of records

The class of a record is decided by its name: `ofName_eq_sidecar_iff`, `ofName_eq_payload_iff`. The
name of the metadata of an archive determines the archive, and the other way round, so metadata
records of one archive are namesakes (`eq_of_ofName_sidecar`).
-/

namespace GuestVault.RecordClass

open GuestVault.Text

variable {name archive : String}

/-- The name has the extension of an archive in it, in any case. -/
def HasExtension (name : String) : Prop :=
  occursIn ".vma".toList (name.toList.map Char.toLower) = true ∨
    occursIn ".tar".toList (name.toList.map Char.toLower) = true

theorem ofName_eq_sidecar_iff_archive? :
    ofName name = .sidecar archive ↔ Sidecar.archive? name = some archive := by
  unfold ofName
  cases Sidecar.archive? name with
  | some found => simp only [sidecar.injEq, Option.some.injEq]
  | none =>
    dsimp only
    cases ArchiveName.parse name with
    | ok named => exact iff_of_false nofun nofun
    | error e =>
      dsimp only
      split
      · exact iff_of_false nofun nofun
      · exact iff_of_false nofun nofun

theorem ofName_eq_sidecar_iff :
    ofName name = .sidecar archive ↔ archive ≠ "" ∧ name = Sidecar.name archive :=
  ofName_eq_sidecar_iff_archive?.trans Sidecar.archive?_eq_some_iff

theorem ofName_eq_payload_iff :
    ofName name = .payload ↔ Sidecar.archive? name = none ∧
      ((∃ named, ArchiveName.parse name = .ok named) ∨ HasExtension name) := by
  unfold ofName HasExtension
  cases Sidecar.archive? name with
  | some found => exact iff_of_false nofun (fun h => by cases h.1)
  | none =>
    dsimp only
    cases ArchiveName.parse name with
    | ok named => exact iff_of_true rfl ⟨rfl, Or.inl ⟨named, rfl⟩⟩
    | error e =>
      dsimp only
      by_cases h : (occursIn ".vma".toList (name.toList.map Char.toLower) ||
          occursIn ".tar".toList (name.toList.map Char.toLower)) = true
      · rw [if_pos h]
        exact iff_of_true rfl ⟨rfl, Or.inr (by simpa using h)⟩
      · rw [if_neg h]
        refine iff_of_false nofun ?_
        rintro ⟨-, ⟨named, hnamed⟩ | hext⟩
        · cases hnamed
        · exact h (by simpa using hext)

theorem eq_of_ofName_sidecar {other : String} (h : ofName name = .sidecar archive)
    (hother : ofName other = .sidecar archive) : other = name := by
  rw [(ofName_eq_sidecar_iff.mp h).2, (ofName_eq_sidecar_iff.mp hother).2]

end GuestVault.RecordClass
