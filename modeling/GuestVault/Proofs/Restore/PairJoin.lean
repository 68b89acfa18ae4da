import GuestVault.Restore.PairJoin
import Mathlib.Data.List.Sort
import Mathlib.Data.String.Basic

/-!
# The table of waiting halves

The entries of a `PairJoin` stand in strictly ascending order of their keys (`Ascending`), so there
is at most one for each key and `get?` says all about it.

1. `get?_insert`, `get?_erase`: what the changes do to the halves that wait.
2. `entries_insert_perm`, `entries_perm_erase`: an insertion adds one entry and a removal takes one
   away; nothing else comes or goes.
3. `filter_entries`, `mem_entries_iff`: the entries under one key are what `get?` finds there.
-/

namespace GuestVault.PairJoin

variable {α β κ : Type} {j : PairJoin α β κ} {key key' : κ} {half : Side α β}

/-- The keys ascend strictly. -/
def Ascending [LT κ] (j : PairJoin α β κ) : Prop :=
  j.entries.Pairwise fun a b => a.1 < b.1

theorem ascending_empty [LT κ] : ({} : PairJoin α β κ).Ascending := List.Pairwise.nil

variable [DecidableEq κ]

theorem lookup_cons_of_ne {k : κ} (h : key ≠ k) (es : List (κ × Side α β)) :
    ((k, half) :: es).lookup key = es.lookup key := by
  have hb : (key == k) = false := by simp [h]
  rw [List.lookup_cons, hb]

/-! ## Removal -/

theorem Ascending.erase [LT κ] (h : j.Ascending) : (j.erase key).Ascending :=
  List.Pairwise.filter _ h

theorem get?_erase : (j.erase key).get? key' = if key' = key then none else j.get? key' := by
  unfold get? erase
  induction j.entries with
  | nil => exact (ite_self none).symm
  | cons e es ih =>
    obtain ⟨k, held⟩ := e
    by_cases hk : k = key
    · rw [List.filter_cons_of_neg (by simp [hk]), ih]
      split_ifs with h
      · rfl
      · rw [lookup_cons_of_ne (hk ▸ h)]
    · rw [List.filter_cons_of_pos (by simp [hk])]
      by_cases h : key' = key
      · rw [if_pos h] at ih ⊢
        rw [lookup_cons_of_ne (h ▸ Ne.symm hk), ih]
      · rw [if_neg h] at ih ⊢
        rw [List.lookup_cons, List.lookup_cons, ih]

theorem erase_eq_self (h : j.get? key = none) : (j.erase key).entries = j.entries := by
  refine List.filter_eq_self.mpr fun e he => ?_
  have hne : e.1 ≠ key := by
    rintro rfl
    exact absurd he (fun he => by
      have := List.lookup_eq_none_iff.mp h e he
      simp at this)
  simpa using hne

variable [LT κ]

section Irreflexive

variable [Std.Irrefl (α := κ) (· < ·)]

theorem filter_ne_of_pairwise_cons {e : κ × Side α β} {es : List (κ × Side α β)}
    (h : (e :: es).Pairwise fun a b => a.1 < b.1) : es.filter (·.1 ≠ e.1) = es := by
  refine List.filter_eq_self.mpr fun d hd => ?_
  have hlt := (List.pairwise_cons.mp h).1 d hd
  have hne : d.1 ≠ e.1 := fun heq => Std.Irrefl.irrefl _ (heq ▸ hlt)
  simpa using hne

theorem entries_perm_erase (h : j.Ascending) (hget : j.get? key = some half) :
    j.entries.Perm ((key, half) :: (j.erase key).entries) := by
  unfold Ascending at h
  unfold get? at hget
  unfold erase
  induction hes : j.entries generalizing j with
  | nil => rw [hes] at hget; exact absurd hget.symm (Option.some_ne_none half)
  | cons e es ih =>
    rw [hes] at h hget
    obtain ⟨k, held⟩ := e
    by_cases hk : key = k
    · subst hk
      rw [List.lookup_cons_self, Option.some.injEq] at hget
      rw [List.filter_cons_of_neg (by simp), filter_ne_of_pairwise_cons h, hget]
    · have hb : (key == k) = false := by simp [hk]
      rw [List.lookup_cons, hb] at hget
      rw [List.filter_cons_of_pos (by simp [Ne.symm hk])]
      have hperm := ih (j := { entries := es }) (List.pairwise_cons.mp h).2 hget rfl
      exact (hperm.cons (k, held)).trans (List.Perm.swap _ _ _)

theorem filter_entries (h : j.Ascending) (key : κ) :
    j.entries.filter (·.1 = key) = (j.get? key).toList.map (key, ·) := by
  unfold Ascending at h
  unfold get?
  induction hes : j.entries generalizing j with
  | nil => rfl
  | cons e es ih =>
    rw [hes] at h
    have ih := ih (j := { entries := es }) (List.pairwise_cons.mp h).2 rfl
    obtain ⟨k, held⟩ := e
    by_cases hk : key = k
    · subst hk
      rw [List.filter_cons_of_pos (by simp), List.lookup_cons_self]
      have hnone : es.filter (·.1 = key) = [] := by
        rw [← filter_ne_of_pairwise_cons h, List.filter_filter]
        exact List.filter_eq_nil_iff.mpr fun d _ => by simp
      rw [hnone]; rfl
    · rw [List.filter_cons_of_neg (by simp [Ne.symm hk]), lookup_cons_of_ne hk, ih]

theorem mem_entries_iff (h : j.Ascending) : (key, half) ∈ j.entries ↔ j.get? key = some half := by
  have hfilter := filter_entries h key
  constructor
  · intro hmem
    have hmem' : (key, half) ∈ j.entries.filter (·.1 = key) := by simp [hmem]
    rw [hfilter] at hmem'
    simpa using hmem'
  · intro hget
    have hmem : (key, half) ∈ j.entries.filter (·.1 = key) := by
      rw [hfilter, hget]
      simp
    exact (List.mem_filter.mp hmem).1

end Irreflexive

/-- A table is told by what waits under its keys. -/
theorem ext_of_get? [IsStrictTotalOrder κ (· < ·)] {j' : PairJoin α β κ} (h : j.Ascending)
    (h' : j'.Ascending) (heq : ∀ key, j.get? key = j'.get? key) : j = j' := by
  have : Std.Irrefl fun a b : κ × Side α β => a.1 < b.1 := ⟨fun a => Std.Irrefl.irrefl a.1⟩
  have : Std.Antisymm fun a b : κ × Side α β => a.1 < b.1 :=
    ⟨fun a b hab hba => absurd (IsTrans.trans _ _ _ hab hba) (Std.Irrefl.irrefl a.1)⟩
  have hentries : j.entries = j'.entries := by
    refine List.Pairwise.eq_of_mem_iff h h' fun e => ?_
    obtain ⟨key, half⟩ := e
    rw [mem_entries_iff h, mem_entries_iff h', heq]
  cases j
  cases j'
  exact congrArg PairJoin.mk hentries

/-! ## Insertion -/

variable [DecidableLT κ]

theorem lookup_insertEntry (es : List (κ × Side α β)) :
    (insertEntry key half es).lookup key' = if key' = key then some half else es.lookup key' := by
  induction es with
  | nil =>
    unfold insertEntry
    split_ifs with h
    · rw [h, List.lookup_cons_self]
    · exact lookup_cons_of_ne h []
  | cons e es ih =>
    obtain ⟨k, held⟩ := e
    unfold insertEntry
    by_cases h : key' = key
    · subst h
      rw [if_pos rfl] at ih ⊢
      split_ifs with hlt heq
      · exact List.lookup_cons_self
      · exact List.lookup_cons_self
      · rw [lookup_cons_of_ne heq, ih]
    · rw [if_neg h] at ih ⊢
      split_ifs with hlt heq
      · exact lookup_cons_of_ne h _
      · rw [lookup_cons_of_ne h, lookup_cons_of_ne (heq ▸ h)]
      · rw [List.lookup_cons, List.lookup_cons, ih]

theorem insertEntry_perm {es : List (κ × Side α β)} (h : es.lookup key = none) :
    (insertEntry key half es).Perm ((key, half) :: es) := by
  induction es with
  | nil => exact List.Perm.refl _
  | cons e es ih =>
    obtain ⟨k, held⟩ := e
    have hne : key ≠ k := by
      rintro rfl
      rw [List.lookup_cons_self] at h
      exact Option.some_ne_none held h
    rw [lookup_cons_of_ne hne] at h
    unfold insertEntry
    rw [if_neg hne]
    split_ifs with hlt
    · exact List.Perm.refl _
    · exact ((ih h).cons (k, held)).trans (List.Perm.swap _ _ _)

theorem mem_insertEntry {es : List (κ × Side α β)} {e : κ × Side α β}
    (he : e ∈ insertEntry key half es) : e = (key, half) ∨ e ∈ es := by
  induction es with
  | nil => exact Or.inl (List.mem_singleton.mp he)
  | cons d es ih =>
    obtain ⟨k, held⟩ := d
    unfold insertEntry at he
    split_ifs at he with hlt heq
    · exact List.mem_cons.mp he
    · rcases List.mem_cons.mp he with he | he
      · exact Or.inl he
      · exact Or.inr (List.mem_cons_of_mem _ he)
    · rcases List.mem_cons.mp he with he | he
      · exact Or.inr (he ▸ List.mem_cons_self)
      · exact (ih he).imp_right (List.mem_cons_of_mem _)

theorem pairwise_insertEntry [IsStrictTotalOrder κ (· < ·)] {es : List (κ × Side α β)}
    (h : es.Pairwise fun a b => a.1 < b.1) :
    (insertEntry key half es).Pairwise fun a b => a.1 < b.1 := by
  induction es with
  | nil => exact List.pairwise_singleton _ _
  | cons d es ih =>
    obtain ⟨k, held⟩ := d
    obtain ⟨hd, hes⟩ := List.pairwise_cons.mp h
    unfold insertEntry
    split_ifs with hlt heq
    · refine List.pairwise_cons.mpr ⟨fun e he => ?_, h⟩
      rcases List.mem_cons.mp he with rfl | he
      · exact hlt
      · exact IsTrans.trans _ _ _ hlt (hd e he)
    · exact List.pairwise_cons.mpr ⟨fun e he => heq ▸ hd e he, hes⟩
    · refine List.pairwise_cons.mpr ⟨fun e he => ?_, ih hes⟩
      rcases mem_insertEntry he with rfl | he
      · -- neither smaller nor equal, so the new key comes later
        rcases Decidable.em (k < key) with hk | hk
        · exact hk
        · exact absurd (Std.Trichotomous.trichotomous _ _ hlt hk) heq
      · exact hd e he

theorem Ascending.insert [IsStrictTotalOrder κ (· < ·)] (h : j.Ascending) :
    (j.insert key half).Ascending :=
  pairwise_insertEntry h

theorem get?_insert : (j.insert key half).get? key' =
    if key' = key then some half else j.get? key' :=
  lookup_insertEntry j.entries

theorem entries_insert_perm (h : j.get? key = none) :
    (j.insert key half).entries.Perm ((key, half) :: j.entries) :=
  insertEntry_perm h

end GuestVault.PairJoin
