import GuestVault.Text.Blank

/-!
# The words of a text

`Spaced` is how words stand in a text: any blanks, a word, and then a blank again or the end. Each
text has words in exactly one way, and they are what `words` gives (`words_eq_iff`).
-/

namespace GuestVault.Text

variable {c : Char} {s r w : List Char} {ws ws' : List (List Char)}

/-- A text without blanks, and not empty. -/
def IsWord (w : List Char) : Prop :=
  w ≠ [] ∧ ∀ c ∈ w, isBlank c = false

/-- The text goes on with a blank, or not at all. -/
def EndsWord (r : List Char) : Prop :=
  ∀ c t, r = c :: t → isBlank c = true

/-- The words of a text, in order. -/
inductive Spaced : List Char → List (List Char) → Prop where
  | nil : Spaced [] []
  | blank {c : Char} {s : List Char} {ws : List (List Char)} (hc : isBlank c = true)
      (h : Spaced s ws) : Spaced (c :: s) ws
  | word {w r : List Char} {ws : List (List Char)} (hw : IsWord w) (hr : EndsWord r)
      (h : Spaced r ws) : Spaced (w ++ r) (w :: ws)

/-- A text that starts with a word: the pieces are that word and those after the blank. -/
theorem segments_word_append (hw : ∀ c ∈ w, isBlank c = false) (hr : EndsWord r) :
    segments isBlank (w ++ r) = w :: (segments isBlank r).tail := by
  induction w with
  | nil =>
    cases r with
    | nil => rfl
    | cons c t => simp [segments, hr c t rfl]
  | cons c w ih =>
    obtain ⟨hc, hw⟩ := List.forall_mem_cons.mp hw
    simp [segments, hc, ih hw]

theorem head_segments (hr : EndsWord r) : segments isBlank r = [] :: (segments isBlank r).tail :=
  segments_word_append (List.forall_mem_nil _) hr

/-- The words are the pieces that are not empty. -/
theorem Spaced.filter_segments (h : Spaced s ws) :
    (segments isBlank s).filter (· ≠ []) = ws := by
  induction h with
  | nil => rfl
  | blank hc _ ih => simpa [segments, hc] using ih
  | word hw hr _ ih =>
    rw [segments_word_append hw.2 hr]
    rw [head_segments hr] at ih
    simpa [hw.1] using ih

theorem Spaced.unique (h : Spaced s ws) (h' : Spaced s ws') : ws = ws' :=
  h.filter_segments.symm.trans h'.filter_segments

theorem Spaced.cons (hc : isBlank c = false) (h : Spaced s ws) : ∃ ws', Spaced (c :: s) ws' := by
  have hone : IsWord [c] := ⟨List.cons_ne_nil c [], List.forall_mem_singleton.mpr hc⟩
  cases h with
  | nil => exact ⟨_, .word hone nofun .nil⟩
  | blank hblank h =>
    refine ⟨_, .word hone ?_ (.blank hblank h)⟩
    rintro d t ⟨⟩
    exact hblank
  | word hw hr h =>
    exact ⟨_, .word (w := c :: _) ⟨List.cons_ne_nil c _, List.forall_mem_cons.mpr ⟨hc, hw.2⟩⟩ hr h⟩

theorem exists_spaced (s : List Char) : ∃ ws, Spaced s ws := by
  induction s with
  | nil => exact ⟨[], .nil⟩
  | cons c s ih =>
    obtain ⟨ws, h⟩ := ih
    cases hc : isBlank c with
    | true => exact ⟨ws, .blank hc h⟩
    | false => exact h.cons hc

/-- **The words of a text are what stands between its blanks.** -/
theorem words_eq_iff {text : String} :
    words text = ws.map String.ofList ↔ Spaced text.toList ws := by
  obtain ⟨ws', h⟩ := exists_spaced text.toList
  unfold words
  rw [h.filter_segments, List.map_inj_right fun _ _ => String.ofList_inj.mp]
  exact ⟨fun heq => heq ▸ h, fun h' => h.unique h'⟩

end GuestVault.Text
