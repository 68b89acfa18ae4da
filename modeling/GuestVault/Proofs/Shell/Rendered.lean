import GuestVault.Command
import GuestVault.Shell.Line
import Mathlib.Data.List.Basic

/-!
# Rendered commands

A shell that splits a rendered command into tokens finds the words of the command again, and no
character that is left bare means anything but itself to it.

1. `tokensAfter_append`: characters that are inert where they are bare make up one word.
2. `exists_reads_quote`: a quoted word is read as that word, whatever follows it.
3. `Reads.blank`: what is put together with a blank is read as one after the other.
4. `render_reads_back`: a whole line, with and without a redirection.
-/

namespace GuestVault.Command

open GuestVault.Shell.Line

variable {c : Char} {text more w : List Char} {line rest : List Marked} {before after : List Token}
  {t u : Token}

/-! ## Inert characters -/

theorem ne_of_isInert {d : Char} (hc : isInert c = true) (hd : isInert d = false) : c ≠ d := by
  rintro rfl
  rw [hc] at hd
  cases hd

theorem isBlank_of_isInert (hc : isInert c = true) : isBlank c = false := by
  unfold isBlank
  simp [ne_of_isInert hc (show isInert ' ' = false by decide),
    ne_of_isInert hc (show isInert '\t' = false by decide)]

theorem isOperator_of_isInert (hc : isInert c = true) : isOperator [c] = false := by
  have hall : operators.all (fun o => !(o.take 1).any isInert) = true := by decide
  refine (Bool.not_eq_true _).mp fun hmem => ?_
  have hbare := List.all_eq_true.mp hall [c] (List.contains_iff_mem.mp hmem)
  simp [hc] at hbare

/-! ## Words -/

/-- The token of a word. -/
def tokenOf (word : String) : Token :=
  .word word.toList

theorem tokenOf_injective : Function.Injective tokenOf :=
  fun _ _ h => String.toList_inj.mp (Token.word.inj h)

/-- The characters of a word, without what quotes them. -/
def textOf (line : List Marked) : List Char :=
  line.filterMap fun (c, role) => if role = .mark then none else some c

theorem bare_append (line rest : List Marked) : bare (line ++ rest) = bare line ++ bare rest :=
  List.filterMap_append

theorem textOf_append (line rest : List Marked) :
    textOf (line ++ rest) = textOf line ++ textOf rest :=
  List.filterMap_append

/-- A character that is inert or not bare continues a word. -/
theorem extend?_word {m : Marked} (hm : ∀ x ∈ bare [m], isInert x = true) (w : List Char) :
    (Token.word w).extend? m = some (.word (w ++ textOf [m])) := by
  rcases m with ⟨c, _ | _ | _⟩
  · have hc : isInert c = true := hm c (by simp [bare])
    simp [Token.extend?, textOf, isBlank_of_isInert hc, isOperator_of_isInert hc]
  · simp [Token.extend?, textOf]
  · simp [Token.extend?, textOf]

theorem begin?_word {m : Marked} (hm : ∀ x ∈ bare [m], isInert x = true) :
    Token.begin? m = some (.word (textOf [m])) := by
  rcases m with ⟨c, _ | _ | _⟩
  · have hc : isInert c = true := hm c (by simp [bare])
    simp [Token.begin?, textOf, isBlank_of_isInert hc, isOperator_of_isInert hc]
  · simp [Token.begin?, textOf]
  · simp [Token.begin?, textOf]

theorem inert_cons {m : Marked} (h : ∀ x ∈ bare (m :: line), isInert x = true) :
    (∀ x ∈ bare [m], isInert x = true) ∧ ∀ x ∈ bare line, isInert x = true := by
  have hsplit := bare_append [m] line
  rw [List.singleton_append] at hsplit
  rw [hsplit] at h
  exact List.forall_mem_append.mp h

/-- Characters that are inert where they are bare continue a word. -/
theorem tokensAfter_append (hline : ∀ x ∈ bare line, isInert x = true) (w : List Char)
    (rest : List Marked) :
    tokensAfter (some (.word w)) (line ++ rest) =
      tokensAfter (some (.word (w ++ textOf line))) rest := by
  induction line generalizing w with
  | nil => simp [textOf]
  | cons m line ih =>
    obtain ⟨hm, hline⟩ := inert_cons hline
    rw [List.cons_append, tokensAfter, Option.bind_some, extend?_word hm]
    dsimp only
    rw [ih hline, List.append_assoc, ← textOf_append, List.singleton_append]

theorem tokensAfter_none_append (hne : line ≠ []) (hline : ∀ x ∈ bare line, isInert x = true)
    (rest : List Marked) :
    tokensAfter none (line ++ rest) = tokensAfter (some (.word (textOf line))) rest := by
  obtain ⟨m, line, rfl⟩ := List.exists_cons_of_ne_nil hne
  obtain ⟨hm, hline⟩ := inert_cons hline
  rw [List.cons_append, tokensAfter, Option.bind_none, begin?_word hm]
  dsimp only
  rw [Option.toList_none, List.nil_append, tokensAfter_append hline, ← textOf_append,
    List.singleton_append]

theorem count_operator_words (words : List String) (o : List Char) :
    (words.map tokenOf).count (.operator o) = 0 :=
  List.count_eq_zero.mpr (by simp [tokenOf])

/-! ## Reading a part of a line -/

/-- A shell that comes to this text outside quotes and between tokens reads it as these tokens. The
last one may go on after it. All bare characters are inert but for one blank after each token but the
last, and for the redirections. -/
structure Reads (text : List Char) (before : List Token) (last : Token) (line : List Marked) :
    Prop where
  marked : ∀ more, marked? .outside (text ++ more) = (marked? .outside more).map (line ++ ·)
  split : ∀ rest, tokensAfter none (line ++ rest) = before ++ tokensAfter (some last) rest
  inert : ∀ x ∈ bare line, x = ' ' ∨ x = '>' ∨ isInert x = true
  blanks : (bare line).count ' ' = before.length
  redirections : (bare line).count '>' = (before ++ [last]).count (.operator ['>'])

theorem marked?_bare (hquote : c ≠ '\'') (hslash : c ≠ '\\') (more : List Char) :
    marked? .outside (c :: more) = (marked? .outside more).map ((c, .bare) :: ·) := by
  rw [marked?, if_neg hquote, if_neg hslash]

theorem reads_word (hmarked : ∀ more, marked? .outside (text ++ more) =
      (marked? .outside more).map (line ++ ·))
    (hne : line ≠ []) (hinert : ∀ x ∈ bare line, isInert x = true) (hword : textOf line = w) :
    Reads text [] (.word w) line where
  marked := hmarked
  split rest := by rw [tokensAfter_none_append hne hinert, hword, List.nil_append]
  inert x hx := Or.inr (Or.inr (hinert x hx))
  blanks := List.count_eq_zero.mpr fun h => absurd (hinert _ h) (by decide)
  redirections := List.count_eq_zero.mpr fun h => absurd (hinert _ h) (by decide)

theorem extend?_blank (t : Token) : t.extend? (' ', .bare) = none := by
  cases t with
  | word w => rfl
  | operator o =>
    have hall : operators.all (fun o => !o.contains ' ') = true := by decide
    refine if_neg fun hmem => ?_
    have hblank := List.all_eq_true.mp hall _ (List.contains_iff_mem.mp hmem)
    simp at hblank

/-- **Texts with a blank between them are read one after the other.** -/
theorem Reads.blank {line' : List Marked} (h : Reads text before t line)
    (h' : Reads more after u line') :
    Reads (text ++ ' ' :: more) (before ++ t :: after) u (line ++ (' ', .bare) :: line') where
  marked rest := by
    rw [List.append_assoc, h.marked, List.cons_append, marked?_bare (by decide) (by decide),
      h'.marked, Option.map_map, Option.map_map]
    simp [Function.comp_def]
  split rest := by
    rw [List.append_assoc, h.split, List.cons_append, tokensAfter, Option.bind_some, extend?_blank]
    show before ++ (t :: tokensAfter none (line' ++ rest)) = _
    rw [h'.split, List.append_assoc, List.cons_append]
  inert x hx := by
    rw [bare_append, List.mem_append] at hx
    rcases hx with hx | hx
    · exact h.inert x hx
    · rcases List.mem_cons.mp hx with rfl | hx
      · exact Or.inl rfl
      · exact h'.inert x hx
  blanks := by
    have hblank : bare ((' ', .bare) :: line') = ' ' :: bare line' := rfl
    rw [bare_append, hblank, List.count_append, h.blanks, List.count_cons_self, h'.blanks,
      List.length_append, List.length_cons]
  redirections := by
    have hblank : bare ((' ', .bare) :: line') = ' ' :: bare line' := rfl
    rw [bare_append, hblank, List.count_append, h.redirections, List.count_cons_of_ne (by decide),
      h'.redirections, ← List.count_append]
    simp

/-! ## Quoted words -/

/-- What a shell reads inside the quotes. -/
def quotedMarks : List Char → List Marked
  | [] => []
  | c :: r =>
    if c = '\'' then
      [('\'', .mark), ('\\', .mark), ('\'', .literal), ('\'', .mark)] ++ quotedMarks r
    else (c, .literal) :: quotedMarks r

theorem bare_quotedMarks (s : List Char) : bare (quotedMarks s) = [] := by
  induction s with
  | nil => rfl
  | cons c s ih =>
    rw [quotedMarks]
    split
    · exact ih
    · exact ih

theorem textOf_quotedMarks (s : List Char) : textOf (quotedMarks s) = s := by
  induction s with
  | nil => rfl
  | cons c s ih =>
    rw [quotedMarks]
    split
    · rename_i hc
      rw [textOf_append, ih, hc]
      rfl
    · show c :: textOf (quotedMarks s) = c :: s
      rw [ih]

/-- A quote inside a word closes the quotes, is escaped, and opens them again. -/
theorem marked?_quoteChars (s more : List Char) :
    marked? .inside (quoteChars s ++ '\'' :: more) =
      (marked? .outside more).map (quotedMarks s ++ ('\'', .mark) :: ·) := by
  induction s with
  | nil => simp [quoteChars, quotedMarks, marked?]
  | cons c s ih =>
    rw [quoteChars, quotedMarks]
    by_cases hc : c = '\''
    · rw [if_pos hc, if_pos hc]
      show marked? .inside ('\'' :: '\\' :: '\'' :: '\'' :: (quoteChars s ++ '\'' :: more)) = _
      simp [marked?, ih, Function.comp_def]
    · rw [if_neg hc, if_neg hc, List.cons_append, marked?, if_neg hc, ih, Option.map_map]
      rfl

theorem marked?_inert {s : List Char} (hs : ∀ x ∈ s, isInert x = true) (more : List Char) :
    marked? .outside (s ++ more) = (marked? .outside more).map (s.map (·, .bare) ++ ·) := by
  induction s with
  | nil => simp
  | cons c s ih =>
    obtain ⟨hc, hs⟩ := List.forall_mem_cons.mp hs
    rw [List.cons_append, marked?_bare (ne_of_isInert hc (by decide)) (ne_of_isInert hc (by decide)),
      ih hs, Option.map_map]
    rfl

/-- **A quoted word is read as the word**, and nothing in it but inert characters is bare. -/
theorem exists_reads_quote (s : String) : ∃ line, Reads (quote s).toList [] (tokenOf s) line := by
  unfold quote
  by_cases hempty : s.toList = []
  · rw [if_pos hempty]
    refine ⟨[('\'', .mark), ('\'', .mark)],
      reads_word (fun more => ?_) (by simp) nofun hempty.symm⟩
    show marked? .outside ('\'' :: '\'' :: more) = _
    simp [marked?, Function.comp_def]
  rw [if_neg hempty]
  by_cases hinert : s.toList.all isInert = true
  · rw [if_pos hinert]
    rw [List.all_eq_true] at hinert
    have hbare : bare (s.toList.map (·, .bare)) = s.toList := by
      simp [bare, List.filterMap_map]
    refine ⟨_, reads_word (marked?_inert hinert) (by simpa using hempty) ?_ ?_⟩
    · rwa [hbare]
    · simp [textOf, List.filterMap_map]
  · rw [if_neg hinert, String.toList_ofList]
    refine ⟨('\'', .mark) :: quotedMarks s.toList ++ [('\'', .mark)],
      reads_word (fun more => ?_) (by simp) (fun x hx => ?_) ?_⟩
    · rw [List.append_assoc, List.cons_append, marked?, if_pos rfl, List.singleton_append,
        marked?_quoteChars, Option.map_map]
      simp [Function.comp_def]
    · have hnone : bare (('\'', .mark) :: quotedMarks s.toList ++ [('\'', .mark)]) = [] := by
        rw [bare_append]
        show bare (quotedMarks s.toList) ++ [] = []
        rw [bare_quotedMarks, List.append_nil]
      rw [hnone] at hx
      cases hx
    · rw [textOf_append]
      show textOf (quotedMarks s.toList) ++ [] = s.toList
      rw [textOf_quotedMarks, List.append_nil]

/-! ## Lines -/

theorem exists_reads_words (word : String) (others : List String) :
    ∃ before last line, Reads (" ".intercalate ((word :: others).map quote)).toList before last line ∧
      before ++ [last] = (word :: others).map tokenOf := by
  induction others generalizing word with
  | nil =>
    obtain ⟨line, hline⟩ := exists_reads_quote word
    exact ⟨[], tokenOf word, line, by simpa using hline, rfl⟩
  | cons next others ih =>
    obtain ⟨first, hfirst⟩ := exists_reads_quote word
    obtain ⟨before, last, line, hline, htokens⟩ := ih next
    refine ⟨tokenOf word :: before, last, first ++ (' ', .bare) :: line, ?_,
      congrArg (tokenOf word :: ·) htokens⟩
    have hboth := hfirst.blank hline
    rw [List.map_cons, List.map_cons, String.intercalate_cons_cons]
    simpa using hboth

theorem exists_reads_render (c : Command) : ∃ before last line,
    Reads c.render.toList before last line ∧ before ++ [last] = c.words.map tokenOf :=
  exists_reads_words c.program c.args

theorem reads_redirection : Reads ['>'] [] (.operator ['>']) [('>', .bare)] where
  marked := marked?_bare (by decide) (by decide)
  split rest := rfl
  inert := by simp [bare]
  blanks := rfl
  redirections := rfl

theorem exists_reads_renderRedirect (c : Command) (target : String) : ∃ before last line,
    Reads (c.renderRedirect target).toList before last line ∧
      before ++ [last] = c.words.map tokenOf ++ [.operator ['>'], tokenOf target] := by
  obtain ⟨before, last, line, hline, hwords⟩ := exists_reads_render c
  obtain ⟨quoted, hquoted⟩ := exists_reads_quote target
  have hall := hline.blank (reads_redirection.blank hquoted)
  have htext : c.render.toList ++ ' ' :: (['>'] ++ ' ' :: (quote target).toList) =
      (c.renderRedirect target).toList := by
    simp [renderRedirect]
  rw [htext] at hall
  refine ⟨_, _, _, hall, ?_⟩
  rw [← hwords]
  simp

theorem Reads.whole {text : String} {all : List Token} (h : Reads text.toList before t line)
    (hall : before ++ [t] = all) :
    lineOf? text = some line ∧ tokens line = all ∧
      (∀ x ∈ bare line, x = ' ' ∨ x = '>' ∨ isInert x = true) ∧
      (bare line).count ' ' + 1 = all.length ∧
      (bare line).count '>' = all.count (.operator ['>']) := by
  have hmarked := h.marked []
  have hsplit := h.split []
  rw [List.append_nil] at hmarked hsplit
  refine ⟨by simp [lineOf?, hmarked, marked?], hsplit.trans hall, h.inert, ?_, ?_⟩
  · rw [h.blanks, ← hall, List.length_append, List.length_singleton]
  · rw [h.redirections, hall]

/-- **A shell reads a rendered command as exactly its words.** Every character of the line that is
neither quoted nor escaped is inert, or one of the blanks, of which there is one between two words.
With a redirection there is one operator after these words, and then its target as one word. So no two
commands are rendered alike. -/
theorem render_reads_back (c : Command) :
    (∃ line, lineOf? c.render = some line ∧ tokens line = c.words.map tokenOf ∧
      (∀ x ∈ bare line, x = ' ' ∨ isInert x = true) ∧ (bare line).count ' ' = c.args.length) ∧
    (∀ target, ∃ line, lineOf? (c.renderRedirect target) = some line ∧
      tokens line = c.words.map tokenOf ++ [.operator ['>'], tokenOf target] ∧
      (∀ x ∈ bare line, x = ' ' ∨ x = '>' ∨ isInert x = true) ∧
      (bare line).count ' ' = c.args.length + 2 ∧ (bare line).count '>' = 1) ∧
    ∀ other : Command, c.render = other.render → c = other := by
  obtain ⟨before, last, line, hline, hwords⟩ := exists_reads_render c
  have hlength : (c.words.map tokenOf).length = c.args.length + 1 := by simp [words]
  obtain ⟨htext, htokens, hinert, hblanks, hredirections⟩ := hline.whole hwords
  refine ⟨⟨line, htext, htokens, fun x hx => ?_, by omega⟩, fun target => ?_, fun other h => ?_⟩
  · rw [count_operator_words, List.count_eq_zero] at hredirections
    exact (hinert x hx).imp_right fun h => h.resolve_left fun hx' => hredirections (hx' ▸ hx)
  · obtain ⟨before', last', line', hline', hwords'⟩ := exists_reads_renderRedirect c target
    obtain ⟨htext, htokens, hinert, hblanks, hredirections⟩ := hline'.whole hwords'
    refine ⟨line', htext, htokens, hinert, ?_, ?_⟩
    · rw [List.length_append, hlength] at hblanks
      simpa using hblanks
    · rw [hredirections, List.count_append, count_operator_words]
      rfl
  · obtain ⟨before', last', line', hline', hwords'⟩ := exists_reads_render other
    obtain ⟨htext', htokens', -⟩ := hline'.whole hwords'
    obtain rfl : line = line' := Option.some.inj (htext.symm.trans ((congrArg lineOf? h).trans htext'))
    have hsame : c.words = other.words :=
      List.map_injective_iff.mpr tokenOf_injective (htokens.symm.trans htokens')
    cases c
    cases other
    exact (Command.mk.injEq ..).mpr (List.cons.inj hsame)

end GuestVault.Command
