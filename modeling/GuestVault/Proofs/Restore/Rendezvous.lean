import GuestVault.Proofs.Restore.PairJoin
import Mathlib.Data.List.Induction

/-!
# Meetings of halves

What becomes of the halves that are offered to a `PairJoin` and taken from it, in any order.

1. `reply_step`, `get?_step`: a move looks at one key only, and changes nothing but what waits there
   (`Move.replyTo`, `Move.leaves`).
2. `ext_of_get?`: a table is told by what waits under its keys. Hence moves on different keys commute
   (`step_comm`).
3. `get?_after_iff`: the half that waits is the first that was offered since nothing waited.
4. `step_perm`: a move hands out what it takes in or took in before; nothing is lost or doubled.
5. `halves_accounted`: all this for every series of moves.
-/

namespace GuestVault

/-- Two halves together, if they are of different kinds. -/
def Side.pair? {α β : Type} : Side α β → Side α β → Option (α × β)
  | .left a, .right b | .right b, .left a => some (a, b)
  | .left _, .left _ | .right _, .right _ => none

theorem Side.pair?_eq_some_iff {α β : Type} {held half : Side α β} {a : α} {b : β} :
    held.pair? half = some (a, b) ↔
      (held = .left a ∧ half = .right b) ∨ (held = .right b ∧ half = .left a) := by
  cases held <;> cases half <;> simp [pair?, and_comm]

namespace PairJoin

/-! ## Moves -/

/-- A move on a table. -/
inductive Move (α β κ : Type) where
  | offer (key : κ) (half : Side α β)
  | take (key : κ)
deriving Repr

/-- What a move is answered. -/
inductive Reply (α β : Type) where
  | offer (outcome : Offer α β)
  | take (found : Option (Side α β))
deriving Repr, DecidableEq

variable {α β κ : Type}

namespace Move

/-- The key that a move is about. -/
def key : Move α β κ → κ
  | .offer key _ => key
  | .take key => key

/-- The half that a move brings, under its key. -/
def brought : Move α β κ → List (κ × Side α β)
  | .offer key half => [(key, half)]
  | .take _ => []

/-- The halves that a move hands out, under its key. -/
def handed (move : Move α β κ) : Reply α β → List (κ × Side α β)
  | .offer .waiting => []
  | .offer (.complete a b) => [(move.key, .left a), (move.key, .right b)]
  | .offer (.duplicate half) => [(move.key, half)]
  | .take found => found.toList.map (move.key, ·)

/-- The answer to a move when the given half waits under its key. -/
def replyTo (waits : Option (Side α β)) : Move α β κ → Reply α β
  | .take _ => .take waits
  | .offer _ half => .offer (match waits with
    | none => .waiting
    | some held => match held.pair? half with
      | some (a, b) => .complete a b
      | none => .duplicate half)

/-- What waits under the key of a move when it is done. -/
def leaves (waits : Option (Side α β)) : Move α β κ → Option (Side α β)
  | .take _ => none
  | .offer _ half => match waits with
    | none => some half
    | some held => if (held.pair? half).isSome then none else some held

/-- A half that waits is followed by nothing, not by another one. -/
theorem eq_of_leaves {move : Move α β κ} {held half : Side α β}
    (h : move.leaves (some held) = some half) : held = half := by
  cases move with
  | take key => cases h
  | offer key other =>
    dsimp only [leaves] at h
    split_ifs at h
    exact Option.some.inj h

end Move

variable [DecidableEq κ] [LT κ] [DecidableLT κ]

/-- Makes a move. -/
def step (j : PairJoin α β κ) : Move α β κ → Reply α β × PairJoin α β κ
  | .offer key half => (.offer (j.offer key half).1, (j.offer key half).2)
  | .take key => (.take (j.take key).1, (j.take key).2)

/-- The table after a series of moves. -/
def after (j : PairJoin α β κ) (moves : List (Move α β κ)) : PairJoin α β κ :=
  moves.foldl (fun j move => (j.step move).2) j

theorem after_append (j : PairJoin α β κ) (moves moves' : List (Move α β κ)) :
    j.after (moves ++ moves') = (j.after moves).after moves' :=
  List.foldl_append

theorem after_concat (j : PairJoin α β κ) (moves : List (Move α β κ)) (move : Move α β κ) :
    j.after (moves ++ [move]) = ((j.after moves).step move).2 :=
  after_append j moves [move]

/-- The halves that a series of moves hands out. -/
def handedOut (j : PairJoin α β κ) : List (Move α β κ) → List (κ × Side α β)
  | [] => []
  | move :: moves => move.handed (j.step move).1 ++ handedOut (j.step move).2 moves

/-! ## One key -/

variable {j : PairJoin α β κ} {key : κ} {move : Move α β κ} {held half : Side α β}

theorem offer_eq (j : PairJoin α β κ) (key : κ) (half : Side α β) :
    j.offer key half =
      match j.get? key with
      | none => (.waiting, j.insert key half)
      | some held => match held.pair? half with
        | some (a, b) => (.complete a b, j.erase key)
        | none => (.duplicate half, j) := by
  unfold offer
  cases j.get? key with
  | none => rfl
  | some held => cases held <;> cases half <;> rfl

/-- The answer depends on what waits under the key, and on nothing else. -/
theorem reply_step (j : PairJoin α β κ) (move : Move α β κ) :
    (j.step move).1 = move.replyTo (j.get? move.key) := by
  cases move with
  | take key => rfl
  | offer key half =>
    show Reply.offer (j.offer key half).1 = Move.replyTo (j.get? key) (.offer key half)
    rw [offer_eq]
    cases j.get? key with
    | none => rfl
    | some held =>
      dsimp only [Move.replyTo]
      cases held.pair? half <;> rfl

theorem get?_step (j : PairJoin α β κ) (move : Move α β κ) (key : κ) :
    (j.step move).2.get? key =
      if key = move.key then move.leaves (j.get? key) else j.get? key := by
  cases move with
  | take key' => exact get?_erase
  | offer key' half =>
    show (j.offer key' half).2.get? key =
      if key = key' then Move.leaves (j.get? key) (.offer key' half) else j.get? key
    rw [offer_eq]
    by_cases h : key = key'
    · subst h
      rw [if_pos rfl]
      cases hget : j.get? key with
      | none => simp [get?_insert, Move.leaves]
      | some held =>
        cases hpair : held.pair? half with
        | none => simp [Move.leaves, hpair, hget]
        | some pair => simp [Move.leaves, hpair, get?_erase]
    · rw [if_neg h]
      cases j.get? key' with
      | none => simp [get?_insert, h]
      | some held =>
        cases hpair : held.pair? half with
        | none => simp [hpair]
        | some pair => simp [hpair, get?_erase, h]

theorem get?_step_of_ne_none (hget : j.get? key = some half)
    (hne : (j.step move).2.get? key ≠ none) : (j.step move).2.get? key = some half := by
  rw [get?_step, hget] at hne ⊢
  split_ifs at hne ⊢
  · obtain ⟨held, hheld⟩ := Option.ne_none_iff_exists'.mp hne
    rw [hheld, Move.eq_of_leaves hheld]
  · rfl

/-- The half is the first that was offered under the key since nothing waited there. -/
def FirstSinceEmpty (moves : List (Move α β κ)) (key : κ) (half : Side α β) : Prop :=
  ∃ before later, moves = before ++ .offer key half :: later ∧
    (after {} before).get? key = none ∧
    ∀ front, front <+: later → (after {} (before ++ .offer key half :: front)).get? key ≠ none

theorem get?_after_of_first {before later : List (Move α β κ)}
    (hbefore : (after {} before).get? key = none)
    (hlater : ∀ front, front <+: later →
      (after {} (before ++ .offer key half :: front)).get? key ≠ none) :
    (after {} (before ++ .offer key half :: later)).get? key = some half := by
  induction later using List.reverseRecOn with
  | nil =>
    rw [after_concat, get?_step, hbefore]
    exact if_pos rfl
  | append_singleton later move ih =>
    have hsplit : before ++ .offer key half :: (later ++ [move]) =
        (before ++ .offer key half :: later) ++ [move] := by simp
    have hwaits := ih fun front hfront => hlater front (hfront.trans (List.prefix_append _ _))
    have hne := hlater (later ++ [move]) List.prefix_rfl
    rw [hsplit, after_concat] at hne ⊢
    exact get?_step_of_ne_none hwaits hne

/-- **What waits under a key** is the first half that was offered since nothing waited there. -/
theorem get?_after_iff (moves : List (Move α β κ)) :
    (after {} moves).get? key = some half ↔ FirstSinceEmpty moves key half := by
  constructor
  · induction moves using List.reverseRecOn generalizing half with
    | nil =>
      intro h
      cases h
    | append_singleton moves move ih =>
      intro h
      rw [after_concat] at h
      cases hget : (after {} moves).get? key with
      | none =>
        -- the last move has brought it
        have hmove : move = .offer key half := by
          rw [get?_step, hget] at h
          split_ifs at h with hkey
          cases move with
          | take key' => cases h
          | offer key' half' =>
            cases hkey
            cases h
            rfl
        subst hmove
        refine ⟨moves, [], rfl, hget, fun front hfront => ?_⟩
        rw [List.prefix_nil.mp hfront, after_concat, h]
        exact Option.some_ne_none half
      | some held =>
        have hsame : ((after {} moves).step move).2.get? key = some held :=
          get?_step_of_ne_none hget (by rw [h]; simp)
        rw [h] at hsame
        cases hsame
        obtain ⟨before, later, rfl, hbefore, hlater⟩ := ih hget
        refine ⟨before, later ++ [move], by simp, hbefore, fun front hfront => ?_⟩
        rcases List.prefix_concat_iff.mp hfront with rfl | hfront
        · have hsplit : before ++ .offer key half :: (later ++ [move]) =
              (before ++ .offer key half :: later) ++ [move] := by simp
          rw [hsplit, after_concat, h]
          exact Option.some_ne_none half
        · exact hlater front hfront
  · rintro ⟨before, later, rfl, hbefore, hlater⟩
    exact get?_after_of_first hbefore hlater

/-! ## All keys -/

section Order

variable [IsStrictTotalOrder κ (· < ·)]

theorem Ascending.step (h : j.Ascending) (move : Move α β κ) : (j.step move).2.Ascending := by
  cases move with
  | take key => exact h.erase
  | offer key half =>
    show (j.offer key half).2.Ascending
    rw [offer_eq]
    cases j.get? key with
    | none => exact h.insert
    | some held =>
      dsimp only
      cases held.pair? half with
      | none => exact h
      | some pair => exact h.erase

theorem Ascending.after (h : j.Ascending) (moves : List (Move α β κ)) :
    (j.after moves).Ascending := by
  induction moves generalizing j with
  | nil => exact h
  | cons move moves ih => exact ih (h.step move)

/-- **Moves on different keys commute**: each is answered the same before the other and after it, and
the table is the same in the end. -/
theorem step_comm (h : j.Ascending) {move' : Move α β κ} (hne : move.key ≠ move'.key) :
    ((j.step move').2.step move).1 = (j.step move).1 ∧
      ((j.step move).2.step move').1 = (j.step move').1 ∧
      ((j.step move').2.step move).2 = ((j.step move).2.step move').2 := by
  refine ⟨?_, ?_, ?_⟩
  · rw [reply_step, reply_step, get?_step, if_neg hne]
  · rw [reply_step, reply_step, get?_step, if_neg hne.symm]
  · refine ext_of_get? ((h.step _).step _) ((h.step _).step _) fun key => ?_
    simp only [get?_step]
    by_cases hkey : key = move.key
    · have hkey' : ¬ key = move'.key := fun h => hne (hkey.symm.trans h)
      rw [if_pos hkey, if_neg hkey', if_neg hkey', if_pos hkey]
    · rw [if_neg hkey, if_neg hkey]

theorem insert_erase (h : j.Ascending) (hget : j.get? key = some held) :
    (j.erase key).insert key held = j := by
  refine ext_of_get? h.erase.insert h fun key' => ?_
  rw [get?_insert, get?_erase]
  split_ifs with hkey
  · rw [hkey, hget]
  · rfl

/-! ## Conservation -/

/-- **A move loses nothing**: what was there and what it brings is what it hands out and what is there
when it is done. -/
theorem step_perm (h : j.Ascending) (move : Move α β κ) :
    (j.entries ++ move.brought).Perm (move.handed (j.step move).1 ++ (j.step move).2.entries) := by
  cases move with
  | take key =>
    show (j.entries ++ []).Perm ((j.get? key).toList.map (key, ·) ++ (j.erase key).entries)
    rw [List.append_nil]
    cases hget : j.get? key with
    | none =>
      rw [erase_eq_self hget]
      exact List.Perm.refl _
    | some half => exact entries_perm_erase h hget
  | offer key half =>
    show (j.entries ++ [(key, half)]).Perm
      ((Move.offer key half).handed (.offer (j.offer key half).1) ++ (j.offer key half).2.entries)
    rw [offer_eq]
    refine List.perm_append_comm.trans ?_
    cases hget : j.get? key with
    | none => exact (entries_insert_perm hget).symm
    | some held =>
      have herase := entries_perm_erase h hget
      cases hpair : held.pair? half with
      | none => simp [hpair, Move.handed, Move.key]
      | some pair =>
        obtain ⟨a, b⟩ := pair
        simp only [hpair, Move.handed, Move.key]
        rcases Side.pair?_eq_some_iff.mp hpair with ⟨rfl, rfl⟩ | ⟨rfl, rfl⟩
        · exact (herase.cons _).trans (List.Perm.swap _ _ _)
        · exact herase.cons _

theorem after_perm (h : j.Ascending) (moves : List (Move α β κ)) :
    (j.entries ++ moves.flatMap Move.brought).Perm (j.handedOut moves ++ (j.after moves).entries) := by
  induction moves generalizing j with
  | nil => simp [handedOut, PairJoin.after]
  | cons move moves ih =>
    have hhere := (step_perm h move).append_right (moves.flatMap Move.brought)
    have hrest := (ih (h.step move)).append_left (move.handed (j.step move).1)
    rw [List.append_assoc, List.append_assoc] at hhere
    rw [List.flatMap_cons, handedOut, List.append_assoc]
    exact hhere.trans hrest

/-! ## Series of moves -/

/-- How a move is answered after some others: by what was offered under its key since nothing waited
there. -/
inductive Answered (before : List (Move α β κ)) : Move α β κ → Reply α β → Prop where
  /-- The first half of a key waits. -/
  | waits {key : κ} (half : Side α β) (hnone : ∀ held, ¬ FirstSinceEmpty before key held) :
    Answered before (.offer key half) (.offer .waiting)
  /-- A half of the other kind completes it. -/
  | completes {key : κ} {held half : Side α β} {a : α} {b : β}
      (hheld : FirstSinceEmpty before key held) (hpair : held.pair? half = some (a, b)) :
    Answered before (.offer key half) (.offer (.complete a b))
  /-- A half of the same kind is handed back. -/
  | repeats {key : κ} {held half : Side α β} (hheld : FirstSinceEmpty before key held)
      (hpair : held.pair? half = none) :
    Answered before (.offer key half) (.offer (.duplicate half))
  /-- What waits is taken. -/
  | finds {key : κ} {held : Side α β} (hheld : FirstSinceEmpty before key held) :
    Answered before (.take key) (.take (some held))
  /-- Nothing waits. -/
  | misses {key : κ} (hnone : ∀ held, ¬ FirstSinceEmpty before key held) :
    Answered before (.take key) (.take none)

omit [IsStrictTotalOrder κ (· < ·)] in
theorem answered_step (before : List (Move α β κ)) (move : Move α β κ) :
    Answered before move ((after {} before).step move).1 := by
  rw [reply_step]
  cases hget : (after {} before).get? move.key with
  | none =>
    have hnone : ∀ held, ¬ FirstSinceEmpty before move.key held := by
      intro held hheld
      rw [(get?_after_iff before).mpr hheld] at hget
      cases hget
    cases move with
    | take key => exact .misses hnone
    | offer key half => exact .waits half hnone
  | some held =>
    have hheld := (get?_after_iff before).mp hget
    cases move with
    | take key => exact .finds hheld
    | offer key half =>
      dsimp only [Move.replyTo]
      cases hpair : held.pair? half with
      | none => exact .repeats hheld hpair
      | some pair => exact .completes hheld hpair

/-- A half that is handed back changes nothing, and what waits is what waited before it was looked at. -/
theorem step_of_duplicate (h : j.Ascending) {back : Side α β}
    (hreply : (j.step (.offer key half)).1 = .offer (.duplicate back)) :
    back = half ∧ (j.step (.offer key half)).2 = j ∧
      ∃ held, j.get? key = some held ∧ (j.erase key).insert key held = j := by
  show back = half ∧ (j.offer key half).2 = j ∧ _
  have hoffer : (j.offer key half).1 = .duplicate back := Reply.offer.inj hreply
  rw [offer_eq] at hoffer ⊢
  cases hget : j.get? key with
  | none =>
    rw [hget] at hoffer
    cases hoffer
  | some held =>
    rw [hget] at hoffer
    dsimp only at hoffer ⊢
    cases hpair : held.pair? half with
    | none =>
      rw [hpair] at hoffer
      cases hoffer
      exact ⟨rfl, rfl, held, rfl, insert_erase h hget⟩
    | some pair =>
      rw [hpair] at hoffer
      cases hoffer

/-- **Halves are neither lost, doubled nor mixed up.** In every series of offers and takings, whatever
the keys and the halves, which may carry their places to tell equal ones apart:

* the halves that were offered are those that were handed out, in a pair, as duplicates, or because
  they were taken, together with those that wait in the end, each under its own key;
* every offer is answered by the first half that was offered under its key since nothing waited there:
  both are completed if they are of different kinds, and else the new one is handed back. What is taken
  is that first half, too;
* a half that is handed back leaves everything as it was, also if what waits is taken out to be looked
  at and put back;
* moves on different keys commute;
* in the end the halves that wait are in strictly ascending order of their keys, and each is the first
  that was offered under its key since nothing waited there. -/
theorem halves_accounted (moves : List (Move α β κ)) :
    (moves.flatMap Move.brought).Perm
      (handedOut {} moves ++ (after {} moves).orphans) ∧
    (∀ before move later, moves = before ++ move :: later →
      Answered before move ((after {} before).step move).1) ∧
    (∀ before key half later, moves = before ++ .offer key half :: later →
      ∀ back, ((after {} before).step (.offer key half)).1 = .offer (.duplicate back) →
        back = half ∧ after {} (before ++ [.offer key half]) = after {} before ∧
          ∃ held, (after {} before).get? key = some held ∧
            ((after {} before).erase key).insert key held = after {} before) ∧
    (∀ before move move' later, moves = before ++ move :: move' :: later → move.key ≠ move'.key →
      ((after {} (before ++ [move'])).step move).1 = ((after {} before).step move).1 ∧
      ((after {} (before ++ [move])).step move').1 = ((after {} before).step move').1 ∧
      after {} (before ++ move' :: move :: later) = after {} moves) ∧
    ((after {} moves).orphans.Pairwise fun a b => a.1 < b.1) ∧
    ∀ key half, (key, half) ∈ (after {} moves).orphans ↔ FirstSinceEmpty moves key half := by
  have hasc (moves : List (Move α β κ)) : (after {} moves).Ascending := ascending_empty.after moves
  refine ⟨?_, fun before move _ _ => answered_step before move, ?_, ?_, hasc moves, fun key half => ?_⟩
  · exact after_perm ascending_empty moves
  · intro before key half later _ back hreply
    rw [after_concat]
    exact step_of_duplicate (hasc before) hreply
  · rintro before move move' later rfl hne
    obtain ⟨hmove, hmove', htable⟩ := step_comm (hasc before) hne
    rw [after_concat, after_concat]
    refine ⟨hmove, hmove', ?_⟩
    rw [after_append, after_append]
    show ((((after {} before).step move').2.step move).2).after later = _
    rw [htable]
    rfl
  · exact (mem_entries_iff (hasc moves)).trans (get?_after_iff moves)

/-- Halves of three names arrive in a mixed order. -/
def arrivals : List (Move Nat Char String) :=
  [.offer "b" (.left 1), .offer "a" (.left 2), .offer "b" (.left 3), .offer "c" (.right 'x'),
    .offer "b" (.right 'y'), .take "c", .take "c", .offer "b" (.right 'z')]

theorem arrivals_accounted :
    IsStrictTotalOrder String (· < ·) ∧
    (arrivals.flatMap Move.brought).Perm
      (handedOut {} arrivals ++ (after {} arrivals).orphans) ∧
    handedOut {} arrivals =
      [("b", .left 3), ("b", .left 1), ("b", .right 'y'), ("c", .right 'x')] ∧
    (after {} arrivals).orphans = [("a", .left 2), ("b", .right 'z')] ∧
    FirstSinceEmpty arrivals "b" (.right 'z') := by
  have haccounted := halves_accounted arrivals
  have horphans : (after {} arrivals).orphans = [("a", .left 2), ("b", .right 'z')] := by decide
  refine ⟨inferInstance, haccounted.1, by decide, horphans, ?_⟩
  exact (haccounted.2.2.2.2.2 "b" (.right 'z')).mp (by rw [horphans]; simp)

end Order

end PairJoin

end GuestVault
