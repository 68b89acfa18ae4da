import GuestVault.Cancel.Threads

/-!
# The steps of threads that share a token

`Step` says once what the steps are and what each of them leads to; whatever all threads keep is shown
by its cases. The lemmas about stages say which steps a registration is in.

The operations on a token are what a thread does when no other one comes between its steps
(`run_register`, `run_cancel`); the drop of a guard is one step.
-/

namespace GuestVault.CancelToken

/-- The id of a registration, as long as it counts. -/
def Stage.id? : Stage → Option Nat
  | .numbered id | .looked id | .due id | .guarded id => some id
  | .unborn | .dropped => none

/-- The registration has come to its end. -/
def Stage.complete : Stage → Bool
  | .guarded _ | .dropped => true
  | _ => false

/-- A registration adds its hook or runs it. -/
def Act.Settles (act : Act) (name : Nat) : Prop :=
  act = .push name ∨ act = .runOwn name

instance (act : Act) (name : Nat) : Decidable (act.Settles name) :=
  inferInstanceAs (Decidable (_ ∨ _))

namespace World

variable {w w' : World} {act : Act} {acts : List Act} {name : Nat}

/-- The steps that are possible, and what they lead to. -/
inductive Step (w : World) : Act → World → Prop where
  | number {name : Nat} (hstage : w.stage name = .unborn) :
    Step w (.number name)
      { w.advance name (.numbered w.token.nextId) with token := w.token.allocate.2 }
  | find {name id : Nat} (hstage : w.stage name = .numbered id) (hfree : w.locked = false)
      (hflag : w.token.cancelled = true) : Step w (.look name) (w.advance name (.due id))
  | look {name id : Nat} (hstage : w.stage name = .numbered id) (hfree : w.locked = false)
      (hflag : w.token.cancelled = false) :
    Step w (.look name) { w.advance name (.looked id) with locked := true }
  | push {name id : Nat} (hstage : w.stage name = .looked id) :
    Step w (.push name)
      { w.advance name (.guarded id) with token := w.token.push id name, locked := false }
  | runOwn {name id : Nat} (hstage : w.stage name = .due id) :
    Step w (.runOwn name) { w.advance name (.guarded id) with ran := w.ran ++ [name] }
  | drop {name id : Nat} (hstage : w.stage name = .guarded id) (hfree : w.locked = false) :
    Step w (.drop name) { w.advance name .dropped with token := w.token.detach id }
  | raise : Step w .raise
      { w with
        token := w.token.raise.2
        cancellers := w.cancellers ++ [if w.token.cancelled then .late else .raised] }
  | take {canceller : Nat} (hcanceller : w.cancellers[canceller]? = some .raised)
      (hfree : w.locked = false) :
    Step w (.take canceller)
      { w with
        token := w.token.takeHooks.2
        cancellers := w.cancellers.set canceller (.running w.token.takeHooks.1) }
  | runNext {canceller name : Nat} {hooks : List Nat}
      (hcanceller : w.cancellers[canceller]? = some (.running (name :: hooks))) :
    Step w (.runNext canceller)
      { w with
        cancellers := w.cancellers.set canceller (.running hooks), ran := w.ran ++ [name] }

theorem Step.of_eq (h : w.step act = some w') : Step w act w' := by
  cases act with
  | number name =>
    simp only [step] at h
    split at h
    · rename_i hstage
      cases h
      exact .number hstage
    · cases h
  | look name =>
    simp only [step] at h
    split at h
    · rename_i id hstage
      cases hlocked : w.locked with
      | true =>
        rw [if_pos hlocked] at h
        cases h
      | false =>
        rw [if_neg (by rw [hlocked]; exact Bool.false_ne_true)] at h
        cases hflag : w.token.cancelled with
        | true =>
          rw [if_pos hflag] at h
          cases h
          exact .find hstage hlocked hflag
        | false =>
          rw [if_neg (by rw [hflag]; exact Bool.false_ne_true)] at h
          cases h
          exact .look hstage hlocked hflag
    · cases h
  | push name =>
    simp only [step] at h
    split at h
    · rename_i id hstage
      cases h
      exact .push hstage
    · cases h
  | runOwn name =>
    simp only [step] at h
    split at h
    · rename_i id hstage
      cases h
      exact .runOwn hstage
    · cases h
  | drop name =>
    simp only [step] at h
    split at h
    · rename_i id hstage
      split at h
      · cases h
      · rename_i hlocked
        cases h
        exact .drop hstage (Bool.eq_false_iff.mpr hlocked)
    · cases h
  | raise =>
    cases h
    exact .raise
  | take canceller =>
    simp only [step] at h
    split at h
    · rename_i hcanceller
      split at h
      · cases h
      · rename_i hlocked
        cases h
        exact .take hcanceller (Bool.eq_false_iff.mpr hlocked)
    · cases h
  | runNext canceller =>
    simp only [step] at h
    split at h
    · rename_i name hooks hcanceller
      cases h
      exact .runNext hcanceller
    · cases h

/-! ## What the stages tell of a step -/

theorem Step.dropped_iff (h : Step w act w') :
    w'.stage name = .dropped ↔ w.stage name = .dropped ∨ act = .drop name := by
  cases h <;> grind [advance]

theorem Step.guarded_of_drop (h : Step w (.drop name) w') :
    ∃ id, w.stage name = .guarded id ∧ w'.token = w.token.detach id := by
  cases h with
  | drop hstage hfree => exact ⟨_, hstage, rfl⟩

theorem Step.incomplete_of_settles (h : Step w act w') (hact : act.Settles name) :
    (w.stage name).complete = false := by
  rcases hact with rfl | rfl
  · cases h with
    | push hstage => rw [hstage]; rfl
  · cases h with
    | runOwn hstage => rw [hstage]; rfl

theorem Step.guarded_of_settles (h : Step w act w') (hact : act.Settles name) :
    ∃ id, w'.stage name = .guarded id := by
  rcases hact with rfl | rfl
  · cases h with
    | push hstage => exact ⟨_, if_pos rfl⟩
  · cases h with
    | runOwn hstage => exact ⟨_, if_pos rfl⟩

theorem Step.complete_iff (h : Step w act w') :
    (w'.stage name).complete = true ↔ (w.stage name).complete = true ∨ act.Settles name := by
  cases h <;> grind [Act.Settles, advance, Stage.complete]

theorem Step.guarded_or_drop (h : Step w act w') {id : Nat} (hstage : w.stage name = .guarded id) :
    w'.stage name = .guarded id ∨ act = .drop name := by
  cases h <;> grind [advance]

theorem Step.due_of (h : Step w act w') {id : Nat} (hstage : w'.stage name = .due id) :
    w.stage name = .due id ∨ w.token.cancelled = true := by
  cases h <;> grind [advance]

/-- A registration that has looked either had done so before, or found the lock free and the flag not
set. -/
theorem Step.looked_of (h : Step w act w') {id : Nat} (hstage : w'.stage name = .looked id) :
    w.stage name = .looked id ∨ w.locked = false ∧ w.token.cancelled = false := by
  cases h <;> grind [advance]

theorem Step.cancelled_of (h : Step w act w') (hflag : w.token.cancelled = true) :
    w'.token.cancelled = true := by
  cases h with
  | raise => rfl
  | _ => exact hflag

/-! ## What a step does to ids and hooks -/

theorem id?_advance {stage : Stage} {name' id : Nat}
    (h : ((w.advance name stage).stage name').id? = some id) :
    (w.stage name').id? = some id ∨ name' = name ∧ stage.id? = some id := by
  unfold advance at h
  dsimp only at h
  split at h
  · rename_i heq
    exact .inr ⟨heq, h⟩
  · exact .inl h

theorem Step.id_of (h : Step w act w') {id : Nat} (hid : (w'.stage name).id? = some id) :
    (w.stage name).id? = some id ∨ act = .number name ∧ id = w.token.nextId := by
  cases h with
  | number hstage =>
    rcases id?_advance hid with hbefore | ⟨rfl, hnew⟩
    · exact .inl hbefore
    · exact .inr ⟨rfl, (Option.some.inj hnew).symm⟩
  | find hstage hfree hflag | look hstage hfree hflag | push hstage | runOwn hstage =>
    rcases id?_advance hid with hbefore | ⟨rfl, hsame⟩
    · exact .inl hbefore
    · rw [hstage]
      exact .inl hsame
  | drop hstage hfree =>
    rcases id?_advance hid with hbefore | ⟨-, hnone⟩
    · exact .inl hbefore
    · cases hnone
  | _ => exact .inl hid

theorem Step.nextId_le (h : Step w act w') : w.token.nextId ≤ w'.token.nextId := by
  cases h with
  | number hstage => exact Nat.le_succ _
  | _ => exact Nat.le_refl _

theorem Step.hook_of (h : Step w act w') {id : Nat} (hmem : (id, name) ∈ w'.token.hooks) :
    (id, name) ∈ w.token.hooks ∨ w'.stage name = .guarded id := by
  cases h with
  | push hstage =>
    rcases List.mem_append.mp hmem with hbefore | hnew
    · exact .inl hbefore
    · cases List.mem_singleton.mp hnew
      exact .inr (if_pos rfl)
  | drop hstage hfree => exact .inl (List.mem_filter.mp hmem).1
  | take hcanceller hfree => cases hmem
  | _ => exact .inl hmem

/-! ## Runs -/

theorem exists_of_run_snoc (hrun : run w (acts ++ [act]) = some w') :
    ∃ w₁, run w acts = some w₁ ∧ Step w₁ act w' := by
  unfold run at hrun ⊢
  rw [List.foldlM_append] at hrun
  obtain ⟨w₁, hbefore, hlast⟩ := Option.bind_eq_some_iff.mp hrun
  refine ⟨w₁, hbefore, .of_eq ?_⟩
  simpa using hlast

/-! ## Operations without interruption -/

theorem run_cons_of_step {rest : List Act} (h : w.step act = some w') :
    run w (act :: rest) = run w' rest := by
  unfold run
  rw [List.foldlM_cons, h]
  rfl

/-- A registration that is not interrupted is `register`. -/
theorem run_register (hstage : w.stage name = .unborn) (hfree : w.locked = false) :
    run w [.number name, .look name, if w.token.cancelled then .runOwn name else .push name] =
      some { w.advance name (.guarded (w.token.register name).1) with
        token := (w.token.register name).2.2
        ran := w.ran ++ (w.token.register name).2.1 } := by
  have hstages (s s' s'' : Stage) (name' : Nat) :
      (if name' = name then s'' else if name' = name then s' else if name' = name then s
        else w.stage name') = if name' = name then s'' else w.stage name' := by
    by_cases h : name' = name
    · rw [if_pos h, if_pos h]
    · rw [if_neg h, if_neg h, if_neg h, if_neg h]
  cases hflag : w.token.cancelled with
  | true =>
    simp [run, step, advance, allocate, register, attach, hstage, hfree, hflag, hstages]
  | false =>
    simp [run, step, advance, allocate, register, attach, hstage, hfree, hflag, hstages]

theorem run_replicate_runNext {i : Nat} {hooks : List Nat}
    (h : w.cancellers[i]? = some (.running hooks)) :
    run w (List.replicate hooks.length (.runNext i)) =
      some { w with cancellers := w.cancellers.set i (.running []), ran := w.ran ++ hooks } := by
  induction hooks generalizing w with
  | nil =>
    obtain ⟨hi, hget⟩ := List.getElem?_eq_some_iff.mp h
    rw [← hget, List.set_getElem_self, List.append_nil]
    rfl
  | cons name hooks ih =>
    obtain ⟨hi, -⟩ := List.getElem?_eq_some_iff.mp h
    have hstep : w.step (.runNext i) = some { w with
        cancellers := w.cancellers.set i (.running hooks), ran := w.ran ++ [name] } := by
      unfold step
      dsimp only
      rw [h]
    rw [List.length_cons, List.replicate_succ, run_cons_of_step hstep]
    rw [ih (List.getElem?_set_self hi), List.set_set, List.append_assoc]
    rfl

/-- A cancel that is not interrupted is `cancel`. -/
theorem run_cancel (hfree : w.locked = false) :
    run w (.raise :: if w.token.cancelled then [] else
        .take w.cancellers.length ::
          List.replicate w.token.hooks.length (.runNext w.cancellers.length)) =
      some { w with
        token := w.token.cancel.2
        cancellers := w.cancellers ++ [if w.token.cancelled then .late else .running []]
        ran := w.ran ++ w.token.cancel.1 } := by
  cases hflag : w.token.cancelled with
  | true =>
    simp [run, step, cancel, CancelToken.raise, hflag]
  | false =>
    let raised : World :=
      { w with token := w.token.raise.2, cancellers := w.cancellers ++ [.raised] }
    let taken : World :=
      { w with
        token := w.token.raise.2.takeHooks.2
        cancellers := w.cancellers ++ [.running (w.token.hooks.map Prod.snd)] }
    have hraise : w.step .raise = some raised := by
      simp [step, CancelToken.raise, hflag, raised]
    have htake : raised.step (.take w.cancellers.length) = some taken := by
      simp [step, CancelToken.raise, takeHooks, hfree, raised, taken]
    have hget : taken.cancellers[w.cancellers.length]? =
        some (.running (w.token.hooks.map Prod.snd)) := by simp [taken]
    have hrun := run_replicate_runNext hget
    rw [List.length_map] at hrun
    simp only [Bool.false_eq_true, if_false]
    rw [run_cons_of_step hraise, run_cons_of_step htake, hrun]
    simp [cancel, CancelToken.raise, hflag, taken, takeHooks]

end World

end GuestVault.CancelToken
