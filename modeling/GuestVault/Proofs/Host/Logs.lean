import GuestVault.Proofs.Host.Agreement

/-!
# Actions on a state with a log

A log beside a state takes an entry for every action that is audited. `Yields` says what an action
gives and which entries it adds, with one rule for each way of putting actions together.
-/

namespace GuestVault

variable {σ ι ε ε' α β : Type}

/-- The same action, entered in the log with what came of it. -/
def Action.audited (entry : Except ε α → ι) (act : Action σ ε α) : Action (σ × List ι) ε α :=
  fun t =>
    let (result, s) := act t.1
    (result, (s, t.2 ++ [entry result]))

theorem Action.run_mapError (f : ε → ε') (x : Action σ ε α) (s : σ) :
    (x.mapError f).run s = ((x.run s).1.mapError f, (x.run s).2) := by
  unfold Action.mapError ExceptT.run
  dsimp only
  rcases x s with ⟨e | a, s'⟩
  · rfl
  · rfl

/-- Whatever an action gives, and whatever entries it adds, have some property. -/
def Yields (P : α → List ι → Prop) (act : StateM (σ × List ι) α) : Prop :=
  ∀ t, ∃ made, (act t).2.2 = t.2 ++ made ∧ P (act t).1 made

namespace Yields

theorem mono {P Q : α → List ι → Prop} {act : StateM (σ × List ι) α} (h : Yields P act)
    (hPQ : ∀ a made, P a made → Q a made) : Yields Q act := by
  intro t
  obtain ⟨made, hadded, hmade⟩ := h t
  exact ⟨made, hadded, hPQ _ made hmade⟩

theorem pure {P : α → List ι → Prop} {a : α} (hP : P a []) :
    Yields P (Pure.pure a : StateM (σ × List ι) α) :=
  fun t => ⟨[], (List.append_nil t.2).symm, hP⟩

/-- What comes second is only looked at for what the first can give. -/
theorem bind {P : α → List ι → Prop} {Q : α → β → List ι → Prop} {R : β → List ι → Prop}
    {x : StateM (σ × List ι) α} {f : α → StateM (σ × List ι) β} (hx : Yields P x)
    (hf : ∀ a made, P a made → Yields (Q a) (f a))
    (hR : ∀ a made b more, P a made → Q a b more → R b (made ++ more)) : Yields R (x >>= f) := by
  intro t
  obtain ⟨made, hadded, hmade⟩ := hx t
  obtain ⟨more, hmore, hrest⟩ := hf (x t).1 made hmade (x t).2
  refine ⟨made ++ more, ?_, hR _ made _ more hmade hrest⟩
  rw [← List.append_assoc, ← hadded, ← hmore]
  rfl

section Actions

variable {P : Except ε α → List ι → Prop}

theorem throw {e : ε} (hP : P (.error e) []) :
    Yields P (throw e : Action (σ × List ι) ε α).run :=
  pure hP

theorem andThen {Q : α → Except ε β → List ι → Prop} {R : Except ε β → List ι → Prop}
    {x : Action (σ × List ι) ε α} {f : α → Action (σ × List ι) ε β} (hx : Yields P x.run)
    (hf : ∀ a made, P (.ok a) made → Yields (Q a) (f a).run)
    (hfails : ∀ e made, P (.error e) made → R (.error e) made)
    (hR : ∀ a made result more, P (.ok a) made → Q a result more → R result (made ++ more)) :
    Yields R (x >>= f).run := by
  rw [ExceptT.run_bind]
  refine bind (Q := fun first result more => (∃ a, first = .ok a ∧ Q a result more) ∨
    ∃ e, first = .error e ∧ result = .error e ∧ more = []) hx (fun first made hmade => ?_) ?_
  · cases first with
    | ok a => exact (hf a made hmade).mono fun _ _ h => Or.inl ⟨a, rfl, h⟩
    | error e => exact pure (Or.inr ⟨e, rfl, rfl, rfl⟩)
  · rintro _ made result more hmade (⟨a, rfl, hmore⟩ | ⟨e, rfl, rfl, rfl⟩)
    · exact hR a made result more hmade hmore
    · rw [List.append_nil]
      exact hfails e made hmade

theorem lift_then {P : α → List ι → Prop} {Q : α → Except ε β → List ι → Prop}
    {R : Except ε β → List ι → Prop} {x : StateM (σ × List ι) α}
    {f : α → Action (σ × List ι) ε β} (hx : Yields P x)
    (hf : ∀ a made, P a made → Yields (Q a) (f a).run)
    (hR : ∀ a made result more, P a made → Q a result more → R result (made ++ more)) :
    Yields R (liftM x >>= f).run := by
  intro t
  obtain ⟨made, hadded, hmade⟩ := hx t
  obtain ⟨more, hmore, hrest⟩ := hf (x t).1 made hmade (x t).2
  rw [Action.run_bind_of_ok (Action.run_lift x t)]
  refine ⟨made ++ more, ?_, hR _ made _ more hmade hrest⟩
  rw [hmore, hadded, List.append_assoc]

theorem attempt_then {ε' : Type} {Q : Except ε α → Except ε' β → List ι → Prop}
    {R : Except ε' β → List ι → Prop} {x : Action (σ × List ι) ε α}
    {f : Except ε α → Action (σ × List ι) ε' β} (hx : Yields P x.run)
    (hf : ∀ first made, P first made → Yields (Q first) (f first).run)
    (hR : ∀ first made result more, P first made → Q first result more → R result (made ++ more)) :
    Yields R (x.attempt >>= f).run :=
  lift_then hx hf hR

theorem mapError {R : Except ε' α → List ι → Prop} {x : Action (σ × List ι) ε α}
    (f : ε → ε') (hx : Yields P x.run)
    (hR : ∀ result made, P result made → R (result.mapError f) made) :
    Yields R (x.mapError f).run := by
  intro t
  obtain ⟨made, hadded, hmade⟩ := hx t
  rw [Action.run_mapError]
  exact ⟨made, hadded, hR _ made hmade⟩

theorem audited (entry : Except ε α → ι) (act : Action σ ε α) :
    Yields (fun result made => made = [entry result]) (act.audited entry).run :=
  fun _ => ⟨_, rfl, rfl⟩

end Actions

end Yields

end GuestVault
