import GuestVault.Proofs.Cancel.Steps
import Mathlib.Data.List.Induction

/-!
# No hook is lost or run twice

`Step` says once what the steps of threads can do. What all of them keep is a world in good order,
`Sound`, which has four parts: ids are not given twice, so that a guard takes away its own hook only
(`Named`); one registration at a time holds the lock (`Locking`); what the flag tells of the cancels,
and that no hook comes to the token once the hooks are taken (`Flagged`); and a hook is in as many
places as its registration tells (`Accounted`). The last part rests on the others: taking and running
only move a hook from one place to the next (`Step.places_eq`).

What becomes of a hook whose guard was dropped depends on when that was. This is told by the steps so
far: `places_of_kept` if the hooks had been taken before, `places_of_early` if the flag had not been
set. `hooks_run_once` puts all of it together.

The counter of ids has no end here. One of 64 bits starts again some day, but a run must have 2 ^ 64
steps for that: shorter runs are the same with either counter (`runWrapped_eq_run`).
-/

namespace GuestVault.CancelToken

/-- The hooks that a cancel has taken and not yet run. -/
def Canceller.held : Canceller → List Nat
  | .running hooks => hooks
  | _ => []

/-- A cancel takes the hooks. -/
def Act.isTake : Act → Bool
  | .take _ => true
  | _ => false

namespace World

variable {w w' : World} {act : Act} {acts : List Act} {name : Nat}

/-! ## Ids -/

/-- Ids are not given twice, and hooks are kept under the ids of their registrations. -/
structure Named (w : World) : Prop where
  id_lt : ∀ {name id}, (w.stage name).id? = some id → id < w.token.nextId
  id_inj : ∀ {name name' id}, (w.stage name).id? = some id → (w.stage name').id? = some id →
    name = name'
  entry : ∀ {id name}, (id, name) ∈ w.token.hooks → w.stage name = .guarded id

theorem Named.step (hw : w.Named) (h : Step w act w') : w'.Named where
  id_lt hid := by
    rcases h.id_of hid with hbefore | ⟨rfl, rfl⟩
    · exact Nat.lt_of_lt_of_le (hw.id_lt hbefore) h.nextId_le
    · cases h with
      | number hstage => exact Nat.lt_succ_self _
  id_inj hid hid' := by
    rcases h.id_of hid with hbefore | ⟨hact, rfl⟩
    · rcases h.id_of hid' with hbefore' | ⟨-, rfl⟩
      · exact hw.id_inj hbefore hbefore'
      · exact absurd (hw.id_lt hbefore) (Nat.lt_irrefl _)
    · rcases h.id_of hid' with hbefore' | ⟨hact', -⟩
      · exact absurd (hw.id_lt hbefore') (Nat.lt_irrefl _)
      · exact Act.number.inj (hact.symm.trans hact')
  entry {id name} hmem := by
    rcases h.hook_of hmem with hbefore | hstage
    · have hguarded := hw.entry hbefore
      rcases h.guarded_or_drop hguarded with hstage | rfl
      · exact hstage
      · -- the guard has taken the hook away
        cases h with
        | drop hstage hfree =>
          obtain rfl := Stage.guarded.inj (hguarded.symm.trans hstage)
          exact absurd rfl (of_decide_eq_true (List.mem_filter.mp hmem).2)
    · exact hstage

/-- Dropping a guard takes away the hook of its registration, and no other. -/
theorem Named.detach_hooks (hw : w.Named) {id : Nat} (hstage : w.stage name = .guarded id) :
    (w.token.detach id).hooks = w.token.hooks.filter (·.2 ≠ name) := by
  unfold detach
  dsimp only
  refine List.filter_congr fun entry hmem => ?_
  have hentry := hw.entry hmem
  have hid : (w.stage name).id? = some id := by
    rw [hstage]
    rfl
  refine decide_eq_decide.mpr (not_congr ⟨fun heq => ?_, fun hname => ?_⟩)
  · refine hw.id_inj ?_ hid
    rw [hentry, heq]
    rfl
  · rw [hname, hstage] at hentry
    exact (Stage.guarded.inj hentry).symm

/-! ## The lock -/

/-- Only a registration that has looked at the flag holds the lock, and it alone. -/
structure Locking (w : World) : Prop where
  locked : ∀ {name id}, w.stage name = .looked id → w.locked = true
  alone : ∀ {name name' id id'}, w.stage name = .looked id → w.stage name' = .looked id' →
    name = name'

theorem Locking.step (hw : w.Locking) (h : Step w act w') : w'.Locking := by
  obtain ⟨hlocked, halone⟩ := hw
  cases h with
  | number hstage => constructor <;> grind [advance]
  | find hstage hfree hflag => constructor <;> grind [advance]
  | look hstage hfree hflag =>
    -- the lock was free, so no other registration has looked
    constructor <;> grind [advance]
  | push hstage => constructor <;> grind [advance]
  | runOwn hstage => constructor <;> grind [advance]
  | drop hstage hfree => constructor <;> grind [advance]
  | raise => exact ⟨hlocked, halone⟩
  | take hcanceller hfree => exact ⟨hlocked, halone⟩
  | runNext hcanceller => exact ⟨hlocked, halone⟩

/-! ## The flag -/

/-- A cancel has taken the hooks. -/
def Taken (w : World) : Prop :=
  ∃ (i : Nat) (hooks : List Nat), w.cancellers[i]? = some (.running hooks)

/-- The cancel is the one that found the flag not set. -/
def Leads (w : World) (i : Nat) : Prop :=
  ∃ c, w.cancellers[i]? = some c ∧ c ≠ .late

theorem Leads.lt {i : Nat} (h : w.Leads i) : i < w.cancellers.length := by
  obtain ⟨c, hc, -⟩ := h
  exact (List.getElem?_eq_some_iff.mp hc).1

theorem leads_of_set {old new : Canceller} {i j : Nat} (hi : w.cancellers[i]? = some old)
    (hold : old ≠ .late) (h : { w with cancellers := w.cancellers.set i new }.Leads j) :
    w.Leads j := by
  obtain ⟨c, hc, hne⟩ := h
  by_cases hij : i = j
  · exact ⟨old, hij ▸ hi, hold⟩
  · rw [List.getElem?_set_ne hij] at hc
    exact ⟨c, hc, hne⟩

theorem Step.leads_of (h : Step w act w') {i : Nat} (hleads : w'.Leads i) :
    w.Leads i ∨ w.token.cancelled = false ∧ i = w.cancellers.length := by
  cases h with
  | raise =>
    obtain ⟨c, hc, hne⟩ := hleads
    dsimp only at hc
    rcases Nat.lt_trichotomy i w.cancellers.length with hlt | heq | hgt
    · rw [List.getElem?_append_left hlt] at hc
      exact .inl ⟨c, hc, hne⟩
    · subst heq
      rw [List.getElem?_concat_length, Option.some.injEq] at hc
      subst hc
      cases hflag : w.token.cancelled with
      | true =>
        rw [if_pos hflag] at hne
        exact absurd rfl hne
      | false => exact .inr ⟨rfl, rfl⟩
    · rw [List.getElem?_eq_none (by rw [List.length_append]; exact hgt)] at hc
      cases hc
  | take hcanceller hfree => exact .inl (leads_of_set hcanceller nofun hleads)
  | runNext hcanceller => exact .inl (leads_of_set hcanceller nofun hleads)
  | _ => exact .inl hleads

theorem Taken.leads (h : w.Taken) : ∃ i, w.Leads i := by
  obtain ⟨i, hooks, hi⟩ := h
  exact ⟨i, _, hi, nofun⟩

theorem Step.taken_of (h : Step w act w') (htaken : w'.Taken) :
    w.Taken ∨ w.locked = false ∧ w'.token.hooks = [] ∧ ∃ i, w.Leads i := by
  cases h with
  | raise =>
    obtain ⟨i, hooks, hi⟩ := htaken
    dsimp only at hi
    by_cases hlt : i < w.cancellers.length
    · rw [List.getElem?_append_left hlt] at hi
      exact .inl ⟨i, hooks, hi⟩
    · -- the new one has taken nothing
      rw [List.getElem?_append_right (Nat.le_of_not_lt hlt)] at hi
      have hnew := List.mem_singleton.mp (List.mem_of_getElem? hi)
      split at hnew <;> cases hnew
  | take hcanceller hfree => exact .inr ⟨hfree, rfl, _, _, hcanceller, nofun⟩
  | runNext hcanceller => exact .inl ⟨_, _, hcanceller⟩
  | _ => exact .inl htaken

/-- What the flag tells: nothing is cancelled before it is set, only the cancel that set it does more
than that, and once the hooks are taken the token gets no more of them. -/
structure Flagged (w : World) : Prop where
  calm : w.token.cancelled = false → w.cancellers = [] ∧ w.ran = []
  due : ∀ {name id}, w.stage name = .due id → w.token.cancelled = true
  first : ∀ {i j}, w.Leads i → w.Leads j → i = j
  emptied : w.Taken → w.token.hooks = []
  untaken : ∀ {name id}, w.stage name = .looked id → ¬ w.Taken

theorem Flagged.not_leads (hw : w.Flagged) (hflag : w.token.cancelled = false) (i : Nat) :
    ¬ w.Leads i := by
  intro h
  have hlt := h.lt
  rw [(hw.calm hflag).1] at hlt
  cases hlt

theorem Flagged.step (hw : w.Flagged) (hlock : w.Locking) (h : Step w act w') : w'.Flagged where
  calm hflag' := by
    have hflag : w.token.cancelled = false := by
      refine Bool.eq_false_iff.mpr fun hflag => ?_
      rw [h.cancelled_of hflag] at hflag'
      cases hflag'
    obtain ⟨hcancellers, hran⟩ := hw.calm hflag
    cases h with
    | raise => cases hflag'
    | runOwn hstage =>
      rw [hw.due hstage] at hflag
      cases hflag
    | take hcanceller hfree =>
      rw [hcancellers] at hcanceller
      cases hcanceller
    | runNext hcanceller =>
      rw [hcancellers] at hcanceller
      cases hcanceller
    | _ => exact ⟨hcancellers, hran⟩
  due hstage := by
    rcases h.due_of hstage with hbefore | hflag
    · exact h.cancelled_of (hw.due hbefore)
    · exact h.cancelled_of hflag
  first hi hj := by
    rcases h.leads_of hi with hi | ⟨hflag, hi⟩
    · rcases h.leads_of hj with hj | ⟨hflag, hj⟩
      · exact hw.first hi hj
      · exact absurd hi (hw.not_leads hflag _)
    · rcases h.leads_of hj with hj | ⟨-, hj⟩
      · exact absurd hj (hw.not_leads hflag _)
      · rw [hi, hj]
  emptied htaken := by
    rcases h.taken_of htaken with hbefore | ⟨-, hempty, -⟩
    · have hempty := hw.emptied hbefore
      cases h with
      | push hstage => exact absurd hbefore (hw.untaken hstage)
      | drop hstage hfree =>
        show w.token.hooks.filter _ = []
        rw [hempty]
        rfl
      | take hcanceller hfree => rfl
      | _ => exact hempty
    · exact hempty
  untaken hstage htaken := by
    -- whoever took the hooks found the lock free, and whoever looked found the flag not set
    rcases h.looked_of hstage with hbefore | ⟨-, hflag⟩
    · rcases h.taken_of htaken with htaken | ⟨hfree, -, -⟩
      · exact hw.untaken hbefore htaken
      · rw [hlock.locked hbefore] at hfree
        cases hfree
    · obtain ⟨i, hi⟩ : ∃ i, w.Leads i := by
        rcases h.taken_of htaken with htaken | ⟨-, -, hleads⟩
        · exact htaken.leads
        · exact hleads
      exact hw.not_leads hflag i hi

/-! ## Where hooks are -/

/-- The hooks that wait with the token. -/
def waiting (w : World) : List Nat :=
  w.token.hooks.map Prod.snd

/-- The hooks that cancels have taken and not yet run. -/
def held (w : World) : List Nat :=
  w.cancellers.flatMap Canceller.held

/-- In how many places a hook is: with the token, with a cancel that has taken it, or among those
that ran. -/
def places (w : World) (name : Nat) : Nat :=
  w.waiting.count name + w.held.count name + w.ran.count name

theorem Named.waiting_detach (hw : w.Named) {id : Nat} (hstage : w.stage name = .guarded id) :
    (w.token.detach id).hooks.map Prod.snd = w.waiting.filter (· ≠ name) := by
  rw [hw.detach_hooks hstage, waiting, List.filter_map]
  rfl

theorem count_held_set {cancellers : List Canceller} {i : Nat} {old : Canceller}
    (h : cancellers[i]? = some old) (new : Canceller) (name : Nat) :
    ((cancellers.set i new).flatMap Canceller.held).count name + old.held.count name =
      (cancellers.flatMap Canceller.held).count name + new.held.count name := by
  induction cancellers generalizing i with
  | nil => cases h
  | cons c cancellers ih =>
    cases i with
    | zero =>
      obtain rfl : c = old := Option.some.inj h
      simp only [List.set_cons_zero, List.flatMap_cons, List.count_append]
      omega
    | succ i =>
      have hrest := ih h
      simp only [List.set_cons_succ, List.flatMap_cons, List.count_append]
      omega

/-- A registration puts its hook in one place. All other steps leave the number of places alone,
but for the drop of the hook's own guard. -/
theorem Step.places_eq (hw : w.Named) (h : Step w act w') (hdrop : act ≠ .drop name) :
    w'.places name = w.places name + if act.Settles name then 1 else 0 := by
  cases h with
  | number hstage => simp [places, waiting, held, advance, allocate, Act.Settles]
  | find hstage hfree hflag => simp [places, waiting, held, advance, Act.Settles]
  | look hstage hfree hflag => simp [places, waiting, held, advance, Act.Settles]
  | @push name' id hstage =>
    have hwaiting : ((w.token.push id name').hooks.map Prod.snd).count name =
        w.waiting.count name + if name' = name then 1 else 0 := by
      simp [CancelToken.push, waiting, List.count_singleton]
    have hsettles : (Act.push name').Settles name ↔ name' = name := by simp [Act.Settles]
    show ((w.token.push id name').hooks.map Prod.snd).count name + w.held.count name +
      w.ran.count name = w.places name + _
    rw [hwaiting, if_congr hsettles rfl rfl, places]
    omega
  | @runOwn name' id hstage =>
    have hran : (w.ran ++ [name']).count name =
        w.ran.count name + if name' = name then 1 else 0 := by
      simp [List.count_singleton]
    have hsettles : (Act.runOwn name').Settles name ↔ name' = name := by simp [Act.Settles]
    show w.waiting.count name + w.held.count name + (w.ran ++ [name']).count name =
      w.places name + _
    rw [hran, if_congr hsettles rfl rfl, places]
    omega
  | @drop name' id hstage hfree =>
    have hne : name ≠ name' := fun heq => hdrop (by rw [heq])
    have hsettles : ¬ (Act.drop name').Settles name := by simp [Act.Settles]
    show ((w.token.detach id).hooks.map Prod.snd).count name + w.held.count name +
      w.ran.count name = w.places name + _
    rw [hw.waiting_detach hstage, List.count_filter (by simpa using hne), if_neg hsettles]
    rfl
  | raise =>
    have hheld : (if w.token.cancelled then Canceller.late else .raised).held = [] := by
      split <;> rfl
    simp [places, waiting, held, CancelToken.raise, Act.Settles, hheld]
  | @take i hcanceller hfree =>
    -- the hooks go from the token to the cancel
    have hmove := count_held_set hcanceller (.running w.waiting) name
    have hsettles : ¬ (Act.take i).Settles name := by simp [Act.Settles]
    show 0 + ((w.cancellers.set i (.running w.waiting)).flatMap Canceller.held).count name +
      w.ran.count name = w.places name + _
    rw [if_neg hsettles, places, held]
    simp only [Canceller.held, List.count_nil] at hmove
    omega
  | @runNext i name' hooks hcanceller =>
    -- the hook goes from the cancel to those that ran
    have hmove := count_held_set hcanceller (.running hooks) name
    have hsettles : ¬ (Act.runNext i).Settles name := by simp [Act.Settles]
    show w.waiting.count name +
      ((w.cancellers.set i (.running hooks)).flatMap Canceller.held).count name +
        (w.ran ++ [name']).count name = w.places name + _
    rw [if_neg hsettles, places, held, List.count_append, List.count_singleton]
    simp only [Canceller.held, List.count_cons] at hmove
    omega

theorem Step.places_drop (hw : w.Named) (h : Step w (.drop name) w') :
    w'.places name = w.held.count name + w.ran.count name := by
  cases h with
  | @drop _ id hstage hfree =>
    have hgone : (w.waiting.filter (· ≠ name)).count name = 0 :=
      List.count_eq_zero.mpr (by simp)
    show ((w.token.detach id).hooks.map Prod.snd).count name + w.held.count name +
      w.ran.count name = _
    rw [hw.waiting_detach hstage, hgone, Nat.zero_add]

/-- A hook is nowhere before its registration is complete, in one place as long as its guard is
there, and never in two. -/
structure Accounted (w : World) : Prop where
  nowhere : ∀ {name}, (w.stage name).complete = false → w.places name = 0
  once : ∀ {name id}, w.stage name = .guarded id → w.places name = 1
  atMost : ∀ name, w.places name ≤ 1

theorem Step.guarded_of_other (h : Step w act w') (hsettles : ¬ act.Settles name) {id : Nat}
    (hstage : w'.stage name = .guarded id) : ∃ id', w.stage name = .guarded id' := by
  have hcomplete : (w.stage name).complete = true :=
    (h.complete_iff.mp (by rw [hstage]; rfl)).resolve_right hsettles
  cases hbefore : w.stage name with
  | guarded id' => exact ⟨id', rfl⟩
  | dropped =>
    rw [h.dropped_iff.mpr (.inl hbefore)] at hstage
    cases hstage
  | _ =>
    rw [hbefore] at hcomplete
    cases hcomplete

theorem Accounted.step (hw : w.Accounted) (hnamed : w.Named) (h : Step w act w') :
    w'.Accounted := by
  have hname (name : Nat) : ((w'.stage name).complete = false → w'.places name = 0) ∧
      (∀ id, w'.stage name = .guarded id → w'.places name = 1) ∧ w'.places name ≤ 1 := by
    by_cases hdrop : act = .drop name
    · subst hdrop
      have hafter := h.dropped_iff.mpr (.inr rfl)
      have hle : w'.places name ≤ w.places name := by
        rw [h.places_drop hnamed, places]
        omega
      rw [hafter]
      exact ⟨nofun, nofun, Nat.le_trans hle (hw.atMost name)⟩
    · have hplaces := h.places_eq hnamed hdrop
      by_cases hsettles : act.Settles name
      · have hbefore := hw.nowhere (h.incomplete_of_settles hsettles)
        obtain ⟨id, hafter⟩ := h.guarded_of_settles hsettles
        rw [if_pos hsettles, hbefore] at hplaces
        rw [hafter, hplaces]
        exact ⟨nofun, fun _ _ => rfl, Nat.le_refl 1⟩
      · rw [if_neg hsettles] at hplaces
        rw [hplaces]
        refine ⟨fun hopen => hw.nowhere ?_, fun id hstage => ?_, hw.atMost name⟩
        · refine Bool.eq_false_iff.mpr fun hcomplete => ?_
          rw [h.complete_iff.mpr (.inl hcomplete)] at hopen
          cases hopen
        · obtain ⟨id', hbefore⟩ := h.guarded_of_other hsettles hstage
          exact hw.once hbefore
  exact ⟨(hname _).1, (hname _).2.1 _, fun name => (hname name).2.2⟩

/-! ## Runs -/

/-- A world in good order. -/
structure Sound (w : World) : Prop where
  named : w.Named
  locking : w.Locking
  flagged : w.Flagged
  accounted : w.Accounted

theorem Sound.start : Sound {} where
  named := ⟨nofun, nofun, nofun⟩
  locking := ⟨nofun, nofun⟩
  flagged := ⟨fun _ => ⟨rfl, rfl⟩, nofun, nofun, fun _ => rfl, nofun⟩
  accounted := ⟨fun _ => rfl, nofun, fun _ => Nat.zero_le 1⟩

theorem Sound.step (hw : w.Sound) (h : Step w act w') : w'.Sound where
  named := hw.named.step h
  locking := hw.locking.step h
  flagged := hw.flagged.step hw.locking h
  accounted := hw.accounted.step hw.named h

theorem sound_of_run (hrun : run {} acts = some w) : w.Sound := by
  induction acts using List.reverseRecOn generalizing w with
  | nil =>
    obtain rfl : {} = w := Option.some.inj hrun
    exact .start
  | append_singleton done act ih =>
    obtain ⟨w₁, hdone, hstep⟩ := exists_of_run_snoc hrun
    exact (ih hdone).step hstep

/-! ## A counter of 64 bits -/

/-- The world after a step, with a counter of 64 bits that starts again after its last number. -/
def stepWrapped (w : World) (act : Act) : Option World :=
  (w.step act).map fun w' =>
    { w' with token := { w'.token with nextId := w'.token.nextId % UInt64.size } }

/-- The world after some steps, with a counter of 64 bits. -/
def runWrapped (w : World) (acts : List Act) : Option World :=
  acts.foldlM stepWrapped w

theorem nextId_le_length (hrun : run {} acts = some w) : w.token.nextId ≤ acts.length := by
  induction acts using List.reverseRecOn generalizing w with
  | nil =>
    obtain rfl : {} = w := Option.some.inj hrun
    exact Nat.le_refl 0
  | append_singleton done act ih =>
    obtain ⟨w₁, hdone, hstep⟩ := exists_of_run_snoc hrun
    have hle := ih hdone
    rw [List.length_append, List.length_singleton]
    cases hstep with
    | number hstage => exact Nat.succ_le_succ hle
    | _ => exact Nat.le_succ_of_le hle

theorem stepWrapped_eq_step (act : Act) (h : w.token.nextId + 1 < UInt64.size) :
    w.stepWrapped act = w.step act := by
  unfold stepWrapped
  cases hstep : w.step act with
  | none => rfl
  | some w' =>
    have hle : w'.token.nextId ≤ w.token.nextId + 1 := by
      cases Step.of_eq hstep with
      | number hstage => exact Nat.le_refl _
      | _ => exact Nat.le_succ _
    show some { w' with
      token := { w'.token with nextId := w'.token.nextId % UInt64.size } } = some w'
    rw [Nat.mod_eq_of_lt (by omega)]

/-- **A counter of 64 bits makes no difference to runs with fewer steps than it has numbers.** -/
theorem runWrapped_eq_run (hshort : acts.length < UInt64.size) :
    runWrapped {} acts = run {} acts := by
  induction acts using List.reverseRecOn with
  | nil => rfl
  | append_singleton done act ih =>
    simp only [List.length_append, List.length_singleton] at hshort
    have hdone : runWrapped {} done = run {} done := ih (by omega)
    unfold runWrapped run at hdone ⊢
    rw [List.foldlM_append, List.foldlM_append, hdone]
    cases hrun : done.foldlM step ({} : World) with
    | none => rfl
    | some w =>
      have hle := nextId_le_length hrun
      have hstep : w.stepWrapped act = w.step act := stepWrapped_eq_step act (by omega)
      show [act].foldlM stepWrapped w = [act].foldlM step w
      simp only [List.foldlM_cons, List.foldlM_nil, hstep]

/-! ## What the steps so far tell -/

/-- The steps before the first one of a kind, with one step more. -/
theorem mem_takeWhile_snoc {p : Act → Bool} {done : List Act} {step : Act} :
    step ∈ (done ++ [act]).takeWhile p ↔
      step ∈ done.takeWhile p ∨ (∀ a ∈ done, p a = true) ∧ p act = true ∧ step = act := by
  induction done with
  | nil => cases hp : p act <;> simp [hp]
  | cons a done ih => cases hp : p a <;> simp [hp, ih, or_assoc]

theorem Taken.step (hw : w.Taken) (h : Step w act w') : w'.Taken := by
  obtain ⟨i, hooks, hi⟩ := hw
  cases h with
  | raise =>
    refine ⟨i, hooks, ?_⟩
    rwa [List.getElem?_append_left (List.getElem?_eq_some_iff.mp hi).1]
  | take hcanceller hfree =>
    exact ⟨_, _, List.getElem?_set_self (List.getElem?_eq_some_iff.mp hcanceller).1⟩
  | runNext hcanceller =>
    exact ⟨_, _, List.getElem?_set_self (List.getElem?_eq_some_iff.mp hcanceller).1⟩
  | _ => exact ⟨i, hooks, hi⟩

theorem taken_of_mem (hrun : run {} acts = some w) (hmem : act ∈ acts) (htake : act.isTake = true) :
    w.Taken := by
  induction acts using List.reverseRecOn generalizing w with
  | nil => cases hmem
  | append_singleton done last ih =>
    obtain ⟨w₁, hdone, hstep⟩ := exists_of_run_snoc hrun
    rcases List.mem_append.mp hmem with hbefore | hlast
    · exact (ih hdone hbefore).step hstep
    · obtain rfl := List.mem_singleton.mp hlast
      cases hstep with
      | take hcanceller hfree =>
        exact ⟨_, _, List.getElem?_set_self (List.getElem?_eq_some_iff.mp hcanceller).1⟩
      | _ => cases htake

theorem raise_mem_of_cancelled (hrun : run {} acts = some w) (hflag : w.token.cancelled = true) :
    .raise ∈ acts := by
  induction acts using List.reverseRecOn generalizing w with
  | nil =>
    obtain rfl : {} = w := Option.some.inj hrun
    cases hflag
  | append_singleton done last ih =>
    obtain ⟨w₁, hdone, hstep⟩ := exists_of_run_snoc hrun
    cases hstep with
    | raise => exact List.mem_append_right done (List.mem_singleton_self _)
    | _ => exact List.mem_append_left _ (ih hdone hflag)

/-! ## Hooks without a guard -/

theorem Step.places_of_dropped (hw : w.Named) (h : Step w act w')
    (hstage : w.stage name = .dropped) : w'.places name = w.places name := by
  have hdrop : act ≠ .drop name := by
    rintro rfl
    obtain ⟨id, hguarded, -⟩ := h.guarded_of_drop
    rw [hguarded] at hstage
    cases hstage
  have hsettles : ¬ act.Settles name := fun hact => by
    have hopen := h.incomplete_of_settles hact
    rw [hstage] at hopen
    cases hopen
  rw [h.places_eq hw hdrop, if_neg hsettles, Nat.add_zero]

/-- A hook whose guard was not dropped before the hooks were taken is not lost. -/
theorem places_of_kept (hrun : run {} acts = some w) (hstage : w.stage name = .dropped)
    (hkept : .drop name ∉ acts.takeWhile (!·.isTake)) : w.places name = 1 := by
  induction acts using List.reverseRecOn generalizing w with
  | nil =>
    obtain rfl : {} = w := Option.some.inj hrun
    cases hstage
  | append_singleton done act ih =>
    obtain ⟨w₁, hdone, hstep⟩ := exists_of_run_snoc hrun
    have hsound := sound_of_run hdone
    rw [mem_takeWhile_snoc, not_or] at hkept
    rcases hstep.dropped_iff.mp hstage with hbefore | rfl
    · rw [hstep.places_of_dropped hsound.named hbefore]
      exact ih hdone hbefore hkept.1
    · -- the hooks had been taken, so the hook is not with the token
      obtain ⟨a, hmem, htake⟩ : ∃ a ∈ done, a.isTake = true := by
        have hlate := hkept.2
        simpa [Act.isTake] using hlate
      have hempty := hsound.flagged.emptied (taken_of_mem hdone hmem htake)
      obtain ⟨id, hguarded, -⟩ := hstep.guarded_of_drop
      have hplaces := hsound.accounted.once hguarded
      rw [places, waiting, hempty] at hplaces
      rw [hstep.places_drop hsound.named]
      simpa using hplaces

theorem places_of_early (hrun : run {} acts = some w)
    (hearly : .drop name ∈ acts.takeWhile (· ≠ .raise)) :
    w.stage name = .dropped ∧ w.places name = 0 := by
  induction acts using List.reverseRecOn generalizing w with
  | nil => cases hearly
  | append_singleton done act ih =>
    obtain ⟨w₁, hdone, hstep⟩ := exists_of_run_snoc hrun
    have hsound := sound_of_run hdone
    rcases mem_takeWhile_snoc.mp hearly with hbefore | ⟨hcalm, -, rfl⟩
    · obtain ⟨hstage, hplaces⟩ := ih hdone hbefore
      rw [hstep.places_of_dropped hsound.named hstage]
      exact ⟨hstep.dropped_iff.mpr (.inl hstage), hplaces⟩
    · have hflag : w₁.token.cancelled = false := by
        refine Bool.eq_false_iff.mpr fun hflag => ?_
        simpa using hcalm _ (raise_mem_of_cancelled hdone hflag)
      obtain ⟨hcancellers, hran⟩ := hsound.flagged.calm hflag
      refine ⟨hstep.dropped_iff.mpr (.inr rfl), ?_⟩
      rw [hstep.places_drop hsound.named, held, hcancellers, hran]
      rfl

/-! ## All hooks -/

theorem Sound.held_eq_nil (hw : w.Sound) {i : Nat} (hdone : w.cancellers[i]? = some (.running [])) :
    w.held = [] := by
  refine List.flatMap_eq_nil_iff.mpr fun c hmem => ?_
  obtain ⟨j, hj⟩ := List.getElem?_of_mem hmem
  by_cases hlate : c = .late
  · rw [hlate]
    rfl
  · obtain rfl := hw.flagged.first ⟨_, hdone, nofun⟩ ⟨c, hj, hlate⟩
    rw [hdone] at hj
    cases hj
    rfl

/-- **No hook is lost or run twice**, whatever the order in which threads act on a token: no hook runs
more than once. Once its registration and the cancel that came first are complete, a hook ran unless
its guard was dropped before the hooks were taken, also if it was registered between the setting of
the flag and that. A hook whose guard was dropped before the flag was set does not run. Dropping a
guard takes away no hook but its own. And the run is one with a counter of 64 bits, unless it is too
long for that. -/
theorem hooks_run_once (acts : List Act) (w : World) (hrun : run {} acts = some w) :
    (∀ name, w.ran.count name ≤ 1) ∧
      (∀ name (i : Nat), (w.stage name).complete = true → w.cancellers[i]? = some (.running []) →
        .drop name ∉ acts.takeWhile (!·.isTake) → w.ran.count name = 1) ∧
      (∀ name, .drop name ∈ acts.takeWhile (· ≠ .raise) → w.ran.count name = 0) ∧
      (∀ name w', w.step (.drop name) = some w' →
        w'.token.hooks = w.token.hooks.filter (·.2 ≠ name)) ∧
      (acts.length < UInt64.size → runWrapped {} acts = some w) := by
  have hsound := sound_of_run hrun
  have hle (name : Nat) : w.ran.count name ≤ w.places name := by
    rw [places]
    omega
  refine ⟨fun name => ?_, fun name i hcomplete hdone hkept => ?_, fun name hearly => ?_,
    fun name w' hstep => ?_, fun hshort => (runWrapped_eq_run hshort).trans hrun⟩
  · exact Nat.le_trans (hle name) (hsound.accounted.atMost name)
  · have hplaces : w.places name = 1 := by
      cases hstage : w.stage name with
      | guarded id => exact hsound.accounted.once hstage
      | dropped => exact places_of_kept hrun hstage hkept
      | _ =>
        rw [hstage] at hcomplete
        cases hcomplete
    -- the hooks of the token and of the cancel are all gone
    have hempty := hsound.flagged.emptied ⟨i, [], hdone⟩
    rw [places, waiting, hempty, hsound.held_eq_nil hdone] at hplaces
    simpa using hplaces
  · have hplaces := (places_of_early hrun hearly).2
    exact Nat.le_zero.mp (hplaces ▸ hle name)
  · have h : Step w (.drop name) w' := .of_eq hstep
    obtain ⟨id, hguarded, htoken⟩ := h.guarded_of_drop
    rw [htoken]
    exact hsound.named.detach_hooks hguarded

/-- Four hooks: the first is kept and the second is dropped early. The flag is set while the third is
about to be added, and before the fourth is registered; both run as well. -/
theorem racing_hooks_run_once :
    let acts : List Act :=
      [.number 0, .look 0, .push 0, .number 1, .look 1, .push 1, .drop 1, .number 2, .look 2, .raise,
        .push 2, .number 3, .look 3, .take 0, .runNext 0, .drop 0, .runOwn 3, .runNext 0]
    ∃ w, run {} acts = some w ∧ w.ran.count 0 = 1 ∧ w.ran.count 1 = 0 ∧ w.ran.count 2 = 1 ∧
      w.ran.count 3 = 1 := by
  intro acts
  obtain ⟨w, hrun, hstages, hdone⟩ : ∃ w, run {} acts = some w ∧
      (∀ name ∈ [0, 2, 3], (w.stage name).complete = true) ∧
      w.cancellers[0]? = some (.running []) :=
    ⟨_, rfl, by decide, rfl⟩
  obtain ⟨-, honce, hnever, -⟩ := hooks_run_once acts w hrun
  exact ⟨w, hrun, honce 0 0 (hstages 0 (by decide)) hdone (by decide), hnever 1 (by decide),
    honce 2 0 (hstages 2 (by decide)) hdone (by decide),
    honce 3 0 (hstages 3 (by decide)) hdone (by decide)⟩

end World

end GuestVault.CancelToken
