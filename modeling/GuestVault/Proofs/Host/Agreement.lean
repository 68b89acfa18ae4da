import GuestVault.Proofs.Restore.Plan

/-!
# Hosts that agree

Two hosts with different states can be told apart only by what they answer. If a relation between
the states is kept by every operation, and the answers are the same, then a job that only goes
through the operations does the same on both (`restoreAll_agree`), and the relation holds in the
end. A relation that puts a condition on one state (`Under`) is kept as soon as the operations keep
the condition.
-/

namespace GuestVault

variable {σ τ κ ρ α β ε ε' : Type} {R : σ → τ → Prop}

/-- Two actions give the same result from related states, and leave related states. -/
def Agree (R : σ → τ → Prop) (left : StateM σ α) (right : StateM τ α) : Prop :=
  ∀ s t, R s t → (left s).1 = (right t).1 ∧ R (left s).2 (right t).2

/-- The relation of a state to itself under a condition. -/
def Under (P : σ → Prop) (s t : σ) : Prop :=
  s = t ∧ P s

/-! ## Actions -/

theorem Action.run_lift (x : StateM σ α) (s : σ) :
    (liftM x : Action σ ε α).run s = (.ok (x s).1, (x s).2) :=
  rfl

theorem Action.run_lift_of_eq {x : StateM σ α} {s s' : σ} {a : α} (h : x s = (a, s')) :
    (liftM x : Action σ ε α).run s = (.ok a, s') := by
  rw [run_lift, h]

theorem Action.run_ofExcept (result : Except ε α) (s : σ) :
    (Action.ofExcept result : Action σ ε α).run s = (result, s) := by
  cases result with
  | ok a => rfl
  | error e => rfl

theorem Action.run_attempt_of_eq {x : Action σ ε α} {s s' : σ} {result : Except ε α}
    (h : x.run s = (result, s')) :
    (x.attempt : Action σ ε' (Except ε α)).run s = (.ok result, s') := by
  have hx : x s = (result, s') := h
  unfold Action.attempt ExceptT.run
  dsimp only
  rw [hx]

theorem Action.run_bind_of_ok {x : Action σ ε α} {f : α → Action σ ε β} {s s' : σ} {a : α}
    (h : x.run s = (.ok a, s')) : (x >>= f).run s = (f a).run s' := by
  rw [ExceptT.run_bind]
  simp only [bind, StateT.bind]
  rw [h]

theorem Action.run_bind_of_error {x : Action σ ε α} {f : α → Action σ ε β} {s s' : σ} {e : ε}
    (h : x.run s = (.error e, s')) : (x >>= f).run s = (.error e, s') := by
  rw [ExceptT.run_bind]
  simp only [bind, StateT.bind]
  rw [h]
  rfl

theorem Action.exists_of_bind_ok {x : Action σ ε α} {f : α → Action σ ε β} {s : σ} {b : β}
    (h : ((x >>= f).run s).1 = .ok b) :
    ∃ a, (x.run s).1 = .ok a ∧ ((f a).run (x.run s).2).1 = .ok b := by
  rw [ExceptT.run_bind] at h
  simp only [bind, StateT.bind] at h
  rcases hx : x.run s with ⟨e | a, s'⟩
  · rw [hx] at h
    cases h
  · rw [hx] at h
    exact ⟨a, rfl, h⟩

theorem Action.run_mapError_of_ok {x : Action σ ε α} (f : ε → ε') {s s' : σ} {a : α}
    (h : x.run s = (.ok a, s')) : (x.mapError f).run s = (.ok a, s') := by
  unfold Action.mapError ExceptT.run
  rw [ExceptT.run] at h
  dsimp only
  rw [h]

theorem Action.run_mapError_of_error {x : Action σ ε α} (f : ε → ε') {s s' : σ} {e : ε}
    (h : x.run s = (.error e, s')) : (x.mapError f).run s = (.error (f e), s') := by
  unfold Action.mapError ExceptT.run
  rw [ExceptT.run] at h
  dsimp only
  rw [h]

theorem Action.ok_of_mapError_ok {x : Action σ ε α} {f : ε → ε'} {s : σ} {a : α}
    (h : ((x.mapError f).run s).1 = .ok a) : (x.run s).1 = .ok a := by
  unfold Action.mapError ExceptT.run at h
  unfold ExceptT.run
  dsimp only at h
  rcases hx : x s with ⟨result, s'⟩
  rw [hx] at h
  cases result with
  | ok b => exact Except.ok.inj h ▸ rfl
  | error e => cases h

namespace Agree

theorem pure (a : α) : Agree R (Pure.pure a : StateM σ α) (Pure.pure a : StateM τ α) :=
  fun _ _ h => ⟨rfl, h⟩

/-- What comes second is only compared on results that the first can give. -/
theorem bind_of_result {x : StateM σ α} {y : StateM τ α} {f : α → StateM σ β}
    {g : α → StateM τ β} (hx : Agree R x y) (hf : ∀ s, Agree R (f (x s).1) (g (x s).1)) :
    Agree R (x >>= f) (y >>= g) := by
  intro s t h
  obtain ⟨hresult, hstate⟩ := hx s t h
  have hrest := hf s _ _ hstate
  show (f (x s).1 (x s).2).1 = (g (y t).1 (y t).2).1 ∧
    R (f (x s).1 (x s).2).2 (g (y t).1 (y t).2).2
  rwa [← hresult]

theorem bind {x : StateM σ α} {y : StateM τ α} {f : α → StateM σ β} {g : α → StateM τ β}
    (hx : Agree R x y) (hf : ∀ a, Agree R (f a) (g a)) : Agree R (x >>= f) (y >>= g) :=
  bind_of_result hx fun _ => hf _

theorem throw (e : ε) :
    Agree R (throw e : Action σ ε α).run (throw e : Action τ ε α).run :=
  fun _ _ h => ⟨rfl, h⟩

theorem ofExcept (result : Except ε α) :
    Agree R (Action.ofExcept result : Action σ ε α).run
      (Action.ofExcept result : Action τ ε α).run := by
  cases result with
  | ok a => exact fun _ _ h => ⟨rfl, h⟩
  | error e => exact throw e

theorem andThen_of_ok {x : Action σ ε α} {y : Action τ ε α} {f : α → Action σ ε β}
    {g : α → Action τ ε β} (hx : Agree R x.run y.run)
    (hf : ∀ s a, (x.run s).1 = .ok a → Agree R (f a).run (g a).run) :
    Agree R (x >>= f).run (y >>= g).run := by
  rw [ExceptT.run_bind, ExceptT.run_bind]
  refine bind_of_result hx fun s => ?_
  cases hresult : (x.run s).1 with
  | ok a => exact hf s a hresult
  | error e => exact pure _

theorem andThen {x : Action σ ε α} {y : Action τ ε α} {f : α → Action σ ε β}
    {g : α → Action τ ε β} (hx : Agree R x.run y.run) (hf : ∀ a, Agree R (f a).run (g a).run) :
    Agree R (x >>= f).run (y >>= g).run :=
  andThen_of_ok hx fun _ a _ => hf a

theorem lift {x : StateM σ α} {y : StateM τ α} (hx : Agree R x y) :
    Agree R (liftM x : Action σ ε α).run (liftM y : Action τ ε α).run :=
  fun s t h => ⟨congrArg Except.ok (hx s t h).1, (hx s t h).2⟩

theorem attempt {x : Action σ ε α} {y : Action τ ε α} (hx : Agree R x.run y.run) :
    Agree R (x.attempt : Action σ ε' (Except ε α)).run (y.attempt : Action τ ε' _).run :=
  fun s t h => ⟨congrArg Except.ok (hx s t h).1, (hx s t h).2⟩

theorem mapError {x : Action σ ε α} {y : Action τ ε α} (f : ε → ε') (hx : Agree R x.run y.run) :
    Agree R (x.mapError f).run (y.mapError f).run := by
  intro s t h
  obtain ⟨hresult, hstate⟩ := hx s t h
  simp only [ExceptT.run] at hresult hstate
  unfold Action.mapError ExceptT.run
  dsimp only
  rcases hxs : x s with ⟨result, s'⟩
  rcases hyt : y t with ⟨result', t'⟩
  rw [hxs, hyt] at hresult hstate
  subst hresult
  cases result with
  | ok a => exact ⟨rfl, hstate⟩
  | error e => exact ⟨rfl, hstate⟩

/-- An action that agrees with another one keeps what the relation says of its own state. -/
theorem under {x : StateM σ α} {y : StateM τ α} (h : Agree R x y) :
    Agree (Under fun t => ∃ s, R s t) y y := by
  rintro t _ ⟨rfl, s, hs⟩
  exact ⟨rfl, rfl, _, (h s t hs).2⟩

theorem holds_after_bind {P : σ → Prop} {x : StateM σ α} {f : α → StateM σ β} {s : σ}
    (hx : P (x s).2) (hf : ∀ a, Agree (Under P) (f a) (f a)) : P ((x >>= f) s).2 :=
  (hf (x s).1 _ _ ⟨rfl, hx⟩).2.2

end Agree

/-! ## Hosts and guests -/

/-- The operations that staging needs agree. -/
structure Host.Agree (R : σ → τ → Prop) (left : Host σ κ) (right : Host τ κ) : Prop where
  create : ∀ path, GuestVault.Agree R (left.create path).run (right.create path).run
  writeAll : ∀ sink data, GuestVault.Agree R (left.writeAll sink data).run
    (right.writeAll sink data).run
  finish : ∀ sink, GuestVault.Agree R (left.finish sink).run (right.finish sink).run
  stat : ∀ path, GuestVault.Agree R (left.stat path).run (right.stat path).run
  remove : ∀ path, GuestVault.Agree R (left.remove path).run (right.remove path).run
  now : GuestVault.Agree R left.now right.now
  note : ∀ level message, GuestVault.Agree R (left.note level message) (right.note level message)

/-- What is done to one guest agrees. -/
structure Guest.AgreeOn (R : σ → τ → Prop) (left : Guest σ) (right : Guest τ) (kind : Kind)
    (vmid : Nat) : Prop where
  stop : Agree R (left.stop kind vmid).run (right.stop kind vmid).run
  restore : ∀ archive, Agree R (left.restore kind vmid archive).run
    (right.restore kind vmid archive).run

variable [ByteSource ρ] {host : Host σ κ} {host' : Host τ κ} {guest : Guest σ} {guest' : Guest τ}

theorem Host.Agree.under (h : Host.Agree R host host') :
    Host.Agree (Under fun t => ∃ s, R s t) host' host' where
  create path := (h.create path).under
  writeAll sink data := (h.writeAll sink data).under
  finish sink := (h.finish sink).under
  stat path := (h.stat path).under
  remove path := (h.remove path).under
  now := h.now.under
  note level message := (h.note level message).under

theorem Guest.AgreeOn.under {kind : Kind} {vmid : Nat} (h : Guest.AgreeOn R guest guest' kind vmid) :
    Guest.AgreeOn (Under fun t => ∃ s, R s t) guest' guest' kind vmid where
  stop := h.stop.under
  restore archive := (h.restore archive).under

theorem Host.Agree.copyOn (h : Host.Agree R host host') (fuel : Nat) (reader : ρ) (sink : κ) :
    GuestVault.Agree R (host.copyOn fuel reader sink).run (host'.copyOn fuel reader sink).run := by
  induction fuel generalizing reader sink with
  | zero => exact .pure _
  | succ fuel ih =>
    unfold Host.copyOn
    rcases ByteSource.read pieceSize reader with ⟨_ | (_ | ⟨b, bs⟩), reader⟩
    · dsimp only
      split
      · exact ih reader sink
      · exact .throw _
    · exact .pure _
    · refine .andThen (h.writeAll sink _) fun sink => ?_
      exact .andThen (ih reader sink) fun _ => .pure _

theorem Host.readOn_of_copyOn_ok {fuel : Nat} {reader : ρ} {sink : κ} {s : σ}
    {copied : Nat × κ} (h : ((host.copyOn fuel reader sink).run s).1 = .ok copied) :
    (readOn fuel reader).1 = .ok () := by
  induction fuel generalizing reader sink s copied with
  | zero => rfl
  | succ fuel ih =>
    unfold Host.copyOn at h
    unfold readOn
    rcases hread : ByteSource.read pieceSize reader with ⟨e | (_ | ⟨b, bs⟩), rest⟩
    · rw [hread] at h
      dsimp only at h ⊢
      by_cases hint : e.isInterrupted = true
      · rw [if_pos hint] at h ⊢
        exact ih h
      · rw [if_neg hint] at h
        cases h
    · rfl
    · rw [hread] at h
      obtain ⟨sink, -, h⟩ := Action.exists_of_bind_ok h
      obtain ⟨copied, h, -⟩ := Action.exists_of_bind_ok h
      exact ih h

variable (settings : RestoreSettings)

namespace Staging

/-- Only an archive that can be read to its end is ever staged. -/
theorem readToEnd_of_stage_ok {reader : ρ} {path : String} {s : σ}
    (h : ((stage host reader path).run s).1 = .ok ()) : (readToEnd reader).1 = .ok () := by
  unfold stage at h
  obtain ⟨sink, -, h⟩ := Action.exists_of_bind_ok h
  obtain ⟨copied, h, -⟩ := Action.exists_of_bind_ok h
  exact Host.readOn_of_copyOn_ok (Action.ok_of_mapError_ok h)

theorem stage_agree (h : Host.Agree R host host') (reader : ρ) (path : String) :
    Agree R (stage host reader path).run (stage host' reader path).run := by
  unfold stage
  refine .andThen (h.create path) fun sink => ?_
  refine .andThen (.mapError _ (h.copyOn _ reader sink)) fun ⟨written, sink⟩ => ?_
  refine .andThen (h.finish sink) fun _ => ?_
  refine .andThen (h.stat path) fun stat => ?_
  split
  · exact .throw _
  · exact .pure _

theorem replace_agree (h : Host.Agree R host host') {kind : Kind} {vmid : Nat} {reader : ρ}
    (hguest : (readToEnd reader).1 = .ok () → Guest.AgreeOn R guest guest' kind vmid)
    (path : String) :
    Agree R (replace host guest reader kind vmid path).run
      (replace host' guest' reader kind vmid path).run := by
  unfold replace
  refine .andThen_of_ok (stage_agree h reader path) fun s _ hstaged => ?_
  have hguest := hguest (readToEnd_of_stage_ok hstaged)
  exact .andThen hguest.stop fun _ => hguest.restore path

theorem cleanup_agree (h : Host.Agree R host host') (path : String) :
    Agree R (cleanup host settings path) (cleanup host' settings path) := by
  unfold cleanup
  split
  · refine .bind (h.remove path) fun result => ?_
    cases result with
    | ok _ => exact .pure _
    | error e => exact .bind (h.note _ _) fun _ => .pure _
  · exact .pure _

/-- The guests need to agree only on the one that the metadata names. -/
theorem restore_agree (h : Host.Agree R host host') (archive : String) {reader : ρ}
    (metadata : Metadata)
    (hguest : (readToEnd reader).1 = .ok () → ∀ kind vmid,
      metadata.validate archive = .ok (kind, vmid) → Guest.AgreeOn R guest guest' kind vmid) :
    Agree R (restore host guest settings archive reader metadata).run
      (restore host' guest' settings archive reader metadata).run := by
  unfold restore
  cases hvalid : metadata.validate archive with
  | error e => exact .throw e
  | ok named =>
    obtain ⟨kind, vmid⟩ := named
    simp only [Action.ofExcept, pure_bind]
    refine .andThen (.lift h.now) fun moment => ?_
    refine .andThen (.lift (h.note _ _)) fun _ => ?_
    have hreplaced := replace_agree h (fun hread => hguest hread kind vmid hvalid)
    refine .andThen (.attempt (hreplaced _)) fun result => ?_
    refine .andThen (.lift (cleanup_agree settings h _)) fun left => ?_
    refine .andThen (.ofExcept result) fun _ => ?_
    exact .andThen (.lift (h.note _ _)) fun _ => .pure _

end Staging

/-! ## Jobs -/

namespace Correlator

theorem sayAll_agree (h : Host.Agree R host host') (notes : List LogEntry) :
    Agree R (Restore.sayAll host notes) (Restore.sayAll host' notes) := by
  induction notes with
  | nil => exact .pure _
  | cons e rest ih => exact .bind (h.note _ _) fun _ => ih

/-- The guests agree on the one that a pair names, unless the archive cannot be read. -/
def Pair.AgreeOn (R : σ → τ → Prop) (guest : Guest σ) (guest' : Guest τ) (pair : Pair ρ) : Prop :=
  (readToEnd pair.payload.reader).1 = .ok () → ∀ kind vmid,
    pair.metadata.validate pair.archive = .ok (kind, vmid) →
      Guest.AgreeOn R guest guest' kind vmid

theorem Reply.enact_agree (h : Host.Agree R host host') (reply : Reply ρ)
    (hguest : ∀ pair, reply.pair? = some pair → pair.AgreeOn R guest guest') :
    Agree R (reply.enact host guest settings) (reply.enact host' guest' settings) := by
  cases reply with
  | settle notes resolved => exact .bind (sayAll_agree h notes) fun _ => .pure _
  | restore pair =>
    have hstaged := Staging.restore_agree settings h pair.archive pair.metadata (hguest pair rfl)
    refine .bind hstaged fun result => ?_
    cases result with
    | ok outcome => exact .pure _
    | error e => exact .bind (h.note _ _) fun _ => .pure _

theorem enactAll_agree (h : Host.Agree R host host') (replies : List (Reply ρ))
    (hguest : ∀ pair ∈ replies.filterMap Reply.pair?, pair.AgreeOn R guest guest') :
    Agree R (enactAll host guest settings replies) (enactAll host' guest' settings replies) := by
  induction replies with
  | nil => exact .pure _
  | cons reply rest ih =>
    refine .bind (Reply.enact_agree settings h reply fun pair hpair => ?_) fun resolved => ?_
    · exact hguest pair (List.mem_filterMap.mpr ⟨reply, List.mem_cons_self, hpair⟩)
    refine .bind (ih fun pair hpair => ?_) fun more => .pure _
    obtain ⟨other, hother, hpair⟩ := List.mem_filterMap.mp hpair
    exact hguest pair (List.mem_filterMap.mpr ⟨other, List.mem_cons_of_mem _ hother, hpair⟩)

/-- **Hosts that agree run a restore alike**, if the guests agree on those that pairs name. -/
theorem restoreAll_agree (h : Host.Agree R host host') (records : List (Record ρ))
    (hguest : ∀ pair ∈ pairs settings {} records, pair.AgreeOn R guest guest') :
    Agree R (restoreAll host guest settings records) (restoreAll host' guest' settings records) := by
  rw [restoreAll_eq, restoreAll_eq]
  refine .bind (enactAll_agree settings h _ fun pair hpair => ?_) fun _ => .pure _
  rw [List.filterMap_map] at hpair
  exact hguest pair hpair

end Correlator

end GuestVault
