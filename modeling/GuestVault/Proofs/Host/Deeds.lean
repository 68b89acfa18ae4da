import GuestVault.Proofs.Host.Logs

/-!
# The deeds of a restore

`Host.audited` and `Guest.audited` keep a list of all that is done to files and guests, every deed
with what came of it. Nothing else changes (`Host.audited_agree`, `Guest.audited_agreeOn`), so the
list says what a restore does on any host and to any guests.
-/

namespace GuestVault

variable {σ κ ε α : Type}

/-- Something that is done to a file or to a guest, and what came of it. -/
inductive Deed where
  | create (path : String) (fault : Option Error)
  /-- A piece is written, in however many goes the host needs for all of it. -/
  | write (data : Bytes) (fault : Option IoError)
  | finish (fault : Option Error)
  | stat (path : String) (size : Except Error Nat)
  | remove (path : String) (fault : Option Error)
  | stop (kind : Kind) (vmid : Nat) (fault : Option Error)
  | restore (kind : Kind) (vmid : Nat) (archive : String) (fault : Option Error)

/-- What is done is done to a guest. -/
def Deed.OnGuest : Deed → Prop
  | .stop _ _ _ | .restore _ _ _ _ => True
  | _ => False

/-- What is done is the removal of a file. -/
def Deed.Removes : Deed → Prop
  | .remove _ _ => True
  | _ => False

/-- What went wrong, if anything did. -/
def faultOf : Except ε α → Option ε
  | .ok _ => none
  | .error e => some e

/-! ## Audits -/

/-- The same host; what is done to files is noted. -/
def Host.audited (host : Host σ κ) : Host (σ × List Deed) κ :=
  { host.within Prod.fst (fun s t => (s, t.2)) with
    create := fun path => (host.create path).audited fun result => Deed.create path (faultOf result)
    writeAll := fun sink data =>
      (host.writeAll sink data).audited fun result => Deed.write data (faultOf result)
    finish := fun sink => (host.finish sink).audited fun result => Deed.finish (faultOf result)
    stat := fun path => (host.stat path).audited fun result => Deed.stat path (result.map (·.size))
    remove := fun path => (host.remove path).audited fun result => Deed.remove path (faultOf result) }

/-- The same guests; what is done to them is noted. -/
def Guest.audited (guest : Guest σ) : Guest (σ × List Deed) where
  stop kind vmid := (guest.stop kind vmid).audited fun result => Deed.stop kind vmid (faultOf result)
  restore kind vmid archive :=
    (guest.restore kind vmid archive).audited fun result =>
      Deed.restore kind vmid archive (faultOf result)

/-- A state, and the same state with a list of deeds. -/
def Audits (s : σ) (t : σ × List Deed) : Prop :=
  t.1 = s

theorem Action.audited_agree (deed : Except ε α → Deed) (act : Action σ ε α) :
    Agree Audits act.run (act.audited deed).run := by
  rintro _ t rfl
  exact ⟨rfl, rfl⟩

/-- An audit changes nothing of the host. -/
theorem Host.audited_agree (host : Host σ κ) : Host.Agree Audits host host.audited where
  create path := Action.audited_agree _ _
  writeAll sink data := Action.audited_agree _ _
  finish sink := Action.audited_agree _ _
  stat path := Action.audited_agree _ _
  remove path := Action.audited_agree _ _
  now := by
    rintro _ t rfl
    exact ⟨rfl, rfl⟩
  note level message := by
    rintro _ t rfl
    exact ⟨rfl, rfl⟩

theorem Guest.audited_agreeOn (guest : Guest σ) (kind : Kind) (vmid : Nat) :
    Guest.AgreeOn Audits guest guest.audited kind vmid where
  stop := Action.audited_agree _ _
  restore _ := Action.audited_agree _ _

/-! ## What is noted of an operation -/

section

variable (host : Host σ κ) (guest : Guest σ) (path : String) (kind : Kind) (vmid : Nat)

theorem Host.create_yields : Yields (fun result made => made = [.create path (faultOf result)])
    (host.audited.create path).run :=
  .audited (fun result => Deed.create path (faultOf result)) (host.create path)

theorem Host.writeAll_yields (sink : κ) (data : Bytes) :
    Yields (fun result made => made = [.write data (faultOf result)])
      (host.audited.writeAll sink data).run :=
  .audited (fun result => Deed.write data (faultOf result)) (host.writeAll sink data)

theorem Host.finish_yields (sink : κ) :
    Yields (fun result made => made = [.finish (faultOf result)]) (host.audited.finish sink).run :=
  .audited (fun result => Deed.finish (faultOf result)) (host.finish sink)

theorem Host.stat_yields : Yields (fun result made => made = [.stat path (result.map (·.size))])
    (host.audited.stat path).run :=
  .audited (fun result => Deed.stat path (result.map (·.size))) (host.stat path)

theorem Host.remove_yields : Yields (fun result made => made = [.remove path (faultOf result)])
    (host.audited.remove path).run :=
  .audited (fun result => Deed.remove path (faultOf result)) (host.remove path)

theorem Host.note_yields (level : LogLevel) (message : String) :
    Yields (fun _ made => made = []) (host.audited.note level message) :=
  fun t => ⟨[], (List.append_nil t.2).symm, rfl⟩

theorem Host.now_then {f : Time.Moment → Action (σ × List Deed) ε α} {t : σ × List Deed}
    {P : Except ε α → List Deed → Prop} (h : Yields P (f (host.now t.1).1).run) :
    ∃ made, ((liftM host.audited.now >>= f).run t).2.2 = t.2 ++ made ∧
      P ((liftM host.audited.now >>= f).run t).1 made := by
  rw [Action.run_bind_of_ok (Action.run_lift host.audited.now t)]
  exact h _

theorem Guest.stop_yields : Yields (fun result made => made = [.stop kind vmid (faultOf result)])
    (guest.audited.stop kind vmid).run :=
  .audited (fun result => Deed.stop kind vmid (faultOf result)) (guest.stop kind vmid)

theorem Guest.restore_yields :
    Yields (fun result made => made = [.restore kind vmid path (faultOf result)])
      (guest.audited.restore kind vmid path).run :=
  .audited (fun result => Deed.restore kind vmid path (faultOf result)) (guest.restore kind vmid path)

end

end GuestVault
