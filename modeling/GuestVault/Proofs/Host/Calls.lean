import GuestVault.Proofs.Host.Agreement

/-!
# The calls of a restore

`Host.logged` and `Guest.logged` keep a list of what a restore asks for. Nothing else changes
(`restoreAll_logged`), so `Correlator.calls` is what a restore asks of any host and any guests.
-/

namespace GuestVault

variable {σ κ ρ ε α : Type} [ByteSource ρ]

/-- What a restore can ask for. -/
inductive Call where
  | create (path : String)
  | write (data : Bytes)
  | finish
  | stat (path : String)
  | remove (path : String)
  | stop (kind : Kind) (vmid : Nat)
  | restore (kind : Kind) (vmid : Nat) (archive : String)
deriving Repr, DecidableEq

/-- The guest that a call is about. -/
def Call.vmid? : Call → Option Nat
  | .stop _ vmid | .restore _ vmid _ => some vmid
  | _ => none

/-- The same action, noted as a call. -/
def Action.logged (call : Call) (act : Action σ ε α) : Action (σ × List Call) ε α :=
  fun t =>
    let (result, s) := act t.1
    (result, (s, t.2 ++ [call]))

/-- The same host; what files go through is noted. -/
def Host.logged (host : Host σ κ) : Host (σ × List Call) κ :=
  { host.within Prod.fst (fun s t => (s, t.2)) with
    create := fun path => (host.create path).logged (.create path)
    writeAll := fun sink data => (host.writeAll sink data).logged (.write data)
    finish := fun sink => (host.finish sink).logged .finish
    stat := fun path => (host.stat path).logged (.stat path)
    remove := fun path => (host.remove path).logged (.remove path) }

/-- The same guests; what is done to them is noted. -/
def Guest.logged (guest : Guest σ) : Guest (σ × List Call) where
  stop kind vmid := (guest.stop kind vmid).logged (.stop kind vmid)
  restore kind vmid archive :=
    (guest.restore kind vmid archive).logged (.restore kind vmid archive)

/-- A state with a list of calls that has some property. -/
def Logs (Q : List Call → Prop) (s : σ) (t : σ × List Call) : Prop :=
  t.1 = s ∧ Q t.2

variable {Q : List Call → Prop}

theorem Action.logged_agree {call : Call} (hQ : ∀ calls, Q calls → Q (calls ++ [call]))
    (act : Action σ ε α) : Agree (Logs Q) act.run (act.logged call).run := by
  rintro _ t ⟨rfl, h⟩
  exact ⟨rfl, rfl, hQ t.2 h⟩

/-- A property that calls about no guest preserve is kept by the host. -/
theorem Host.logged_agree (host : Host σ κ)
    (hQ : ∀ calls call, Call.vmid? call = none → Q calls → Q (calls ++ [call])) :
    Host.Agree (Logs Q) host host.logged where
  create path := Action.logged_agree (fun calls => hQ calls _ rfl) _
  writeAll sink data := Action.logged_agree (fun calls => hQ calls _ rfl) _
  finish sink := Action.logged_agree (fun calls => hQ calls _ rfl) _
  stat path := Action.logged_agree (fun calls => hQ calls _ rfl) _
  remove path := Action.logged_agree (fun calls => hQ calls _ rfl) _
  now := by
    rintro _ t ⟨rfl, h⟩
    exact ⟨rfl, rfl, h⟩
  note level message := by
    rintro _ t ⟨rfl, h⟩
    exact ⟨rfl, rfl, h⟩

theorem Guest.logged_agreeOn (guest : Guest σ) {kind : Kind} {vmid : Nat}
    (hQ : ∀ calls call, Call.vmid? call = some vmid → Q calls → Q (calls ++ [call])) :
    Guest.AgreeOn (Logs Q) guest guest.logged kind vmid where
  stop := Action.logged_agree (fun calls => hQ calls _ rfl) _
  restore _ := Action.logged_agree (fun calls => hQ calls _ rfl) _

namespace Correlator

variable (host : Host σ κ) (guest : Guest σ) (settings : RestoreSettings)

/-- What a restore asks for. -/
def calls (records : List (Record ρ)) (s : σ) : List Call :=
  (restoreAll host.logged guest.logged settings records (s, [])).2.2

theorem restoreAll_logged (records : List (Record ρ)) (s : σ) :
    restoreAll host.logged guest.logged settings records (s, []) =
      ((restoreAll host guest settings records s).1,
        ((restoreAll host guest settings records s).2,
          calls host guest settings records s)) := by
  have h : Agree (Logs fun _ => True) (restoreAll host guest settings records)
      (restoreAll host.logged guest.logged settings records) :=
    restoreAll_agree settings (host.logged_agree fun _ _ _ h => h) records
      fun _ _ _ _ _ _ => guest.logged_agreeOn fun _ _ _ h => h
  obtain ⟨hresult, hstate, -⟩ := h s (s, []) ⟨rfl, trivial⟩
  exact Prod.ext hresult.symm (Prod.ext hstate rfl)

/-- The pair asks for something to be done to a guest: its metadata names the guest, and its
archive can be read. -/
def Pair.Names (pair : Pair ρ) (vmid : Nat) : Prop :=
  (readToEnd pair.payload.reader).1 = .ok () ∧
    ∃ kind, pair.metadata.validate pair.archive = .ok (kind, vmid)

/-- Whatever is done to guests is asked for by some pair. -/
def Justified (asking : List (Pair ρ)) (calls : List Call) : Prop :=
  ∀ call ∈ calls, ∀ vmid, call.vmid? = some vmid → ∃ pair ∈ asking, pair.Names vmid

theorem Justified.append {asking : List (Pair ρ)} {calls : List Call} {call : Call}
    (hcalls : Justified asking calls)
    (hcall : ∀ vmid, call.vmid? = some vmid → ∃ pair ∈ asking, pair.Names vmid) :
    Justified asking (calls ++ [call]) := by
  intro other hother
  rcases List.mem_append.mp hother with hother | hother
  · exact hcalls other hother
  · rw [List.mem_singleton.mp hother]
    exact hcall

/-- **Whatever a restore does to guests is asked for by one of its pairs.** -/
theorem justified_calls (records : List (Record ρ)) (s : σ) :
    Justified (pairs settings {} records) (calls host guest settings records s) := by
  have h : Agree (Logs (Justified (pairs settings {} records)))
      (restoreAll host guest settings records)
      (restoreAll host.logged guest.logged settings records) := by
    refine restoreAll_agree settings (host.logged_agree fun calls call hnone hcalls => ?_) records
      fun pair hpair hread kind vmid hvalid => guest.logged_agreeOn fun calls call hsome hcalls => ?_
    · refine hcalls.append fun vmid hvmid => ?_
      rw [hnone] at hvmid
      cases hvmid
    · refine hcalls.append fun named hnamed => ?_
      obtain rfl := Option.some.inj (hsome.symm.trans hnamed)
      exact ⟨pair, hpair, hread, kind, hvalid⟩
  exact (h s (s, []) ⟨rfl, nofun⟩).2.2

end Correlator

end GuestVault
