import GuestVault.Proofs.Restore.RoundTrip

/-!
# Accountable backups

A store never holds an archive that no outcome accounts for, and a sink is never asked to take metadata
of an archive that is not safe (`Backup.run_accountable`). A store that is a directory is such a sink
(`DirectoryStore.onlyReads_sink`).
-/

namespace GuestVault

open GuestVault.Text

variable {σ τ κ ρ : Type}

/-! ## Sinks that only read -/

section
variable [ByteSource ρ]

theorem DirectoryStore.consumed_fill (pathname temporary : String) (reader : ρ) (t : FileTree) :
    ∃ bytes, Consumed reader bytes (fill pathname temporary reader t).1.2 := by
  unfold fill
  rcases t.create (.ofText temporary) with fault | ⟨file, t⟩
  · exact ⟨[], .refl reader⟩
  have hread := consumed_readOn (ByteSource.bound reader) reader
  rw [← readToEnd] at hread
  rcases hall : readToEnd reader with ⟨result, data, reader'⟩
  rw [hall] at hread
  refine ⟨data, ?_⟩
  dsimp only
  rcases t.write file data with fault | ⟨file, t⟩
  · exact hread
  · rcases result with e | ⟨⟩
    · exact hread
    · exact hread

end

theorem DirectoryStore.onlyReads_sink (store : DirectoryStore) : store.sink.OnlyReads := by
  intro ρ _ pathname reader t
  show ∃ bytes, Consumed reader bytes (store.put pathname reader t).1.2
  unfold put
  rcases nameOf pathname with f | name
  · exact ⟨[], .refl reader⟩
  dsimp only
  split
  · exact ⟨[], .refl reader⟩
  obtain ⟨bytes, hread⟩ :=
    consumed_fill pathname (store.path (temporaryPrefix ++ name)) reader t
  refine ⟨bytes, ?_⟩
  generalize fill pathname (store.path (temporaryPrefix ++ name)) reader t = filled at hread ⊢
  rcases filled with ⟨⟨f | count, reader'⟩, t'⟩
  · exact hread
  · dsimp only
    rcases t'.rename (.ofText (store.path (temporaryPrefix ++ name))) (.ofText (store.path name)) with
      fault | t''
    · exact hread
    · exact hread

theorem RecordSink.OnlyReads.within {sink : RecordSink σ} (h : sink.OnlyReads) (get : τ → σ)
    (set : σ → τ → τ) : (sink.within get set).OnlyReads :=
  fun pathname reader t => h pathname reader (get t)

/-! ## Backups -/

namespace Backup

/-- **The store never holds a half-written or unaccounted backup.** Whatever the dumps do, a backup into
an empty store has one outcome for each machine, in order, and what is left in the store is exactly what
these outcomes account for. A sink that only reads what it is handed may do whatever else it likes: it is
asked to take the metadata of an archive only after it acknowledged every byte of the archive that it
read, and after the dump tool has ended well. Ids and sizes are bounded as the words are that hold
them. -/
theorem run_accountable (host : Host σ κ) (sink : RecordSink σ) (settings : Settings)
    (machines : List Machine) (s : σ) :
    (∀ {tree : σ → FileTree} {store : DirectoryStore} {fate : Machine → Except Error Dump}
        {Ready : List Machine → σ → Prop} {dir : Location},
      Fates host settings.backup tree sink store fate Ready → Ready machines s →
      (∀ m ∈ machines, ∀ d, fate m = .ok d → d.stdout.delivered.length ≤ maxWord64) →
      (∀ m ∈ machines, m.vmid ≤ maxWord32) → (machines.map (·.vmid)).Nodup →
      store.Holds (tree s) dir [] →
      ∃ stored s' left, run host sink settings machines s = (stored, s') ∧
        stored.map (·.machine) = machines ∧ List.Forall₂ (Accounted fate) stored left ∧
        store.Holds (tree s') dir left.reverse.flatten) ∧
    (host.OpensFresh → sink.OnlyReads →
      ∃ parts, puts host sink settings machines s = parts.flatten ∧
        List.Forall₂ (fun turn => PutsOf host sink settings turn.1 turn.2)
          (turns host sink settings machines s) parts) := by
  refine ⟨fun hfates hready hsize hvmid hnodup hempty => ?_,
    fun hfresh hreads => puts_of_turns hfresh hreads machines s⟩
  obtain ⟨stored, s', left, hrun, hmachines, haccounted, hholds⟩ :=
    run_fates hfates hready hsize hvmid hnodup hempty nofun
  rw [List.append_nil] at hholds
  exact ⟨stored, s', left, hrun, hmachines, haccounted, hholds⟩

/-! ## A failed dump -/

/-- The output of a virtual machine comes in pieces, with an interruption in between. So does the one
of a container, but then its process fails. -/
def failingContainers (m : Machine) : Except Error Dump :=
  .ok { program := "vzdump"
        stdout := [.data [0x5A], .fail (.plain .interrupted), .data (utf8 m.label)]
        stderr := []
        process := { ended := .ok (.ofCode (if m.kind = .lxc then 1 else 0)) } }

/-- A scripted host that has these dumps, and an empty store. -/
def beforeFailure : ScriptedHost.WithTree :=
  ({ replies := [("vzdump", Restore.twoGuests.map fun m =>
        ScriptedHost.replyOf (failingContainers m))]
     moment := Restore.someTime },
    { entries := [([utf8 "store"], .directory)] })

theorem complete_failingContainers_iff (m : Machine) (hm : m ∈ Restore.twoGuests) (d : Dump)
    (hd : failingContainers m = .ok d) : d.Complete ↔ m.kind = .qemu := by
  cases hd
  rcases List.mem_pair.mp hm with rfl | rfl
  · exact iff_of_true ⟨by decide +kernel, by decide +kernel, by decide +kernel⟩ rfl
  · exact iff_of_false (fun h => absurd h.ends_well (by decide +kernel)) nofun

/-- The virtual machine is stored, and of the container nothing is left. -/
theorem failed_container_leaves_nothing :
    let host := ScriptedHost.hostWithTree
    let sink := ScriptedHost.sinkOf ⟨"/store"⟩
    (Fates host Restore.containerOnly.backup Prod.snd sink ⟨"/store"⟩ failingContainers
        (ScriptedHost.Ready fun m => ScriptedHost.replyOf (failingContainers m)) ∧
      (∀ m ∈ Restore.twoGuests, ∀ d, failingContainers m = .ok d →
        d.stdout.delivered.length ≤ maxWord64) ∧
      (∀ m ∈ Restore.twoGuests, m.vmid ≤ maxWord32) ∧ (Restore.twoGuests.map (·.vmid)).Nodup ∧
      DirectoryStore.Holds ⟨"/store"⟩ beforeFailure.2 [utf8 "store"] [] ∧
      host.OpensFresh ∧ sink.OnlyReads) ∧
    ∃ (d : Dump) (archive : ArchiveName) (body : Bytes) (f : Failure)
        (after : ScriptedHost.WithTree) (first second : List Put),
      failingContainers ⟨101, .qemu, none⟩ = .ok d ∧
      run host sink Restore.containerOnly Restore.twoGuests beforeFailure =
        ([⟨⟨101, .qemu, none⟩, .ok (archive.render, d.stdout.delivered.length)⟩,
          ⟨⟨102, .lxc, none⟩, .error f⟩], after) ∧
      DirectoryStore.Holds ⟨"/store"⟩ after.2 [utf8 "store"]
        (deposit archive d.stdout.delivered body) ∧
      puts host sink Restore.containerOnly Restore.twoGuests beforeFailure = first ++ second ∧
      PutsOf host sink Restore.containerOnly ⟨101, .qemu, none⟩ beforeFailure first := by
  intro host sink
  have hfates : Fates host Restore.containerOnly.backup Prod.snd sink ⟨"/store"⟩ failingContainers
      (ScriptedHost.Ready fun m => ScriptedHost.replyOf (failingContainers m)) := by
    refine ScriptedHost.fates Restore.containerOnly.backup ⟨"/store"⟩ fun m d h => ?_
    cases Except.ok.inj h
    rfl
  have hsize : ∀ m ∈ Restore.twoGuests, ∀ d, failingContainers m = .ok d →
      d.stdout.delivered.length ≤ maxWord64 := by
    intro m hm d hd
    cases hd
    revert m
    decide +kernel
  have hvmid : ∀ m ∈ Restore.twoGuests, m.vmid ≤ maxWord32 := by decide
  have hnodup : (Restore.twoGuests.map (·.vmid)).Nodup := by decide
  have hempty : DirectoryStore.Holds ⟨"/store"⟩ beforeFailure.2 [utf8 "store"] [] :=
    ⟨by decide +kernel, by decide +kernel⟩
  have hreads : sink.OnlyReads :=
    RecordSink.OnlyReads.within (DirectoryStore.onlyReads_sink ⟨"/store"⟩) _ _
  refine ⟨⟨hfates, hsize, hvmid, hnodup, hempty, ScriptedHost.opensFresh, hreads⟩, ?_⟩
  obtain ⟨hstore, hputs⟩ :=
    run_accountable host sink Restore.containerOnly Restore.twoGuests beforeFailure
  obtain ⟨stored, after, left, hrun, hmachines, haccounted, hholds⟩ :=
    hstore hfates ⟨rfl, Restore.encodable_someTime⟩ hsize hvmid hnodup hempty
  obtain ⟨parts, hall, hparts⟩ := hputs ScriptedHost.opensFresh hreads
  obtain ⟨vm, container, rfl⟩ : ∃ vm container, stored = [vm, container] :=
    List.length_eq_two.mp ((List.length_map _).symm.trans (congrArg List.length hmachines))
  obtain ⟨hvm, hrest⟩ := List.cons.inj hmachines
  obtain ⟨hcontainer, -⟩ := List.cons.inj hrest
  obtain ⟨ofVm, more, hleft, hmore, rfl⟩ := List.forall₂_cons_left_iff.mp haccounted
  obtain ⟨ofContainer, others, hnothing, hend, rfl⟩ := List.forall₂_cons_left_iff.mp hmore
  obtain rfl := List.forall₂_nil_left_iff.mp hend
  obtain ⟨first, others, hfirst, -, rfl⟩ := List.forall₂_cons_left_iff.mp hparts
  have hcomplete := complete_failingContainers_iff
  cases hnothing with
  | stored hfate hdone =>
    obtain rfl := hcontainer
    exact absurd ((hcomplete _ (by decide) _ hfate).mp hdone) nofun
  | failed =>
    obtain rfl := hcontainer
    cases hleft with
    | failed hincomplete =>
      obtain rfl := hvm
      exact absurd ((hcomplete _ (by decide) _ rfl).mpr rfl) (hincomplete _ rfl)
    | stored hfate =>
      obtain rfl := hvm
      exact ⟨_, _, _, _, after, first, others.flatten, hfate, hrun, hholds, hall, hfirst⟩

end Backup

end GuestVault
