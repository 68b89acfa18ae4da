import GuestVault.Proofs.Host.Calls

/-!
# A host that counts

Nothing ever goes wrong on `Host.counting`, which only counts the bytes of the file that was begun
last. It stages every archive that can be read (`stage_counting`), whatever was written before
(`restore_counting`).
-/

namespace GuestVault

variable {σ ρ : Type} [ByteSource ρ]

/-- A record with a known text. -/
def Record.ofText (pathname text : String) : Record Script :=
  { pathname, reader := .ofBytes (Text.utf8 text) }

/-- Guests that can always be stopped and restored. -/
def Guest.willing : Guest σ where
  stop _ _ := pure ()
  restore _ _ _ := pure ()

/-- The host that counts; its files are all empty and its commands are silent. -/
def Host.counting : Host Nat Unit where
  openStream command := pure
    { program := command.program, stdout := [], stderr := [], process := {}, cancelled := false }
  openFile _ := pure []
  create _ := fun _ => (.ok (), 0)
  writeAll _ data := fun count => (.ok (), count + data.length)
  finish _ := pure ()
  stat _ := fun count => (.ok { size := count, modified := none }, count)
  remove _ := pure ()
  close := pure ()
  now := pure { unix := 0, nanos := 0, offset := 0 }
  note _ _ := pure ()

theorem copyOn_counting {fuel : Nat} {reader : ρ} (hread : (readOn fuel reader).1 = .ok ())
    (count : Nat) :
    (Host.counting.copyOn fuel reader ()).run count =
      (.ok ((readOn fuel reader).2.1.length, ()), count + (readOn fuel reader).2.1.length) := by
  induction fuel generalizing reader count with
  | zero => rfl
  | succ fuel ih =>
    unfold Host.copyOn readOn
    unfold readOn at hread
    rcases hpiece : ByteSource.read pieceSize reader with ⟨e | (_ | ⟨b, bs⟩), rest⟩
    · rw [hpiece] at hread
      dsimp only at hread ⊢
      by_cases hint : e.isInterrupted = true
      · simp only [if_pos hint] at hread ⊢
        exact ih hread count
      · rw [if_neg hint] at hread
        cases hread
    · rfl
    · rw [hpiece] at hread
      dsimp only at hread ⊢
      have hwrite : (Host.counting.writeAll () (b :: bs)).run count =
          (.ok (), count + (b :: bs).length) := rfl
      rw [Action.run_bind_of_ok hwrite, Action.run_bind_of_ok (ih hread _), List.length_append,
        List.length_cons, Nat.add_assoc count]
      rfl

theorem stage_counting {reader : ρ} (hread : (readToEnd reader).1 = .ok ()) (path : String)
    (count : Nat) : ((Staging.stage Host.counting reader path).run count).1 = .ok () := by
  have hcreate : (Host.counting.create path).run count = (.ok (), 0) := rfl
  have hcopy := copyOn_counting hread 0
  have hfinish (count : Nat) : (Host.counting.finish ()).run count = (.ok (), count) := rfl
  have hstat (count : Nat) : (Host.counting.stat path).run count =
      (.ok { size := count, modified := none }, count) := rfl
  unfold Staging.stage Host.copy
  rw [Action.run_bind_of_ok hcreate, Action.run_bind_of_ok (Action.run_mapError_of_ok _ hcopy)]
  dsimp only
  rw [Action.run_bind_of_ok (hfinish _), Action.run_bind_of_ok (hstat _), Nat.zero_add,
    if_neg (not_not_intro rfl)]
  rfl

/-- What a restore does next does not depend on what was written before. -/
theorem restore_counting (settings : RestoreSettings) (archive : String) (reader : ρ)
    (metadata : Metadata) (count count' : Nat) :
    ((Staging.restore Host.counting Guest.willing settings archive reader metadata).run count).1 =
      ((Staging.restore Host.counting Guest.willing settings archive reader metadata).run
        count').1 := by
  unfold Staging.restore
  cases metadata.validate archive with
  | error e => rfl
  | ok named => rfl

end GuestVault
