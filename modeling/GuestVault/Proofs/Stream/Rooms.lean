import GuestVault.Proofs.Stream.CleanEnd
import GuestVault.Proofs.Stream.Reading

/-!
# Reading with any rooms

A consumer chooses the room of each read, goes on after a mere interruption, and may also ask for
nothing at all. If there is an account of what a reader has to deliver, the consumer gets exactly
that, whatever rooms it chooses (`Delivery.receives`). A read without room is harmless as long as the
reader has not failed yet and its output ends only once: such a read swallows an empty piece, which
any other read would take for the end (`Script.read_zero`).
-/

namespace GuestVault

/-- Where reading has come to at the given end. -/
def Progress.atEnd : Except IoError Unit → Progress
  | .ok () => .finished
  | .error e => .stopped e

section
variable {ρ : Type} [ByteSource ρ] {Due : ρ → Bytes → Prop} {Ended : ρ → Prop}
  {stop : Except IoError Unit} {r r' : ρ} {due bytes : Bytes}

/-- Reads with one room after the other, again after a mere interruption, until a read with room
for a byte finds none, or a read fails. -/
def receive : List Nat → ρ → Progress × Bytes × ρ
  | [], r => (.reading, [], r)
  | n :: sizes, r =>
    match ByteSource.read n r with
    | (.ok [], r) => if n = 0 then receive sizes r else (.finished, [], r)
    | (.ok (b :: bs), r) =>
      ((receive sizes r).1, b :: bs ++ (receive sizes r).2.1, (receive sizes r).2.2)
    | (.error e, r) => if e.isInterrupted then receive sizes r else (.stopped e, [], r)

/-- A read without room changes nothing about what is due. -/
def Idles (Due : ρ → Bytes → Prop) (Live : ρ → Prop) (r : ρ) (due : Bytes) : Prop :=
  ∃ result r', ByteSource.read 0 r = (result, r') ∧
    (result = .ok [] ∨ ∃ e, result = .error e ∧ e.isInterrupted = true) ∧
    Due r' due ∧ Live r' ∧ ByteSource.bound r' ≤ ByteSource.bound r

theorem Delivery.and {P : ρ → Prop} (h : Delivery Due Ended stop)
    (hP : ∀ n r, P r → P (ByteSource.read n r).2) :
    Delivery (fun r due => Due r due ∧ P r) Ended stop where
  reads := by
    rintro n r due hn ⟨hdue, hr⟩
    have hkept := hP n r hr
    rcases h.reads hn hdue with ⟨rfl, r', hread, hdue', hended⟩ |
        ⟨e, r', hread, hint, hdue', hless⟩ | ⟨b, bs, more, r', hread, rfl, hroom, hdue', hless⟩
    · rw [hread] at hkept
      exact Or.inl ⟨rfl, r', hread, ⟨hdue', hkept⟩, hended⟩
    · rw [hread] at hkept
      exact Or.inr (Or.inl ⟨e, r', hread, hint, ⟨hdue', hkept⟩, hless⟩)
    · rw [hread] at hkept
      exact Or.inr (Or.inr ⟨b, bs, more, r', hread, rfl, hroom, ⟨hdue', hkept⟩, hless⟩)
  bound_pos hdue := h.bound_pos hdue.1
  stop_final := h.stop_final

/-- **Whatever the rooms, what is received is the front of what is due.** Reading comes to an end
once there was room often enough, and then all that is due has been received. -/
theorem Delivery.receives {Live : ρ → Prop} {idle : Prop} (h : Delivery Due Ended stop)
    (hkept : ∀ {n r}, n ≠ 0 → Live r → ReadsOn (ByteSource.read n r).1 →
      Live (ByteSource.read n r).2)
    (hidle : idle → ∀ {r due}, Live r → Due r due → Idles Due Live r due)
    {sizes : List Nat} (hsizes : 0 ∈ sizes → idle) (hr : Due r due) (hlive : Live r) :
    ∃ rest, due = (receive sizes r).2.1 ++ rest ∧ Due (receive sizes r).2.2 rest ∧
      ((receive sizes r).1 = .reading ∧ sizes.countP (0 < ·) < ByteSource.bound r ∨
        (receive sizes r).1 = .atEnd stop ∧ rest = [] ∧ Ended (receive sizes r).2.2) := by
  induction sizes generalizing r due with
  | nil => exact ⟨due, rfl, hr, Or.inl ⟨rfl, h.bound_pos hr⟩⟩
  | cons n sizes ih =>
    have hmore : 0 ∈ sizes → idle := fun hmem => hsizes (List.mem_cons_of_mem n hmem)
    by_cases hn : n = 0
    · subst hn
      obtain ⟨result, r', hread, hresult, hdue, hlive', hle⟩ := hidle (hsizes List.mem_cons_self) hlive hr
      have hsame : receive (0 :: sizes) r = receive sizes r' := by
        rw [receive, hread]
        rcases hresult with rfl | ⟨e, rfl, hint⟩
        · exact if_pos rfl
        · exact if_pos hint
      obtain ⟨rest, hsplit, hrest, hprogress⟩ := ih hmore hdue hlive'
      rw [hsame]
      refine ⟨rest, hsplit, hrest, hprogress.imp_left fun hreading => ⟨hreading.1, ?_⟩⟩
      rw [List.countP_cons_of_neg (by simp)]
      exact Nat.lt_of_lt_of_le hreading.2 hle
    have hkept' := hkept hn hlive
    rcases h.reads hn hr with ⟨rfl, r', hread, hdue, hended⟩ | ⟨e, r', hread, hint, hdue, hless⟩ |
      ⟨b, bs, rest, r', hread, rfl, -, hdue, hless⟩
    · have hend : receive (n :: sizes) r = (.atEnd stop, [], r') := by
        rw [receive, hread]
        rcases stop with e | ⟨⟩
        · exact if_neg (by rw [h.stop_final e rfl]; exact Bool.false_ne_true)
        · exact if_neg hn
      rw [hend]
      exact ⟨[], rfl, hdue, Or.inr ⟨rfl, rfl, hended⟩⟩
    · rw [hread] at hkept'
      have hsame : receive (n :: sizes) r = receive sizes r' := by
        rw [receive, hread]
        exact if_pos hint
      obtain ⟨rest, hsplit, hrest, hprogress⟩ := ih hmore hdue (hkept' hint)
      rw [hsame]
      refine ⟨rest, hsplit, hrest, hprogress.imp_left fun hreading => ⟨hreading.1, ?_⟩⟩
      rw [List.countP_cons_of_pos (by simpa using Nat.pos_of_ne_zero hn)]
      exact Nat.lt_of_le_of_lt (Nat.succ_le_of_lt hreading.2) hless
    · rw [hread] at hkept'
      obtain ⟨rest, hsplit, hrest, hprogress⟩ := ih hmore hdue (hkept' (List.cons_ne_nil b bs))
      rw [receive, hread]
      refine ⟨rest, ?_, hrest, hprogress.imp_left fun hreading => ⟨hreading.1, ?_⟩⟩
      · rw [hsplit, List.append_assoc]
      · rw [List.countP_cons_of_pos (by simpa using Nat.pos_of_ne_zero hn)]
        exact Nat.lt_of_le_of_lt (Nat.succ_le_of_lt hreading.2) hless

/-- What is kept by the reads that go on is kept by reading a number of bytes that are all there. -/
theorem readUpToOn_keeps {P : ρ → Prop} {fuel n : Nat}
    (hkept : ∀ {n r}, n ≠ 0 → P r → ReadsOn (ByteSource.read n r).1 → P (ByteSource.read n r).2)
    (hr : P r) (h : readUpToOn fuel n r = (.ok bytes, r')) (hfull : bytes.length = n) : P r' := by
  induction fuel generalizing n r bytes with
  | zero =>
    cases h
    exact hr
  | succ fuel ih =>
    unfold readUpToOn at h
    by_cases hn : n = 0
    · rw [if_pos hn] at h
      cases h
      exact hr
    rw [if_neg hn] at h
    have hkept' := hkept hn hr
    rcases hread : ByteSource.read n r with ⟨e | (_ | ⟨b, bs⟩), r₁⟩
    · rw [hread] at h hkept'
      dsimp only at h
      by_cases hint : e.isInterrupted = true
      · rw [if_pos hint] at h
        exact ih (hkept' hint) h hfull
      · rw [if_neg hint] at h
        cases h
    · rw [hread] at h
      cases h
      exact absurd hfull.symm hn
    · rw [hread] at h hkept'
      dsimp only at h
      rcases hmore : readUpToOn fuel (n - (bs.length + 1)) r₁ with ⟨e | more, r₂⟩
      · rw [hmore] at h
        cases h
      · rw [hmore] at h
        cases h
        refine ih (hkept' (List.cons_ne_nil b bs)) hmore ?_
        simp only [List.length_append, List.length_cons] at hfull
        omega

theorem readUpToOn_invariant {P : ρ → Prop} (hP : ∀ n r, P r → P (ByteSource.read n r).2)
    (fuel n : Nat) (hr : P r) : P (readUpToOn fuel n r).2 := by
  induction fuel generalizing n r with
  | zero => exact hr
  | succ fuel ih =>
    unfold readUpToOn
    have hkept := hP n r hr
    by_cases hn : n = 0
    · rw [if_pos hn]
      exact hr
    rw [if_neg hn]
    rcases hread : ByteSource.read n r with ⟨e | (_ | ⟨b, bs⟩), r₁⟩
    · rw [hread] at hkept
      dsimp only
      split
      · exact ih n hkept
      · exact hkept
    · rw [hread] at hkept
      exact hkept
    · rw [hread] at hkept
      have hmore := ih (n - (bs.length + 1)) hkept
      rcases hrest : readUpToOn fuel (n - (bs.length + 1)) r₁ with ⟨e | more, r₂⟩
      · rw [hrest] at hmore
        dsimp only
        rw [hrest]
        exact hmore
      · rw [hrest] at hmore
        dsimp only
        rw [hrest]
        exact hmore

end

/-! ## Scripts -/

namespace Script

/-- Behind the first empty piece there is nothing more to come. -/
def EndsOnce : Script → Prop
  | [] => True
  | .fail _ :: r => EndsOnce r
  | .data [] :: r => deliveredUntilFault r = [] ∧ fault? r = none ∧ EndsOnce r
  | .data (_ :: _) :: r => EndsOnce r

variable {s : Script}

theorem EndsOnce.read (h : s.EndsOnce) (n : Nat) : (s.read n).2.EndsOnce := by
  rcases s with _ | ⟨piece | e, r⟩
  · exact h
  · by_cases hfits : piece.length ≤ n
    · rw [Script.read, if_pos hfits]
      rcases piece with _ | ⟨b, bs⟩
      · exact h.2.2
      · exact h
    · rw [Script.read, if_neg hfits]
      rcases piece with _ | ⟨b, bs⟩
      · exact absurd (Nat.zero_le n) hfits
      · obtain ⟨c, cs, hrest⟩ : ∃ c cs, (b :: bs).drop n = c :: cs := by
          refine List.exists_cons_of_ne_nil fun hnil => hfits ?_
          exact List.drop_eq_nil_iff.mp hnil
        rw [hrest]
        exact h
  · exact h

/-- A read without room swallows an interruption or an empty piece at most. -/
theorem read_zero (hfault : s.fault? = none) (h : s.EndsOnce) :
    ((s.read 0).1 = .ok [] ∨ ∃ e, (s.read 0).1 = .error e ∧ e.isInterrupted = true) ∧
      (s.read 0).2.fault? = none ∧ (s.read 0).2.deliveredUntilFault = s.deliveredUntilFault ∧
      (s.read 0).2.bound ≤ s.bound := by
  rcases s with _ | ⟨(_ | ⟨b, bs⟩) | e, r⟩
  · exact ⟨Or.inl rfl, rfl, rfl, Nat.le_refl _⟩
  · exact ⟨Or.inl rfl, h.2.1, h.1, by simp [Script.read, bound]⟩
  · exact ⟨Or.inl rfl, hfault, rfl, Nat.le_refl _⟩
  · cases hint : e.isInterrupted with
    | false =>
      rw [fault?, hint, if_neg Bool.false_ne_true] at hfault
      cases hfault
    | true =>
      rw [fault?, if_pos hint] at hfault
      refine ⟨Or.inr ⟨e, rfl, hint⟩, hfault, ?_, Nat.le_succ _⟩
      rw [deliveredUntilFault, if_pos hint]
      rfl

end Script

/-! ## Handles -/

namespace StreamHandle

variable {h : StreamHandle} {n : Nat} {due : Bytes} {done : Except Error Unit} {stderr : Script}
  {idle : Prop}

/-- A handle that is left to itself and has not ended. -/
def Waiting (h : StreamHandle) : Prop :=
  h.outcome = none ∧ h.cancelled = false

/-- A handle that has not failed. -/
def Live (h : StreamHandle) : Prop :=
  h.Waiting ∨ h.outcome = some (.ok ())

/-- What stays true of a handle whatever is read: its diagnostic output is told once it has ended,
and if it may be read without room, its output ends only once. -/
structure Steady (stderr : Script) (idle : Prop) (h : StreamHandle) : Prop where
  tells : h.outcome = none ∧ h.stderr = stderr ∨
    h.outcome.isSome ∧ h.diagnostic = diagnosticOf stderr
  once : idle → h.stdout.EndsOnce

theorem Waiting.read_eq (hw : h.Waiting) (hon : ReadsOn (h.read n).1) :
    (h.read n).2 = { h with stdout := (h.stdout.read n).2 } := by
  rw [read_of_open hw.1] at hon ⊢
  rcases hresult : (h.stdout.read n).1 with e | bytes
  · dsimp only
    rw [if_neg (by rw [hw.2]; exact Bool.false_ne_true)]
  · rw [hresult] at hon
    dsimp only at hon ⊢
    by_cases hend : bytes = [] ∧ n ≠ 0
    · rw [if_pos hend] at hon
      exact absurd hon (not_readsOn_readOutcome _)
    · rw [if_neg hend]

theorem Live.read (hlive : h.Live) (hon : ReadsOn (h.read n).1) :
    (h.read n).2.Live := by
  rcases hlive with hw | hdone
  · rw [hw.read_eq hon]
    exact Or.inl hw
  · rw [read_of_done hdone] at hon
    exact absurd hon (not_readsOn_readOutcome (.ok ()))

theorem stdout_read (h : StreamHandle) (n : Nat) :
    (h.read n).2.stdout = h.stdout ∨ (h.read n).2.stdout = (h.stdout.read n).2 ∨
      (h.read n).2.stdout = [] := by
  cases hout : h.outcome with
  | some done =>
    rw [read_of_done hout]
    exact Or.inl rfl
  | none =>
    right
    rw [read_of_open hout]
    have hstdout (stdout : Script) : ({ h with stdout } : StreamHandle).outcome = none := hout
    cases (h.stdout.read n).1 with
    | error e =>
      dsimp only
      split
      · have habort := congrArg (fun ended => ended.2.stdout) (abort_of_open (hstdout (h.stdout.read n).2))
        rcases hended : ({ h with stdout := (h.stdout.read n).2 } : StreamHandle).abort with
          ⟨c | ⟨⟩, h'⟩
        · rw [hended] at habort
          exact Or.inr habort
        · rw [hended] at habort
          exact Or.inr habort
      · exact Or.inl rfl
    | ok bytes =>
      dsimp only
      split
      · rw [finalize_of_open (hstdout _)]
        exact Or.inr rfl
      · exact Or.inl rfl

theorem Steady.read (hsteady : h.Steady stderr idle) (n : Nat) :
    (h.read n).2.Steady stderr idle where
  tells := by
    rcases hsteady.tells with ⟨hopen, hstderr⟩ | hended
    · rcases (Moves.read hopen n).cases hopen with ⟨stdout, hnext⟩ | ⟨hdone, htext, -⟩
      · rw [hnext]
        exact Or.inl ⟨hopen, hstderr⟩
      · exact Or.inr ⟨Option.isSome_of_eq_some hdone, by rw [htext, hstderr]⟩
    · obtain ⟨done, hdone⟩ := Option.isSome_iff_exists.mp hended.1
      rw [read_of_done hdone]
      exact Or.inr hended
  once hidle := by
    have honce := hsteady.once hidle
    rcases stdout_read h n with hsame | hreads | hempty
    · rw [hsame]
      exact honce
    · rw [hreads]
      exact honce.read n
    · rw [hempty]
      exact trivial

theorem delivery_steady (done : Except Error Unit) (stderr : Script) (idle : Prop) :
    Delivery (fun h due => Due done h due ∧ h.Steady stderr idle)
      (fun h => h.outcome = some done) (done.mapError Error.toIo) :=
  (delivery_due done).and fun n _ hsteady => hsteady.read n

theorem idles (hidle : idle) (hlive : h.Live) (hdue : Due done h due ∧ h.Steady stderr idle) :
    Idles (fun h due => Due done h due ∧ h.Steady stderr idle) Live h due := by
  have hread : ByteSource.read 0 h = h.read 0 := rfl
  unfold Idles
  rw [hread]
  rcases hlive with hw | hdone
  · obtain ⟨hopen, hcancelled, hfault, hbytes, hends⟩ | ⟨hdone, -⟩ := hdue.1
    · obtain ⟨hresult, hfault', hbytes', hless⟩ := Script.read_zero hfault (hdue.2.once hidle)
      have heq : h.read 0 = ((h.stdout.read 0).1, { h with stdout := (h.stdout.read 0).2 }) := by
        rw [read_of_open hopen]
        rcases (h.stdout.read 0).1 with e | bytes
        · exact if_neg (by rw [hcancelled]; exact Bool.false_ne_true)
        · exact if_neg fun hend => hend.2 rfl
      have hsteady := hdue.2.read 0
      rw [heq] at hsteady ⊢
      refine ⟨_, _, rfl, hresult, ⟨Or.inl ⟨hopen, hcancelled, hfault', ?_, hends⟩, hsteady⟩,
        Or.inl hw, Nat.add_le_add_right hless 2⟩
      exact hbytes'.trans hbytes
    · rw [hw.1] at hdone
      cases hdone
  · rw [read_of_done hdone]
    exact ⟨_, h, rfl, Or.inl rfl, hdue, Or.inr hdone, Nat.le_refl _⟩

end StreamHandle

end GuestVault
