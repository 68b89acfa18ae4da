import GuestVault.Proofs.Host.Deeds

/-!
# The course of a restore

A pair is restored in six stages. `Errand.Course` says which deeds belong to them, and that they are
taken in order up to the first one that fails. The guest is only touched once all of the archive is
written, the file is finished and its size is confirmed (`Errand.Course.guest_deeds`).
-/

namespace GuestVault

/-! ## Stages -/

/-- The stages in which a pair is completed. -/
inductive Stage where
  | create
  | copy
  | finish
  | confirm
  | stop
  | restore
deriving DecidableEq

namespace Stage

/-- The stages that put an archive into a file. -/
def staging : List Stage :=
  [.create, .copy, .finish, .confirm]

/-- The stages that replace a guest. -/
def replacing : List Stage :=
  [.stop, .restore]

/-- All stages in order. -/
def all : List Stage :=
  staging ++ replacing

end Stage

namespace Deed

/-- The stage that a deed belongs to; a removal belongs to none. -/
def stage? : Deed → Option Stage
  | .create _ _ => some .create
  | .write _ _ => some .copy
  | .finish _ => some .finish
  | .stat _ _ => some .confirm
  | .stop _ _ _ => some .stop
  | .restore _ _ _ _ => some .restore
  | .remove _ _ => none

theorem stage?_of_removes {deed : Deed} (h : deed.Removes) : deed.stage? = none := by
  cases deed with
  | remove => rfl
  | _ => cases h

theorem stage?_of_onGuest {deed : Deed} (h : deed.OnGuest) :
    deed.stage? = some .stop ∨ deed.stage? = some .restore := by
  cases deed with
  | stop => exact Or.inl rfl
  | restore => exact Or.inr rfl
  | _ => cases h

end Deed

/-- What a pair asks for: the file for the archive, the guest, what can be read of the archive, and
the error that reading it ends with, if any. -/
structure Errand where
  path : String
  kind : Kind
  vmid : Nat
  payload : Bytes
  fault? : Option IoError

/-- Bytes are written in pieces: all of them, and then the fault is that of the reader, or some of
them up to a piece that cannot be written. -/
def Copied (payload : Bytes) (readFault : Option IoError) (made : List Deed)
    (fault : Option IoError) : Prop :=
  ∃ pieces : List Bytes,
    (made = pieces.map (.write · none) ∧ pieces.flatten = payload ∧ fault = readFault) ∨
    ∃ piece e, made = pieces.map (.write · none) ++ [.write piece (some e)] ∧
      pieces.flatten ++ piece <+: payload ∧ fault = some e

namespace Copied

variable {payload : Bytes} {readFault fault : Option IoError} {made : List Deed}

theorem nil (readFault : Option IoError) : Copied [] readFault [] readFault :=
  ⟨[], Or.inl ⟨rfl, rfl, rfl⟩⟩

theorem cons (piece : Bytes) (h : Copied payload readFault made fault) :
    Copied (piece ++ payload) readFault ([.write piece none] ++ made) fault := by
  obtain ⟨pieces, ⟨rfl, rfl, rfl⟩ | ⟨last, e, rfl, hprefix, rfl⟩⟩ := h
  · exact ⟨piece :: pieces, Or.inl ⟨rfl, rfl, rfl⟩⟩
  · refine ⟨piece :: pieces, Or.inr ⟨last, e, rfl, ?_, rfl⟩⟩
    rw [List.flatten_cons, List.append_assoc]
    exact (List.prefix_append_right_inj piece).mpr hprefix

theorem broken (piece : Bytes) (e : IoError) (payload : Bytes) (readFault : Option IoError) :
    Copied (piece ++ payload) readFault [.write piece (some e)] (some e) :=
  ⟨[], Or.inr ⟨piece, e, rfl, List.prefix_append _ _, rfl⟩⟩

theorem mem (h : Copied payload readFault made fault) :
    ∀ deed ∈ made, ∃ data e, deed = .write data e := by
  have hpieces (pieces : List Bytes) : ∀ deed ∈ pieces.map (Deed.write · none),
      ∃ data e, deed = .write data e := by
    intro deed hdeed
    obtain ⟨piece, -, rfl⟩ := List.mem_map.mp hdeed
    exact ⟨piece, none, rfl⟩
  obtain ⟨pieces, ⟨rfl, -, -⟩ | ⟨piece, e, rfl, -, -⟩⟩ := h
  · exact hpieces pieces
  · intro deed hdeed
    rcases List.mem_append.mp hdeed with hdeed | hdeed
    · exact hpieces pieces deed hdeed
    · exact ⟨piece, some e, List.mem_singleton.mp hdeed⟩

end Copied

namespace Errand

/-- What is wrong with the answer to how large the file is. -/
def sizeFault (errand : Errand) : Except Error Nat → Option Error
  | .error e => some e
  | .ok size =>
    if size = errand.payload.length then none
    else some (.validation ("staged file " ++ errand.path ++ " has " ++ toString size ++
      " bytes, expected " ++ toString errand.payload.length))

theorem sizeFault_eq_none {errand : Errand} {size : Except Error Nat}
    (h : errand.sizeFault size = none) : size = .ok errand.payload.length := by
  unfold sizeFault at h
  split at h
  · cases h
  · split at h
    · rename_i hsize
      rw [hsize]
    · cases h

/-- The deeds of one stage, and what is wrong with it. -/
def Takes (errand : Errand) : Stage → List Deed → Option Error → Prop
  | .create, made, fault => made = [.create errand.path fault]
  | .copy, made, fault => ∃ broken, Copied errand.payload errand.fault? made broken ∧
      fault = broken.map (.io ("stage " ++ errand.path))
  | .finish, made, fault => made = [.finish fault]
  | .confirm, made, fault => ∃ size, made = [.stat errand.path size] ∧ fault = errand.sizeFault size
  | .stop, made, fault => made = [.stop errand.kind errand.vmid fault]
  | .restore, made, fault => made = [.restore errand.kind errand.vmid errand.path fault]

/-- The deeds of some stages that are taken in order up to the first one that fails, and its error.
-/
inductive Course (errand : Errand) : List Stage → List Deed → Option Error → Prop
  | done : errand.Course [] [] none
  | stopped {stage : Stage} {rest : List Stage} {made : List Deed} {e : Error} :
      errand.Takes stage made (some e) → errand.Course (stage :: rest) made (some e)
  | onward {stage : Stage} {rest : List Stage} {made more : List Deed} {fault : Option Error} :
      errand.Takes stage made none → errand.Course rest more fault →
        errand.Course (stage :: rest) (made ++ more) fault

/-- The deeds that stage an archive well, if it is written in the given pieces. -/
def staged (errand : Errand) (pieces : List Bytes) : List Deed :=
  .create errand.path none :: (pieces.map (.write · none) ++
    [.finish none, .stat errand.path (.ok errand.payload.length)])

variable {errand : Errand} {stage : Stage} {stages first rest : List Stage} {made more : List Deed}
  {fault : Option Error}

namespace Course

theorem single (h : errand.Takes stage made fault) : errand.Course [stage] made fault := by
  cases fault with
  | none => exact List.append_nil made ▸ onward h done
  | some e => exact stopped h

theorem append (h : errand.Course first made none) (hmore : errand.Course rest more fault) :
    errand.Course (first ++ rest) (made ++ more) fault := by
  generalize hnone : (none : Option Error) = fault' at h
  induction h with
  | done => exact hmore
  | stopped _ => cases hnone
  | onward htakes _ ih =>
    rw [List.append_assoc]
    exact onward htakes (ih hnone)

/-- After a stage that fails there is no other. -/
theorem append_of_some {e : Error} (h : errand.Course first made (some e)) (rest : List Stage) :
    errand.Course (first ++ rest) made (some e) := by
  generalize hsome : some e = fault' at h ⊢
  induction h with
  | done => cases hsome
  | stopped htakes => exact stopped htakes
  | onward htakes _ ih => exact onward htakes (ih hsome)

/-- Stages in two parts: the first one fails, or goes well and the second follows. -/
theorem split (h : errand.Course (first ++ rest) made fault) :
    (errand.Course first made fault ∧ fault ≠ none) ∨
      ∃ front back, made = front ++ back ∧ errand.Course first front none ∧
        errand.Course rest back fault := by
  induction first generalizing made with
  | nil => exact Or.inr ⟨[], made, rfl, done, h⟩
  | cons stage first ih =>
    cases h with
    | stopped htakes => exact Or.inl ⟨stopped htakes, Option.some_ne_none _⟩
    | onward htakes hrest =>
      rcases ih hrest with ⟨hfirst, hfault⟩ | ⟨front, back, rfl, hfront, hback⟩
      · exact Or.inl ⟨onward htakes hfirst, hfault⟩
      · exact Or.inr ⟨_, back, (List.append_assoc _ _ _).symm, onward htakes hfront, hback⟩

theorem of_cons (h : errand.Course (stage :: rest) made none) :
    ∃ front back, made = front ++ back ∧ errand.Takes stage front none ∧
      errand.Course rest back none := by
  cases h with
  | onward htakes hrest => exact ⟨_, _, rfl, htakes, hrest⟩

theorem of_nil (h : errand.Course [] made fault) : made = [] ∧ fault = none := by
  cases h with
  | done => exact ⟨rfl, rfl⟩

end Course

theorem Takes.stage?_eq (h : errand.Takes stage made fault) :
    ∀ deed ∈ made, deed.stage? = some stage := by
  cases stage with
  | copy =>
    obtain ⟨broken, hcopied, -⟩ := h
    intro deed hdeed
    obtain ⟨data, e, rfl⟩ := Copied.mem hcopied deed hdeed
    rfl
  | confirm =>
    obtain ⟨size, rfl, -⟩ := h
    exact List.forall_mem_singleton.mpr rfl
  | create | finish | stop | restore =>
    obtain rfl := h
    exact List.forall_mem_singleton.mpr rfl

namespace Course

theorem exists_stage (h : errand.Course stages made fault) :
    ∀ deed ∈ made, ∃ stage ∈ stages, deed.stage? = some stage := by
  induction h with
  | done => exact nofun
  | stopped htakes =>
    exact fun deed hdeed => ⟨_, List.mem_cons_self, htakes.stage?_eq deed hdeed⟩
  | onward htakes _ ih =>
    intro deed hdeed
    rcases List.mem_append.mp hdeed with hdeed | hdeed
    · exact ⟨_, List.mem_cons_self, htakes.stage?_eq deed hdeed⟩
    · obtain ⟨stage, hstage, hdeed⟩ := ih deed hdeed
      exact ⟨stage, List.mem_cons_of_mem _ hstage, hdeed⟩

theorem not_removes (h : errand.Course stages made fault) : ∀ deed ∈ made, ¬ deed.Removes := by
  intro deed hdeed hremoves
  obtain ⟨stage, -, hstage⟩ := h.exists_stage deed hdeed
  rw [Deed.stage?_of_removes hremoves] at hstage
  cases hstage

theorem not_onGuest (h : errand.Course Stage.staging made fault) :
    ∀ deed ∈ made, ¬ deed.OnGuest := by
  intro deed hdeed hguest
  obtain ⟨stage, hstage, hdeed⟩ := h.exists_stage deed hdeed
  rcases Deed.stage?_of_onGuest hguest with hstop | hrestore
  · obtain rfl := Option.some.inj (hstop.symm.trans hdeed)
    exact absurd hstage (by decide)
  · obtain rfl := Option.some.inj (hrestore.symm.trans hdeed)
    exact absurd hstage (by decide)

/-- **An archive that is staged well** is written from its first to its last byte, and its size is
confirmed. -/
theorem staging_done (h : errand.Course Stage.staging made none) :
    errand.fault? = none ∧ ∃ pieces : List Bytes, pieces.flatten = errand.payload ∧
      made = errand.staged pieces := by
  obtain ⟨_, _, rfl, rfl, hcopy⟩ := h.of_cons
  obtain ⟨_, _, rfl, ⟨broken, hcopied, hbroken⟩, hfinish⟩ := hcopy.of_cons
  obtain ⟨_, _, rfl, rfl, hconfirm⟩ := hfinish.of_cons
  obtain ⟨_, _, rfl, ⟨size, rfl, hsize⟩, hend⟩ := hconfirm.of_cons
  obtain ⟨rfl, -⟩ := hend.of_nil
  obtain rfl := sizeFault_eq_none hsize.symm
  obtain rfl := Option.map_eq_none_iff.mp hbroken.symm
  obtain ⟨pieces, ⟨rfl, hpayload, hread⟩ | ⟨piece, e, -, -, hwrite⟩⟩ := hcopied
  · exact ⟨hread.symm, pieces, hpayload, rfl⟩
  · cases hwrite

/-- A guest is stopped, and restored only if that goes well. -/
theorem replacing_cases (h : errand.Course Stage.replacing made fault) :
    (made = [.stop errand.kind errand.vmid fault] ∧ fault ≠ none) ∨
      made = [.stop errand.kind errand.vmid none,
        .restore errand.kind errand.vmid errand.path fault] := by
  cases h with
  | stopped htakes => exact Or.inl ⟨htakes, Option.some_ne_none _⟩
  | onward htakes hrest =>
    obtain rfl := htakes
    cases hrest with
    | stopped htakes =>
      obtain rfl := htakes
      exact Or.inr rfl
    | onward htakes hrest =>
      obtain rfl := htakes
      obtain ⟨rfl, rfl⟩ := hrest.of_nil
      exact Or.inr rfl

/-- **The guest is touched only after the archive is staged well**: it is stopped, and restored if
that goes well too. -/
theorem guest_deeds (h : errand.Course Stage.all made fault) :
    ((∀ deed ∈ made, ¬ deed.OnGuest) ∧ fault ≠ none) ∨
      errand.fault? = none ∧ ∃ pieces : List Bytes, pieces.flatten = errand.payload ∧
        (made = errand.staged pieces ++ [.stop errand.kind errand.vmid fault] ∧ fault ≠ none ∨
          made = errand.staged pieces ++
            [.stop errand.kind errand.vmid none,
              .restore errand.kind errand.vmid errand.path fault]) := by
  rcases split h with ⟨hstaging, hfault⟩ | ⟨front, back, rfl, hstaging, hreplacing⟩
  · exact Or.inl ⟨hstaging.not_onGuest, hfault⟩
  · obtain ⟨hread, pieces, hpayload, rfl⟩ := hstaging.staging_done
    refine Or.inr ⟨hread, pieces, hpayload, ?_⟩
    rcases hreplacing.replacing_cases with ⟨rfl, hfault⟩ | rfl
    · exact Or.inl ⟨rfl, hfault⟩
    · exact Or.inr rfl

end Course

end Errand

end GuestVault
