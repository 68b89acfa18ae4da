import GuestVault.Proofs.Cluster.Inventory

/-!
# Guests of a selection

1. `resolve_answer`: a selection is made from one list of resources, that of its pool or of the
   cluster.
2. `choose_covers`, `exists_choose_iff`: it gives the guests among them that are asked for, in ascending
   order, and is refused exactly if there are none.
3. `inventory_consistent`: the list of guests, the kind of a guest and the guests of a selection agree
   if they are asked for in one state.
-/

namespace GuestVault

open Inventory

namespace Selection

variable {node : Option String} {resources : List Resource} {ms : List Machine}
  (selection : Selection)

/-- The selection asks for this id, if there is a guest with it. -/
def Asks (vmid : Nat) : Prop :=
  match selection with
  | .vmid id => vmid = id
  | _ => True

/-- The guests among some resources that a selection asks for, with each id once. -/
structure Covers (selection : Selection) (node : Option String) (resources : List Resource)
    (ms : List Machine) : Prop where
  ne_nil : ms ≠ []
  ascending : Ascending ms
  vmid_pos : ∀ m ∈ ms, 0 < m.vmid
  mem_iff : ∀ vmid, (∃ m ∈ ms, m.vmid = vmid) ↔
    selection.Asks vmid ∧ ∃ r ∈ resources, r.IsGuest node ∧ r.vmid = vmid

/-- The choice of a selection among some resources. -/
def choose (node : Option String) (resources : List Resource) : Except Failure (List Machine) :=
  match selection with
  | .vmid id => (kindIn node id resources).map fun kind => [{ vmid := id, kind, node }]
  | _ => nonempty (machines node resources)

theorem exists_mem_machines_iff {vmid : Nat} : (∃ m ∈ machines node resources, m.vmid = vmid) ↔
    ∃ r ∈ resources, r.IsGuest node ∧ r.vmid = vmid := by
  rw [← exists_isFirst_iff]
  simp only [mem_machines_iff]

theorem vmid_pos_of_mem {m : Machine} (h : m ∈ machines node resources) : 0 < m.vmid := by
  obtain ⟨r, -, hguest, hvmid⟩ := exists_mem_machines_iff.mp ⟨m, h, rfl⟩
  rw [← hvmid]
  exact hguest.vmid_pos

theorem nonempty_eq_ok_iff {found : List Machine} :
    nonempty found = .ok ms ↔ found ≠ [] ∧ ms = found := by
  cases found with
  | nil => simp [nonempty]
  | cons m found => simp [nonempty, eq_comm]

theorem covers_nonempty (hask : ∀ vmid, selection.Asks vmid)
    (h : nonempty (machines node resources) = .ok ms) : selection.Covers node resources ms := by
  obtain ⟨hne, rfl⟩ := nonempty_eq_ok_iff.mp h
  refine ⟨hne, ascending_machines node resources, fun m hm => vmid_pos_of_mem hm, fun vmid => ?_⟩
  rw [exists_mem_machines_iff]
  exact (and_iff_right (hask vmid)).symm

/-- **What a selection chooses are the guests that it asks for.** -/
theorem choose_covers (h : selection.choose node resources = .ok ms) :
    selection.Covers node resources ms := by
  cases selection with
  | pool name => exact covers_nonempty _ (fun _ => trivial) h
  | all => exact covers_nonempty _ (fun _ => trivial) h
  | vmid id =>
    dsimp only [choose] at h
    cases hkind : kindIn node id resources with
    | error f =>
      rw [hkind] at h
      cases h
    | ok kind =>
      rw [hkind] at h
      obtain rfl := Except.ok.inj h
      obtain ⟨m, hm, hvmid, -⟩ := kindIn_eq_ok_iff.mp hkind
      have hentry := exists_mem_machines_iff.mp ⟨m, hm, hvmid⟩
      have hpos : 0 < id := by
        rw [← hvmid]
        exact vmid_pos_of_mem hm
      refine ⟨List.cons_ne_nil _ _, List.pairwise_singleton _ _, ?_, fun vmid => ?_⟩
      · intro other hother
        rw [List.mem_singleton.mp hother]
        exact hpos
      · constructor
        · rintro ⟨other, hother, rfl⟩
          rw [List.mem_singleton.mp hother]
          exact ⟨rfl, hentry⟩
        · rintro ⟨rfl, -⟩
          exact ⟨_, List.mem_singleton_self _, rfl⟩

theorem exists_choose_iff : (∃ ms, selection.choose node resources = .ok ms) ↔
    ∃ r ∈ resources, r.IsGuest node ∧ selection.Asks r.vmid := by
  constructor
  · rintro ⟨ms, h⟩
    have hcovers := selection.choose_covers h
    obtain ⟨m, hm⟩ := List.exists_mem_of_ne_nil ms hcovers.ne_nil
    obtain ⟨hask, r, hr, hguest, hvmid⟩ := (hcovers.mem_iff m.vmid).mp ⟨m, hm, rfl⟩
    exact ⟨r, hr, hguest, hvmid ▸ hask⟩
  · rintro ⟨r, hr, hguest, hask⟩
    obtain ⟨m, hm, hvmid⟩ := exists_mem_machines_iff.mpr ⟨r, hr, hguest, rfl⟩
    have hne : machines node resources ≠ [] := List.ne_nil_of_mem hm
    cases selection with
    | pool name => exact ⟨_, nonempty_eq_ok_iff.mpr ⟨hne, rfl⟩⟩
    | all => exact ⟨_, nonempty_eq_ok_iff.mpr ⟨hne, rfl⟩⟩
    | vmid id =>
      have hkind := kindIn_eq_ok_iff.mpr ⟨m, hm, hvmid.trans hask, rfl⟩
      dsimp only [choose]
      rw [hkind]
      exact ⟨_, rfl⟩

variable {σ : Type} (api : ClusterApi σ) (inv : Inventory) (now : Nat) (s : σ)

/-- The resources that a selection is made from. -/
def sources : Except Failure (List Resource) :=
  match selection with
  | .pool name => (api.poolMembers name s).1
  | _ => inv.known api now s

theorem resolve_answer : (selection.resolve api inv now s).1.1 =
    (selection.sources api inv now s).bind (selection.choose inv.node) := by
  have hbind {f : List Resource → List Machine} (given : Except Failure (List Resource)) :
      (given.map f).bind nonempty = given.bind fun resources => nonempty (f resources) := by
    cases given with
    | ok resources => rfl
    | error e => rfl
  cases selection with
  | vmid id =>
    show (inv.kindOf api now id s).1.1.map (fun kind =>
      ([{ vmid := id, kind, node := (inv.resources api now s).1.2.node }] : List Machine)) = _
    rw [kindOf_answer, node_resources]
    show _ = (inv.known api now s).bind (choose (.vmid id) inv.node)
    cases inv.known api now s with
    | ok resources => rfl
    | error f => rfl
  | pool name =>
    show (inv.listPool api name s).1.bind nonempty = _
    rw [listPool_answer]
    exact hbind _
  | all =>
    show (inv.listAll api now s).1.1.bind nonempty = _
    rw [listAll_answer]
    exact hbind _

end Selection

namespace Inventory

variable {node : Option String}

/-- The kind that is given for an id is the one in the list of guests from the same resources. -/
theorem kind_agrees (given : Except Failure (List Resource)) (vmid : Nat) :
    (∀ kind, given.bind (kindIn node vmid) = .ok kind ↔
      ∃ ms, given.map (machines node) = .ok ms ∧ ∃ m ∈ ms, m.vmid = vmid ∧ m.kind = kind) ∧
    (∀ ms, given.map (machines node) = .ok ms → (∀ m ∈ ms, m.vmid ≠ vmid) →
      given.bind (kindIn node vmid) = .error (unknownKind vmid)) ∧
    ∀ f, given.map (machines node) = .error f → given.bind (kindIn node vmid) = .error f := by
  cases given with
  | error f =>
    refine ⟨fun kind => iff_of_false nofun ?_, nofun, fun f' hf => ?_⟩
    · rintro ⟨ms, hms, -⟩
      cases hms
    · cases hf
      rfl
  | ok resources =>
    refine ⟨fun kind => ?_, fun ms hms hunlisted => ?_, nofun⟩
    · refine kindIn_eq_ok_iff.trans ⟨fun h => ⟨_, rfl, h⟩, ?_⟩
      rintro ⟨ms, hms, h⟩
      cases hms
      exact h
    · cases hms
      exact kindIn_of_unlisted hunlisted

theorem selection_agrees (given : Except Failure (List Resource)) (selection : Selection) :
    (∀ ms, given.bind (selection.choose node) = .ok ms →
      ∃ resources, given = .ok resources ∧ selection.Covers node resources ms) ∧
    ((∃ ms, given.bind (selection.choose node) = .ok ms) ↔
      ∃ resources, given = .ok resources ∧
        ∃ r ∈ resources, r.IsGuest node ∧ selection.Asks r.vmid) := by
  cases given with
  | error f =>
    refine ⟨nofun, iff_of_false ?_ ?_⟩
    · rintro ⟨ms, hms⟩
      cases hms
    · rintro ⟨resources, hresources, -⟩
      cases hresources
  | ok resources =>
    refine ⟨fun ms hms => ⟨resources, rfl, selection.choose_covers hms⟩, ?_⟩
    refine selection.exists_choose_iff.trans ⟨fun h => ⟨resources, rfl, h⟩, ?_⟩
    rintro ⟨resources', hresources, h⟩
    cases hresources
    exact h

variable {σ : Type}

/-- **All answers of an inventory agree.** Whatever the cluster says or is remembered of it, in any
order, with conflicting kinds and nodes for one id, unknown kinds and entries without an id:

* the list of all guests, and that of the members of a pool, has for each id with an entry that is a
  guest what the first such entry says, and nothing else, in strictly ascending order;
* a guest has the kind that the list of all guests gives it, and an id that is not in the list has none;
* a selection gives a list of guests that is not empty, in strictly ascending order, with exactly the
  ids that it asks for and that an entry has which is a guest. It gives one exactly if there are any. -/
theorem inventory_consistent (api : ClusterApi σ) (inv : Inventory) (now : Nat) (s : σ) :
    Reports inv.node (inv.known api now s) (inv.listAll api now s).1.1 ∧
    (∀ pool, Reports inv.node (api.poolMembers pool s).1 (inv.listPool api pool s).1) ∧
    (∀ vmid,
      (∀ kind, (inv.kindOf api now vmid s).1.1 = .ok kind ↔
        ∃ ms, (inv.listAll api now s).1.1 = .ok ms ∧ ∃ m ∈ ms, m.vmid = vmid ∧ m.kind = kind) ∧
      (∀ ms, (inv.listAll api now s).1.1 = .ok ms → (∀ m ∈ ms, m.vmid ≠ vmid) →
        (inv.kindOf api now vmid s).1.1 = .error (unknownKind vmid)) ∧
      ∀ f, (inv.listAll api now s).1.1 = .error f →
        (inv.kindOf api now vmid s).1.1 = .error f) ∧
    ∀ selection : Selection,
      (∀ ms, (selection.resolve api inv now s).1.1 = .ok ms →
        ∃ resources, selection.sources api inv now s = .ok resources ∧
          selection.Covers inv.node resources ms) ∧
      ((∃ ms, (selection.resolve api inv now s).1.1 = .ok ms) ↔
        ∃ resources, selection.sources api inv now s = .ok resources ∧
          ∃ r ∈ resources, r.IsGuest inv.node ∧ selection.Asks r.vmid) := by
  refine ⟨?_, fun pool => ?_, fun vmid => ?_, fun selection => ?_⟩
  · rw [listAll_answer]
    exact reports_map inv.node _
  · rw [listPool_answer]
    exact reports_map inv.node _
  · rw [listAll_answer, kindOf_answer]
    exact kind_agrees _ vmid
  · rw [Selection.resolve_answer]
    exact selection_agrees _ selection

end Inventory

end GuestVault
