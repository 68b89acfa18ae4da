import GuestVault.Cluster.Selection
import Mathlib.Data.List.Sort

/-!
# Answers of an inventory

An inventory makes its answers from a list of resources, in which an id may occur several times, with
different kinds and nodes. All answers go by the first entry of an id that is a guest.

1. `eligible?_eq_some_iff`: which entries are guests, and what they say.
2. `lists_machines`: the list of guests has each of them once, in ascending order, and is the only such
   list.
3. `kindIn_eq_ok_iff`: the kind of a guest is the one that the list has.
4. `listAll_answer`, `listPool_answer`, `kindOf_answer`: the answers are made from the resources that
   are known in a state.
-/

namespace GuestVault

/-! ## Guests among resources -/

namespace Resource

/-- The entry is a guest with an id, on the node that is asked for. -/
structure IsGuest (node : Option String) (r : Resource) : Prop where
  exists_kind : ∃ kind : Kind, r.kind = kind.name
  vmid_pos : 0 < r.vmid
  node_eq : ∀ n ∈ node, r.node = n

/-- What an entry says of the guest that it is. -/
structure Describes (r : Resource) (m : Machine) : Prop where
  vmid_eq : m.vmid = r.vmid
  kind_name : r.kind = m.kind.name
  node_eq : m.node = if r.node = "" then none else some r.node

end Resource

namespace Inventory

variable {node : Option String} {resources : List Resource} {r : Resource} {m x : Machine}
  {ms : List Machine} {vmid : Nat} {kind : Kind}

theorem any_ne_iff : node.any (· ≠ r.node) = true ↔ ¬ ∀ n ∈ node, r.node = n := by
  cases node with
  | none => simp
  | some n =>
    simp only [Option.any_some, decide_eq_true_eq, Option.mem_some_iff, forall_eq']
    exact ne_comm

/-- **An entry counts if it is a guest**, and counts for what it says. -/
theorem eligible?_eq_some_iff : eligible? node r = some m ↔ r.IsGuest node ∧ r.Describes m := by
  unfold eligible?
  constructor
  · intro h
    split at h
    · cases h
    · rename_i kind hkind
      have hname := Kind.ofName?_eq_some_iff.mp hkind
      by_cases hzero : r.vmid = 0
      · rw [if_pos hzero] at h
        cases h
      by_cases hnode : node.any (· ≠ r.node) = true
      · rw [if_neg hzero, if_pos hnode] at h
        cases h
      rw [if_neg hzero, if_neg hnode, Option.some.injEq] at h
      subst h
      exact ⟨⟨⟨kind, hname⟩, Nat.pos_of_ne_zero hzero, not_not.mp (mt any_ne_iff.mpr hnode)⟩,
        rfl, hname, rfl⟩
  · rintro ⟨⟨-, hpos, hnode⟩, hvmid, hname, hmnode⟩
    have hkind : Kind.ofName? r.kind = some m.kind := Kind.ofName?_eq_some_iff.mpr hname
    have hany : ¬ node.any (· ≠ r.node) = true := fun h => any_ne_iff.mp h hnode
    rw [hkind]
    simp only [if_neg (Nat.ne_of_gt hpos), if_neg hany, Option.some.injEq]
    cases m
    simp_all

theorem eligible?_eq_none_iff : eligible? node r = none ↔ ¬ r.IsGuest node := by
  constructor
  · intro h hguest
    obtain ⟨kind, hkind⟩ := hguest.exists_kind
    have hsome : eligible? node r =
        some { vmid := r.vmid, kind, node := if r.node = "" then none else some r.node } :=
      eligible?_eq_some_iff.mpr ⟨hguest, rfl, hkind, rfl⟩
    rw [h] at hsome
    cases hsome
  · intro h
    rw [Option.eq_none_iff_forall_ne_some]
    exact fun m hm => h (eligible?_eq_some_iff.mp hm).1

/-- The guest is what the first entry says that is a guest with this id. -/
def IsFirst (node : Option String) (resources : List Resource) (m : Machine) : Prop :=
  ∃ earlier r later, resources = earlier ++ r :: later ∧ r.IsGuest node ∧ r.Describes m ∧
    ∀ other ∈ earlier, other.vmid = r.vmid → ¬ other.IsGuest node

/-- The guest that the first entry with this id is. -/
def first? (node : Option String) (vmid : Nat) (resources : List Resource) : Option Machine :=
  resources.findSome? fun r => if r.vmid = vmid then eligible? node r else none

theorem first?_eq_some_iff :
    first? node vmid resources = some m ↔ m.vmid = vmid ∧ IsFirst node resources m := by
  have hskipped (other : Resource) :
      (if other.vmid = vmid then eligible? node other else none) = none ↔
        (other.vmid = vmid → ¬ other.IsGuest node) := by
    split_ifs with h
    · simp [h, eligible?_eq_none_iff]
    · simp [h]
  unfold first?
  rw [List.findSome?_eq_some_iff]
  constructor
  · rintro ⟨earlier, r, later, rfl, hr, hearlier⟩
    split_ifs at hr with hvmid
    obtain ⟨hguest, hdescribes⟩ := eligible?_eq_some_iff.mp hr
    refine ⟨hdescribes.vmid_eq.trans hvmid, earlier, r, later, rfl, hguest, hdescribes, ?_⟩
    intro other hother
    rw [hvmid]
    exact (hskipped other).mp (hearlier other hother)
  · rintro ⟨rfl, earlier, r, later, rfl, hguest, hdescribes, hearlier⟩
    refine ⟨earlier, r, later, rfl, ?_, fun other hother => (hskipped other).mpr ?_⟩
    · rw [if_pos hdescribes.vmid_eq.symm]
      exact eligible?_eq_some_iff.mpr ⟨hguest, hdescribes⟩
    · rw [hdescribes.vmid_eq]
      exact hearlier other hother

/-- There is a first entry for an id if any entry is a guest with it. -/
theorem exists_isFirst_iff : (∃ m, IsFirst node resources m ∧ m.vmid = vmid) ↔
    ∃ r ∈ resources, r.IsGuest node ∧ r.vmid = vmid := by
  constructor
  · rintro ⟨m, ⟨earlier, r, later, rfl, hguest, hdescribes, -⟩, rfl⟩
    exact ⟨r, by simp, hguest, hdescribes.vmid_eq.symm⟩
  · rintro ⟨r, hr, hguest, hvmid⟩
    cases hfirst : first? node vmid resources with
    | none =>
      have hnone := List.findSome?_eq_none_iff.mp hfirst r hr
      rw [if_pos hvmid] at hnone
      exact absurd hguest (eligible?_eq_none_iff.mp hnone)
    | some m =>
      obtain ⟨hm, hisFirst⟩ := first?_eq_some_iff.mp hfirst
      exact ⟨m, hisFirst, hm⟩

/-! ## The list of guests -/

/-- The ids ascend strictly. -/
def Ascending (ms : List Machine) : Prop :=
  ms.Pairwise fun a b => a.vmid < b.vmid

theorem mem_of_mem_insert (h : x ∈ insert m ms) : x = m ∨ x ∈ ms := by
  induction ms with
  | nil => simpa [insert] using h
  | cons n ms ih =>
    unfold insert at h
    split_ifs at h
    · exact List.mem_cons.mp h
    · exact Or.inr h
    · rcases List.mem_cons.mp h with rfl | h
      · simp
      · exact (ih h).imp_right (List.mem_cons_of_mem n)

theorem Ascending.insert (h : Ascending ms) : Ascending (insert m ms) := by
  induction ms with
  | nil => exact List.pairwise_singleton _ _
  | cons n ms ih =>
    obtain ⟨hn, hms⟩ := List.pairwise_cons.mp h
    unfold Inventory.insert
    split_ifs with hlt heq
    · refine List.pairwise_cons.mpr ⟨?_, h⟩
      intro x hx
      rcases List.mem_cons.mp hx with rfl | hx
      · exact hlt
      · exact Nat.lt_trans hlt (hn x hx)
    · exact h
    · refine List.pairwise_cons.mpr ⟨?_, ih hms⟩
      intro x hx
      rcases mem_of_mem_insert hx with rfl | hx
      · omega
      · exact hn x hx

theorem find?_eq_none_of_lt (h : ∀ x ∈ ms, vmid < x.vmid) : ms.find? (·.vmid = vmid) = none := by
  rw [List.find?_eq_none]
  intro x hx
  have := h x hx
  simp only [decide_eq_true_eq]
  omega

theorem Ascending.mem_iff (h : Ascending ms) : m ∈ ms ↔ ms.find? (·.vmid = m.vmid) = some m := by
  induction ms with
  | nil => simp
  | cons n ms ih =>
    obtain ⟨hn, hms⟩ := List.pairwise_cons.mp h
    by_cases hid : n.vmid = m.vmid
    · rw [List.find?_cons_of_pos (by simp [hid]), List.mem_cons, Option.some.injEq]
      refine ⟨fun hmem => hmem.elim Eq.symm fun hm => ?_, fun heq => Or.inl heq.symm⟩
      have := hn m hm
      omega
    · rw [List.find?_cons_of_neg (by simp [hid]), List.mem_cons, ih hms]
      refine or_iff_right ?_
      rintro rfl
      exact hid rfl

theorem find?_insert (h : Ascending ms) : (insert m ms).find? (·.vmid = vmid) =
    (ms.find? (·.vmid = vmid)).or ([m].find? (·.vmid = vmid)) := by
  induction ms with
  | nil => rfl
  | cons n ms ih =>
    obtain ⟨hn, hms⟩ := List.pairwise_cons.mp h
    unfold insert
    split_ifs with hlt heq
    · by_cases hid : m.vmid = vmid
      · -- all ids of the list are larger
        have hnone : (n :: ms).find? (·.vmid = vmid) = none := by
          refine find?_eq_none_of_lt ?_
          intro x hx
          rcases List.mem_cons.mp hx with rfl | hx
          · omega
          · have := hn x hx
            omega
        rw [hnone, List.find?_cons_of_pos (by simp [hid]), List.find?_cons_of_pos (by simp [hid])]
        rfl
      · rw [List.find?_cons_of_neg (by simp [hid]), List.find?_cons_of_neg (l := []) (by simp [hid])]
        simp
    · by_cases hid : n.vmid = vmid
      · rw [List.find?_cons_of_pos (by simp [hid])]
        rfl
      · have hm : m.vmid ≠ vmid := by omega
        rw [List.find?_cons_of_neg (l := []) (by simp [hm])]
        simp
    · by_cases hid : n.vmid = vmid
      · rw [List.find?_cons_of_pos (by simp [hid]), List.find?_cons_of_pos (by simp [hid])]
        rfl
      · rw [List.find?_cons_of_neg (by simp [hid]), List.find?_cons_of_neg (by simp [hid]), ih hms]

/-- Of the guests with one id that are inserted, the first one stays. -/
theorem foldl_insert (vmid : Nat) (found : List Machine) (h : Ascending ms) :
    Ascending (found.foldl (fun ms m => insert m ms) ms) ∧
      (found.foldl (fun ms m => insert m ms) ms).find? (·.vmid = vmid) =
        (ms.find? (·.vmid = vmid)).or (found.find? (·.vmid = vmid)) := by
  induction found generalizing ms with
  | nil => exact ⟨h, Option.or_none.symm⟩
  | cons m found ih =>
    obtain ⟨hascending, hfind⟩ := ih h.insert
    refine ⟨hascending, hfind.trans ?_⟩
    rw [find?_insert h, Option.or_assoc, ← List.find?_append, List.singleton_append]

theorem ascending_machines (node : Option String) (resources : List Resource) :
    Ascending (machines node resources) :=
  (foldl_insert 0 _ List.Pairwise.nil).1

theorem find?_eligible : (resources.filterMap (eligible? node)).find? (·.vmid = vmid) =
    first? node vmid resources := by
  unfold first?
  induction resources with
  | nil => rfl
  | cons r resources ih =>
    rw [List.findSome?_cons, List.filterMap_cons]
    cases hr : eligible? node r with
    | none => simpa using ih
    | some m =>
      have hvmid := (eligible?_eq_some_iff.mp hr).2.vmid_eq
      by_cases hid : r.vmid = vmid
      · simp [hvmid, hid]
      · simpa [hvmid, hid] using ih

theorem find?_machines : (machines node resources).find? (·.vmid = vmid) =
    first? node vmid resources := by
  rw [← find?_eligible]
  exact (foldl_insert vmid _ List.Pairwise.nil).2

theorem mem_machines_iff : m ∈ machines node resources ↔ IsFirst node resources m := by
  rw [(ascending_machines node resources).mem_iff, find?_machines, first?_eq_some_iff]
  exact and_iff_right rfl

/-- The list has the first guest of each id, in ascending order. -/
structure Lists (node : Option String) (resources : List Resource) (ms : List Machine) : Prop where
  ascending : Ascending ms
  mem_iff : ∀ m, m ∈ ms ↔ IsFirst node resources m

/-- **The list of guests** is sorted, has no id twice, and is complete; no other list is. -/
theorem lists_machines : Lists node resources ms ↔ ms = machines node resources := by
  constructor
  · intro h
    have : Std.Antisymm fun a b : Machine => a.vmid < b.vmid :=
      ⟨fun a b hab hba => absurd hab (Nat.lt_asymm hba)⟩
    have : Std.Irrefl fun a b : Machine => a.vmid < b.vmid := ⟨fun a => Nat.lt_irrefl a.vmid⟩
    refine List.Pairwise.eq_of_mem_iff h.ascending (ascending_machines node resources) ?_
    intro m
    rw [h.mem_iff, mem_machines_iff]
  · rintro rfl
    exact ⟨ascending_machines node resources, fun m => mem_machines_iff⟩

example : machines (some "a")
    [{ vmid := 9, kind := "lxc", node := "a" }, { vmid := 7, kind := "qemu", node := "b" },
      { vmid := 7, kind := "lxc", node := "a" }, { vmid := 9, kind := "qemu", node := "a" },
      { vmid := 0, kind := "qemu", node := "a" }, { vmid := 8, kind := "node", node := "a" }] =
    [{ vmid := 7, kind := .lxc, node := "a" }, { vmid := 9, kind := .lxc, node := "a" }] := by
  decide

/-! ## Kinds of guests -/

/-- The refusal to name the kind of an id that no guest has. -/
def unknownKind (vmid : Nat) : Failure :=
  .text ("unable to determine VM type for vmid " ++ toString vmid)

theorem kindIn_eq (node : Option String) (vmid : Nat) (resources : List Resource) :
    kindIn node vmid resources =
      match first? node vmid resources with
      | some m => .ok m.kind
      | none => .error (unknownKind vmid) := by
  have hfirst : (resources.filter (·.vmid = vmid)).findSome? (eligible? node) =
      first? node vmid resources := by
    unfold first?
    induction resources with
    | nil => rfl
    | cons r resources ih =>
      by_cases hid : r.vmid = vmid
      · rw [List.filter_cons_of_pos (by simp [hid]), List.findSome?_cons, List.findSome?_cons,
          if_pos hid, ih]
      · rw [List.filter_cons_of_neg (by simp [hid]), List.findSome?_cons, if_neg hid, ih]
  unfold kindIn
  rw [hfirst]
  rfl

/-- **A guest has the kind that the list gives it.** -/
theorem kindIn_eq_ok_iff : kindIn node vmid resources = .ok kind ↔
    ∃ m ∈ machines node resources, m.vmid = vmid ∧ m.kind = kind := by
  rw [kindIn_eq]
  constructor
  · intro h
    cases hfirst : first? node vmid resources with
    | none =>
      rw [hfirst] at h
      cases h
    | some m =>
      rw [hfirst] at h
      obtain ⟨hvmid, hm⟩ := first?_eq_some_iff.mp hfirst
      exact ⟨m, mem_machines_iff.mpr hm, hvmid, Except.ok.inj h⟩
  · rintro ⟨m, hm, hvmid, rfl⟩
    rw [first?_eq_some_iff.mpr ⟨hvmid, mem_machines_iff.mp hm⟩]

theorem kindIn_of_unlisted (h : ∀ m ∈ machines node resources, m.vmid ≠ vmid) :
    kindIn node vmid resources = .error (unknownKind vmid) := by
  rw [kindIn_eq]
  cases hfirst : first? node vmid resources with
  | none => rfl
  | some m =>
    obtain ⟨hvmid, hm⟩ := first?_eq_some_iff.mp hfirst
    exact absurd hvmid (h m (mem_machines_iff.mpr hm))

/-! ## Answers -/

variable {σ : Type} (api : ClusterApi σ) (inv : Inventory) (now : Nat) (s : σ)

/-- The resources that the answers in a state are made from, remembered or asked for. -/
def known : Except Failure (List Resource) :=
  (inv.resources api now s).1.1

theorem node_resourcesBetween (asked answered : Nat) :
    (inv.resourcesBetween api asked answered s).1.2.node = inv.node := by
  unfold Inventory.resourcesBetween
  cases inv.cached? asked with
  | some resources => rfl
  | none =>
    simp only [bind, StateT.bind, ExceptT.run]
    rcases api.resources s with ⟨_ | fresh, s'⟩
    · rfl
    · rfl

theorem node_resources : (inv.resources api now s).1.2.node = inv.node :=
  node_resourcesBetween api inv s now now

/-- A question for guests is answered by the list of them, unless there are no resources to make it
from. -/
def Reports (node : Option String) :
    Except Failure (List Resource) → Except Failure (List Machine) → Prop
  | .ok resources, .ok ms => Lists node resources ms
  | .error f, .error f' => f' = f
  | _, _ => False

theorem reports_map (node : Option String) (given : Except Failure (List Resource)) :
    Reports node given (given.map (machines node)) := by
  cases given with
  | ok resources => exact lists_machines.mpr rfl
  | error f => rfl

theorem listAll_answer :
    (inv.listAll api now s).1.1 = (inv.known api now s).map (machines inv.node) := by
  show (inv.known api now s).map (machines (inv.resources api now s).1.2.node) = _
  rw [node_resources]

theorem listPool_answer (pool : String) :
    (inv.listPool api pool s).1 = (api.poolMembers pool s).1.map (machines inv.node) := by
  unfold listPool
  simp only [bind, ExceptT.bind, ExceptT.mk, StateT.bind]
  rcases api.poolMembers pool s with ⟨_ | members, s'⟩
  · rfl
  · rfl

theorem kindOf_answer (vmid : Nat) :
    (inv.kindOf api now vmid s).1.1 = (inv.known api now s).bind (kindIn inv.node vmid) := by
  show (inv.known api now s).bind (kindIn (inv.resources api now s).1.2.node vmid) = _
  rw [node_resources]

end Inventory

end GuestVault
