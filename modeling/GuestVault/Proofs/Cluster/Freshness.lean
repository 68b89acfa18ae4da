import GuestVault.Proofs.Cluster.Inventory

/-!
# Freshness of an inventory

An inventory remembers what the cluster said. Whether it may be used again is told by the history
alone: it is the last thing that the cluster said, or tried to say, of its resources, it is not empty,
and it is not too old (`Usable`).

1. `resourcesBetween_watched`: what one look at the resources asks for and remembers.
2. `Tracks`: the memory of an inventory and the history say the same, as far as the clock lets them.
   An old answer that could not be renewed stays in the memory; it is too old for ever.
3. `Tracks.ask`: one question keeps that, and is answered as the history demands.
4. `answers_fresh`: so is every question of a session.
-/

namespace GuestVault

/-! ## Questions -/

/-- What the cluster was asked for, and what it said. -/
inductive Inquiry where
  | resources (response : Except Failure (List Resource))
  | members (pool : String) (response : Except Failure (List Resource))

/-- The same cluster; all that it is asked for is written down. -/
def ClusterApi.watched {σ : Type} (api : ClusterApi σ) : ClusterApi (σ × List Inquiry) where
  resources := fun t =>
    let (response, s) := api.resources t.1
    (response, s, t.2 ++ [.resources response])
  poolMembers pool := fun t =>
    let (response, s) := api.poolMembers pool t.1
    (response, s, t.2 ++ [.members pool response])
  version := api.version.within Prod.fst fun s t => (s, t.2)

namespace Inventory

/-- A question to an inventory. -/
inductive Query where
  | listAll
  | kindOf (vmid : Nat)
  | listPool (pool : String)

/-- What a question is answered. -/
inductive Answer where
  | machines (result : Except Failure (List Machine))
  | kind (result : Except Failure Kind)

/-- The question is about all the resources of the cluster. -/
def Query.IsGeneral : Query → Prop
  | .listPool _ => False
  | _ => True

/-- The answer that some resources give. -/
def Query.reply (node : Option String) (given : Except Failure (List Resource)) : Query → Answer
  | .listAll | .listPool _ => .machines (given.map (machines node))
  | .kindOf vmid => .kind (given.bind (kindIn node vmid))

/-- A question, the moment when it is asked, and the moment when the cluster has answered, if it is
asked for anything. -/
structure Call where
  query : Query
  asked : Nat
  answered : Nat

variable {σ : Type}

/-- Answers a question. -/
def ask (api : ClusterApi σ) (inv : Inventory) (call : Call) : StateM σ (Answer × Inventory) := do
  match call.query with
  | .listAll =>
    let (result, inv) ← inv.listAllBetween api call.asked call.answered
    return (.machines result, inv)
  | .kindOf vmid =>
    let (result, inv) ← inv.kindOfBetween api call.asked call.answered vmid
    return (.kind result, inv)
  | .listPool pool =>
    let result ← (inv.listPool api pool).run
    return (.machines result, inv)

/-- The answers to a series of questions. -/
def answers (api : ClusterApi σ) : Inventory → List Call → σ → List Answer
  | _, [], _ => []
  | inv, call :: calls, s =>
    (inv.ask api call s).1.1 :: answers api (inv.ask api call s).1.2 calls (inv.ask api call s).2

/-- A question with its answer, and all that the cluster was asked for meanwhile. -/
structure Entry where
  call : Call
  inquiries : List Inquiry
  answer : Answer

/-- The entry of a question that is asked in a given state. -/
def entry (api : ClusterApi σ) (inv : Inventory) (call : Call) (s : σ) : Entry where
  call
  inquiries := (inv.ask api.watched call (s, [])).2.2
  answer := (inv.ask api.watched call (s, [])).1.1

/-- The history of a series of questions. -/
def history (api : ClusterApi σ) : Inventory → List Call → σ → List Entry
  | _, [], _ => []
  | inv, call :: calls, s =>
    inv.entry api call s ::
      history api (inv.ask api.watched call (s, [])).1.2 calls (inv.ask api.watched call (s, [])).2.1

/-! ## What a history demands -/

/-- These resources may be used at the given time: the cluster has told them, they are not empty, they
are not too old, and the cluster was not asked for its resources since. -/
def Usable (lifetime : Nat) (earlier : List Entry) (now : Nat) (resources : List Resource) : Prop :=
  ∃ before e after, earlier = before ++ e :: after ∧
    e.inquiries = [.resources (.ok resources)] ∧ resources ≠ [] ∧
    now ≤ e.call.answered + lifetime ∧
    ∀ later ∈ after, ∀ response, .resources response ∉ later.inquiries

/-- A question that is answered from what the earlier ones allow. -/
inductive Fresh (lifetime : Nat) (node : Option String) (earlier : List Entry) (e : Entry) : Prop where
  /-- From usable resources, and the cluster is left alone. -/
  | remembered (resources : List Resource) (hquery : e.call.query.IsGeneral)
      (husable : Usable lifetime earlier e.call.asked resources) (hinquiries : e.inquiries = [])
      (hanswer : e.answer = e.call.query.reply node (.ok resources))
  /-- From what the cluster says now, be it a failure, because there are no usable resources. -/
  | renewed (response : Except Failure (List Resource)) (hquery : e.call.query.IsGeneral)
      (husable : ∀ resources, ¬ Usable lifetime earlier e.call.asked resources)
      (hinquiries : e.inquiries = [.resources response])
      (hanswer : e.answer = e.call.query.reply node response)
  /-- From what the cluster says now of a pool. -/
  | pool (name : String) (response : Except Failure (List Resource))
      (hquery : e.call.query = .listPool name) (hinquiries : e.inquiries = [.members name response])
      (hanswer : e.answer = e.call.query.reply node response)

/-- The readings of the clock in a series of questions. -/
def readings (calls : List Call) : List Nat :=
  calls.flatMap fun call => [call.asked, call.answered]

/-! ## One question -/

section Ask

variable (api : ClusterApi σ) (inv : Inventory) (s : σ)

/-- The memory after the cluster was asked for its resources. -/
def renew (answered : Nat) : Except Failure (List Resource) → Inventory
  | .ok resources => inv.remember answered resources
  | .error _ => inv

theorem resourcesBetween_of_cached {asked : Nat} {resources : List Resource}
    (h : inv.cached? asked = some resources) (answered : Nat) :
    inv.resourcesBetween api asked answered s = ((.ok resources, inv), s) := by
  unfold resourcesBetween
  rw [h]
  rfl

theorem resourcesBetween_of_uncached {asked : Nat} (h : inv.cached? asked = none) (answered : Nat) :
    inv.resourcesBetween api asked answered s =
      (((api.resources s).1, inv.renew answered (api.resources s).1), (api.resources s).2) := by
  unfold resourcesBetween
  rw [h]
  simp only [bind, StateT.bind, ExceptT.run]
  rcases api.resources s with ⟨_ | fresh, s'⟩
  · rfl
  · rfl

theorem listAllBetween_eq (asked answered : Nat) :
    inv.listAllBetween api asked answered s =
      (((inv.resourcesBetween api asked answered s).1.1.map (machines inv.node),
        (inv.resourcesBetween api asked answered s).1.2),
        (inv.resourcesBetween api asked answered s).2) := by
  show (((inv.resourcesBetween api asked answered s).1.1.map
    (machines (inv.resourcesBetween api asked answered s).1.2.node),
      (inv.resourcesBetween api asked answered s).1.2),
      (inv.resourcesBetween api asked answered s).2) = _
  rw [node_resourcesBetween]

theorem kindOfBetween_eq (asked answered vmid : Nat) :
    inv.kindOfBetween api asked answered vmid s =
      (((inv.resourcesBetween api asked answered s).1.1.bind (kindIn inv.node vmid),
        (inv.resourcesBetween api asked answered s).1.2),
        (inv.resourcesBetween api asked answered s).2) := by
  show (((inv.resourcesBetween api asked answered s).1.1.bind
    (kindIn (inv.resourcesBetween api asked answered s).1.2.node vmid),
      (inv.resourcesBetween api asked answered s).1.2),
      (inv.resourcesBetween api asked answered s).2) = _
  rw [node_resourcesBetween]

theorem ask_of_general {call : Call} (h : call.query.IsGeneral) :
    inv.ask api call s =
      ((call.query.reply inv.node (inv.resourcesBetween api call.asked call.answered s).1.1,
        (inv.resourcesBetween api call.asked call.answered s).1.2),
        (inv.resourcesBetween api call.asked call.answered s).2) := by
  obtain ⟨query, asked, answered⟩ := call
  cases query with
  | listAll =>
    show ((Answer.machines (inv.listAllBetween api asked answered s).1.1, _), _) = _
    rw [listAllBetween_eq]
    rfl
  | kindOf vmid =>
    show ((Answer.kind (inv.kindOfBetween api asked answered vmid s).1.1, _), _) = _
    rw [kindOfBetween_eq]
    rfl
  | listPool pool => exact h.elim

theorem ask_of_pool (pool : String) (asked answered : Nat) :
    inv.ask api ⟨.listPool pool, asked, answered⟩ s =
      ((Query.reply inv.node (api.poolMembers pool s).1 (.listPool pool), inv),
        (api.poolMembers pool s).2) := by
  show ((Answer.machines (inv.listPool api pool s).1, inv), (inv.listPool api pool s).2) = _
  rw [listPool_answer]
  unfold listPool
  simp only [bind, ExceptT.bind, ExceptT.mk, StateT.bind]
  rcases api.poolMembers pool s with ⟨_ | members, s'⟩
  · rfl
  · rfl

/-- Watching the cluster changes nothing. -/
theorem ask_watched (call : Call) (log : List Inquiry) :
    (inv.ask api.watched call (s, log)).1 = (inv.ask api call s).1 ∧
      (inv.ask api.watched call (s, log)).2.1 = (inv.ask api call s).2 := by
  by_cases h : call.query.IsGeneral
  · rw [ask_of_general _ _ _ h, ask_of_general _ _ _ h]
    cases hcached : inv.cached? call.asked with
    | some resources =>
      rw [resourcesBetween_of_cached _ _ _ hcached, resourcesBetween_of_cached _ _ _ hcached]
      exact ⟨rfl, rfl⟩
    | none =>
      rw [resourcesBetween_of_uncached _ _ _ hcached, resourcesBetween_of_uncached _ _ _ hcached]
      exact ⟨rfl, rfl⟩
  · obtain ⟨query, asked, answered⟩ := call
    cases query with
    | listPool pool =>
      rw [ask_of_pool, ask_of_pool]
      exact ⟨rfl, rfl⟩
    | _ => exact absurd trivial h

theorem map_answer_history (calls : List Call) :
    (history api inv calls s).map (·.answer) = answers api inv calls s := by
  induction calls generalizing inv s with
  | nil => rfl
  | cons call calls ih =>
    obtain ⟨hanswer, hstate⟩ := inv.ask_watched api s call []
    unfold history answers entry
    rw [List.map_cons, ih, hanswer, hstate]

theorem map_call_history (calls : List Call) : (history api inv calls s).map (·.call) = calls := by
  induction calls generalizing inv s with
  | nil => rfl
  | cons call calls ih =>
    rw [history, List.map_cons, ih]
    rfl

end Ask

/-! ## Memory and history -/

variable {lifetime time : Nat} {earlier : List Entry} {inv : Inventory} {e : Entry}
  {resources : List Resource}

/-- The memory of an inventory and its history allow the same resources from some time on. -/
structure Tracks (lifetime : Nat) (earlier : List Entry) (time : Nat) (inv : Inventory) : Prop where
  lifetime_eq : inv.lifetime = lifetime
  cached_iff : ∀ now, time ≤ now → ∀ resources,
    inv.cached? now = some resources ↔ Usable lifetime earlier now resources

theorem tracks_empty (node : Option String) :
    Tracks lifetime [] 0 { node, lifetime } where
  lifetime_eq := rfl
  cached_iff now _ resources := by
    constructor
    · intro h
      cases h
    · rintro ⟨before, e, after, h, -⟩
      simp at h

theorem cached?_eq_none_of_le {asked now : Nat} (h : inv.cached? asked = none) (hle : asked ≤ now) :
    inv.cached? now = none := by
  unfold cached? at h ⊢
  generalize inv.cache = cache at h ⊢
  rcases cache with _ | ⟨since, resources⟩
  · rfl
  · simp only [ite_eq_right_iff, reduceCtorEq, imp_false] at h ⊢
    omega

/-- A question that leaves the resources of the cluster alone changes nothing. -/
theorem usable_concat_of_quiet (h : ∀ response, .resources response ∉ e.inquiries) (now : Nat) :
    Usable lifetime (earlier ++ [e]) now resources ↔ Usable lifetime earlier now resources := by
  constructor
  · rintro ⟨before, told, after, heq, htold, hrest⟩
    rcases List.eq_nil_or_concat after with rfl | ⟨after, last, rfl⟩
    · obtain ⟨-, hlast⟩ := List.append_inj' heq rfl
      obtain rfl : e = told := by simpa using hlast
      exact absurd (by rw [htold]; simp) (h (.ok resources))
    · have hsplit : earlier ++ [e] = (before ++ told :: after) ++ [last] := by simpa using heq
      obtain ⟨hearlier, -⟩ := List.append_inj' hsplit rfl
      exact ⟨before, told, after, hearlier, htold, hrest.1, hrest.2.1,
        fun later hlater => hrest.2.2 later (by simp [hlater])⟩
  · rintro ⟨before, told, after, rfl, htold, hne, hnow, hquiet⟩
    refine ⟨before, told, after ++ [e], by simp, htold, hne, hnow, fun later hlater => ?_⟩
    rcases List.mem_append.mp hlater with hlater | hlater
    · exact hquiet later hlater
    · rw [List.mem_singleton.mp hlater]
      exact h

theorem usable_concat_of_renewed {response : Except Failure (List Resource)}
    (h : e.inquiries = [.resources response]) (now : Nat) :
    Usable lifetime (earlier ++ [e]) now resources ↔
      response = .ok resources ∧ resources ≠ [] ∧ now ≤ e.call.answered + lifetime := by
  constructor
  · rintro ⟨before, told, after, heq, htold, hne, hnow, hquiet⟩
    rcases List.eq_nil_or_concat after with rfl | ⟨after, last, rfl⟩
    · obtain ⟨-, hlast⟩ := List.append_inj' heq rfl
      obtain rfl : e = told := by simpa using hlast
      rw [h] at htold
      exact ⟨by simpa using htold, hne, hnow⟩
    · have hsplit : earlier ++ [e] = (before ++ told :: after) ++ [last] := by simpa using heq
      obtain ⟨-, hlast⟩ := List.append_inj' hsplit rfl
      obtain rfl : e = last := by simpa using hlast
      exact absurd (by rw [h]; simp) (hquiet e (by simp) response)
  · rintro ⟨rfl, hne, hnow⟩
    exact ⟨earlier, e, [], rfl, h, hne, hnow, by simp⟩

theorem Tracks.quiet (h : Tracks lifetime earlier time inv)
    (hquiet : ∀ response, .resources response ∉ e.inquiries) {later : Nat} (hle : time ≤ later) :
    Tracks lifetime (earlier ++ [e]) later inv where
  lifetime_eq := h.lifetime_eq
  cached_iff now hnow resources := by
    rw [usable_concat_of_quiet hquiet, h.cached_iff now (hle.trans hnow)]

/-- The memory is renewed when the cluster has answered. If it failed to, the memory stays, but nothing
in it may be used any more. -/
theorem Tracks.renew (h : Tracks lifetime earlier time inv) {response : Except Failure (List Resource)}
    (hcached : inv.cached? e.call.asked = none) (hle : e.call.asked ≤ e.call.answered)
    (hinquiries : e.inquiries = [.resources response]) :
    Tracks lifetime (earlier ++ [e]) e.call.answered (inv.renew e.call.answered response) := by
  cases response with
  | error f =>
    refine ⟨h.lifetime_eq, fun now hnow resources => ?_⟩
    rw [usable_concat_of_renewed hinquiries]
    show inv.cached? now = some resources ↔ _
    rw [cached?_eq_none_of_le hcached (hle.trans hnow)]
    simp
  | ok fresh =>
    refine ⟨h.lifetime_eq, fun now hnow resources => ?_⟩
    rw [usable_concat_of_renewed hinquiries, ← h.lifetime_eq]
    unfold Inventory.renew cached? remember
    by_cases hempty : fresh = []
    · subst hempty
      simp only [if_true, reduceCtorEq, Except.ok.injEq, false_iff]
      rintro ⟨rfl, hne, -⟩
      exact hne rfl
    · simp only [if_neg hempty, Except.ok.injEq]
      constructor
      · intro hsome
        split_ifs at hsome with hage
        cases hsome
        exact ⟨rfl, hempty, by omega⟩
      · rintro ⟨rfl, -, hage⟩
        rw [if_pos (by omega)]

/-! ## Sessions -/

/-- **One question** is answered as the history demands, and the memory keeps up with the history. -/
theorem Tracks.ask (h : Tracks lifetime earlier time inv) (api : ClusterApi σ) (call : Call) (s : σ)
    (hasked : time ≤ call.asked) (hanswered : call.asked ≤ call.answered) :
    Fresh lifetime inv.node earlier (inv.entry api call s) ∧
      Tracks lifetime (earlier ++ [inv.entry api call s]) call.answered
        (inv.ask api.watched call (s, [])).1.2 ∧
      (inv.ask api.watched call (s, [])).1.2.node = inv.node := by
  by_cases hquery : call.query.IsGeneral
  · have hask := inv.ask_of_general api.watched (s, []) hquery
    cases hcached : inv.cached? call.asked with
    | some resources =>
      rw [resourcesBetween_of_cached _ _ _ hcached] at hask
      have hentry : inv.entry api call s =
          { call, inquiries := [], answer := call.query.reply inv.node (.ok resources) } := by
        unfold entry
        rw [hask]
      rw [hask, hentry]
      refine ⟨.remembered resources hquery ?_ rfl rfl, ?_, rfl⟩
      · exact (h.cached_iff call.asked hasked resources).mp hcached
      · exact h.quiet (by simp) (hasked.trans hanswered)
    | none =>
      rw [resourcesBetween_of_uncached _ _ _ hcached] at hask
      have hentry : inv.entry api call s =
          { call, inquiries := [.resources (api.resources s).1]
            answer := call.query.reply inv.node (api.resources s).1 } := by
        unfold entry
        rw [hask]
        rfl
      rw [hask, hentry]
      refine ⟨.renewed (api.resources s).1 hquery ?_ rfl rfl, ?_, ?_⟩
      · intro resources husable
        rw [← h.cached_iff call.asked hasked, hcached] at husable
        cases husable
      · exact h.renew (e := { call, inquiries := [.resources (api.resources s).1], answer := _ })
          hcached hanswered rfl
      · show (inv.renew call.answered (api.resources s).1).node = inv.node
        cases (api.resources s).1 <;> rfl
  · obtain ⟨query, asked, answered⟩ := call
    cases query with
    | listPool pool =>
      have hask := inv.ask_of_pool api.watched (s, []) pool asked answered
      have hentry : inv.entry api ⟨.listPool pool, asked, answered⟩ s =
          { call := ⟨.listPool pool, asked, answered⟩
            inquiries := [.members pool (api.poolMembers pool s).1]
            answer := Query.reply inv.node (api.poolMembers pool s).1 (.listPool pool) } := by
        unfold entry
        rw [hask]
        rfl
      rw [hask, hentry]
      refine ⟨.pool pool (api.poolMembers pool s).1 rfl rfl rfl, ?_, rfl⟩
      exact h.quiet (by simp) (hasked.trans hanswered)
    | _ => exact absurd trivial hquery

theorem Tracks.history (h : Tracks lifetime earlier time inv) (api : ClusterApi σ)
    {calls : List Call} (hclock : (time :: readings calls).Pairwise (· ≤ ·)) (s : σ) :
    ∀ before e after, Inventory.history api inv calls s = before ++ e :: after →
      Fresh lifetime inv.node (earlier ++ before) e := by
  induction calls generalizing earlier time inv s with
  | nil =>
    intro before e after heq
    cases before <;> cases heq
  | cons call calls ih =>
    intro before e after heq
    have hclock' : (call.answered :: readings calls).Pairwise (· ≤ ·) :=
      (List.pairwise_cons.mp (List.pairwise_cons.mp hclock).2).2
    have hasked : time ≤ call.asked := (List.pairwise_cons.mp hclock).1 _ (by simp [readings])
    have hanswered : call.asked ≤ call.answered :=
      (List.pairwise_cons.mp (List.pairwise_cons.mp hclock).2).1 _ (by simp)
    obtain ⟨hfresh, htracks, hnode⟩ := h.ask api call s hasked hanswered
    rw [Inventory.history] at heq
    cases before with
    | nil =>
      obtain ⟨rfl, -⟩ := List.cons.inj heq
      rw [List.append_nil]
      exact hfresh
    | cons first before =>
      obtain ⟨rfl, hrest⟩ := List.cons.inj heq
      have hlater := ih htracks hclock' _ before e after hrest
      rw [hnode, List.append_assoc] at hlater
      exact hlater

/-- **An inventory never answers from old, failed or empty data.** Whatever the cluster says in whatever
order, failures and empty lists among it, and whatever is asked for, if only the clock never goes back:

* all guests, or the kind of one, are told from the last answer of the cluster, if that was not empty,
  came at most the lifetime ago, and the cluster was not asked for its resources since, and then the
  cluster is left alone. Otherwise, and only then, it is asked, once, and what it says now is used and
  its failure is handed on;
* the guests of a pool are always asked for;
* every question has its entry, and the answers are the same if nobody writes all this down;
* after a question for a pool all goes on as it would without it, for an inventory with any memory. -/
theorem answers_fresh (api : ClusterApi σ) (node : Option String) (lifetime : Nat)
    (calls : List Call) (hclock : (readings calls).Pairwise (· ≤ ·)) (s : σ) :
    (∀ before e after, history api { node, lifetime } calls s = before ++ e :: after →
      Fresh lifetime node before e) ∧
    (history api { node, lifetime } calls s).map (·.call) = calls ∧
    (history api { node, lifetime } calls s).map (·.answer) =
      answers api { node, lifetime } calls s ∧
    ∀ (inv : Inventory) (pool : String) (asked answered : Nat) (t : σ),
      answers api inv (⟨.listPool pool, asked, answered⟩ :: calls) t =
        Query.reply inv.node (api.poolMembers pool t).1 (.listPool pool) ::
          answers api inv calls (api.poolMembers pool t).2 := by
  refine ⟨fun before e after heq => ?_, map_call_history api _ s calls,
    map_answer_history api _ s calls, ?_⟩
  · have hclock' : (0 :: readings calls).Pairwise (· ≤ ·) :=
      List.pairwise_cons.mpr ⟨fun _ _ => Nat.zero_le _, hclock⟩
    exact (tracks_empty node).history api hclock' s before e after heq
  · intro inv pool asked answered t
    rw [answers, ask_of_pool]

/-- A cluster without pools that gives its answers in turn. -/
def answersInTurn : ClusterApi (List (Except Failure (List Resource))) where
  resources
    | [] => (.error (.text "no answer"), [])
    | response :: rest => (response, rest)
  poolMembers _ := fun rest => (.ok [], rest)
  version := fun rest => (.ok "8", rest)

/-- A container is looked up until the answer is just not too old, and after that; then the cluster
fails, and has nothing, and has another guest. -/
def lookups : List Call :=
  [⟨.listAll, 0, 5⟩, ⟨.kindOf 7, 15005, 15005⟩, ⟨.listPool "prod", 15006, 15006⟩,
    ⟨.kindOf 7, 15006, 15010⟩, ⟨.kindOf 7, 15010, 15010⟩, ⟨.kindOf 9, 15010, 15011⟩]

/-- What the cluster answers meanwhile. -/
def responses : List (Except Failure (List Resource)) :=
  [.ok [⟨7, "lxc", "a"⟩], .error (.text "no route"), .ok [], .ok [⟨9, "qemu", "b"⟩]]

theorem lookups_fresh :
    (readings lookups).Pairwise (· ≤ ·) ∧
    (∀ before e after, history answersInTurn {} lookups responses = before ++ e :: after →
      Fresh 15000 none before e) ∧
    (history answersInTurn {} lookups responses).map (·.inquiries) =
      [[.resources (.ok [⟨7, "lxc", "a"⟩])], [], [.members "prod" (.ok [])],
        [.resources (.error (.text "no route"))], [.resources (.ok [])],
        [.resources (.ok [⟨9, "qemu", "b"⟩])]] ∧
    answers answersInTurn {} lookups responses =
      [.machines (.ok [⟨7, .lxc, some "a"⟩]), .kind (.ok .lxc), .machines (.ok []),
        .kind (.error (.text "no route")), .kind (.error (unknownKind 7)), .kind (.ok .qemu)] := by
  have hclock : (readings lookups).Pairwise (· ≤ ·) := by decide
  exact ⟨hclock, (answers_fresh answersInTurn none 15000 lookups hclock responses).1, rfl, rfl⟩

end Inventory

end GuestVault
