import GuestVault.Proofs.Host.Agreement
import GuestVault.Proofs.Store.Listing

/-!
# Jobs on a store that stands still

A job opens each record only when its turn comes. If nothing that is done to the host or the guests
changes what is read from the store (`Untouched`), the records are those of the beginning, and the
replies to them are decided before anything is done: the job carries them out (`run_eq_conductAll`),
up to the first record that cannot be opened (`run_breaks`).
-/

namespace GuestVault

variable {σ κ ρ : Type} [ByteSource ρ]

namespace Correlator

/-- A record, the reply to it, and how many halves wait afterwards. -/
structure Turn (ρ : Type) where
  record : Record ρ
  reply : Reply ρ
  pending : Nat

variable (settings : RestoreSettings)

/-- The turns of a run. -/
def turns (c : Correlator ρ) : List (Record ρ) → List (Turn ρ)
  | [] => []
  | record :: rest =>
    ⟨record, (c.react settings record).1, (c.react settings record).2.pending⟩ ::
      turns (c.react settings record).2 rest

theorem replies_of_turns (c : Correlator ρ) (records : List (Record ρ)) :
    (c.turns settings records).map (·.reply) = (c.transcript settings records).map (·.2) := by
  induction records generalizing c with
  | nil => rfl
  | cons record rest ih => exact congrArg (_ :: ·) (ih _)

end Correlator

namespace Restore

open Correlator

variable (host : Host σ κ) (guest : Guest σ) (settings : RestoreSettings)
  (tree : σ → FileTree) (store : DirectoryStore)

/-- Carries a reply out, with the messages about its record. -/
def play (turn : Turn Script) : StateM σ (List Resolution) := do
  say host { level := .debug, message := "[restore] record " ++ turn.record.pathname }
  let resolved ← turn.reply.enact host guest settings
  sayAll host (resolved.map Resolution.report)
  say host { level := .debug
             message := "[restore] " ++ toString turn.pending ++
               " record(s) waiting for a partner" }
  return resolved

/-- Carries the replies of all turns out, in order. -/
def conduct : List (Turn Script) → StateM σ (List Resolution)
  | [] => pure []
  | turn :: rest => do
    let resolved ← play host guest settings turn
    let more ← conduct rest
    return resolved ++ more

/-- A job on known records. -/
def conductAll (records : List (Record Script)) : StateM σ (List Resolution) := do
  let resolved ← conduct host guest settings (({} : Correlator Script).turns settings records)
  return resolved ++ (← finish host (({} : Correlator Script).after settings records))

/-- What is read from the store. -/
def contents (s : σ) : String → Except Failure (Record Script) :=
  fun name => store.record name (tree s)

/-- Nothing that a restore does changes what is read from the store. -/
structure Untouched : Prop where
  host : ∀ view, Host.Agree (Under fun s => contents tree store s = view) host host
  guest : ∀ view kind vmid,
    Guest.AgreeOn (Under fun s => contents tree store s = view) guest guest kind vmid

variable {host guest settings tree store}

theorem play_keeps (h : Untouched host guest tree store)
    (view : String → Except Failure (Record Script)) (turn : Turn Script) :
    Agree (Under fun s => contents tree store s = view) (play host guest settings turn)
      (play host guest settings turn) := by
  refine .bind ((h.host view).note _ _) fun _ => ?_
  refine .bind (Reply.enact_agree settings (h.host view) turn.reply
    fun _ _ _ kind vmid _ => h.guest view kind vmid) fun resolved => ?_
  refine .bind (sayAll_agree (h.host view) _) fun _ => ?_
  exact .bind ((h.host view).note _ _) fun _ => .pure _

theorem contents_play (settings : RestoreSettings) (h : Untouched host guest tree store)
    (turn : Turn Script) (s : σ) :
    contents tree store (play host guest settings turn s).2 = contents tree store s :=
  (play_keeps h (contents tree store s) turn s s ⟨rfl, rfl⟩).2.2

theorem contents_conduct (settings : RestoreSettings) (h : Untouched host guest tree store)
    (turns : List (Turn Script)) (s : σ) :
    contents tree store (conduct host guest settings turns s).2 = contents tree store s := by
  induction turns generalizing s with
  | nil => rfl
  | cons turn rest ih => exact (ih _).trans (contents_play settings h turn s)

/-- One name: its record is opened, and its turn is played. -/
theorem feedNames_cons {s : σ} {name : String} {record : Record Script} (rest : List String)
    (c : Correlator Script) (hopen : store.record name (tree s) = .ok record) :
    (feedNames host guest settings tree store (name :: rest) c).run s =
      (do
        let resolved ← liftM (play host guest settings
          ⟨record, (c.react settings record).1, (c.react settings record).2.pending⟩)
        let (more, c) ← feedNames host guest settings tree store rest (c.react settings record).2
        return (resolved ++ more, c) : Action σ Failure _).run s := by
  have hget : (get : Action σ Failure σ).run s = (.ok s, s) := rfl
  have hrecord : (Action.ofExcept (inContext "read store record" (store.record name (tree s))) :
      Action σ Failure _).run s = (.ok record, s) := by
    rw [hopen]
    rfl
  conv_lhs => unfold feedNames
  rw [Action.run_bind_of_ok hget, Action.run_bind_of_ok hrecord,
    Action.run_bind_of_ok (Action.run_lift _ _), feed_eq,
    Action.run_bind_of_ok (Action.run_lift _ _)]
  -- what is decided does not matter here
  generalize c.react settings record = reaction
  rw [Action.run_bind_of_ok (Action.run_lift _ _)]
  refine (Action.run_bind_of_ok (Action.run_lift _ _)).trans ?_
  rw [Action.run_bind_of_ok (Action.run_lift (play host guest settings _) s)]
  rfl

/-- **On a store that stands still the names stand for the records of the beginning**: the replies to
these are carried out, and then the other names follow. -/
theorem feedNames_append (h : Untouched host guest tree store) {front rest : List String}
    {records : List (Record Script)} {s s' : σ}
    {result : Except Failure (List Resolution × Correlator Script)}
    (hopen : List.Forall₂ (fun name record => store.record name (tree s) = .ok record) front records)
    (c : Correlator Script)
    (hrest : (feedNames host guest settings tree store rest (c.after settings records)).run
      (conduct host guest settings (c.turns settings records) s).2 = (result, s')) :
    (feedNames host guest settings tree store (front ++ rest) c).run s =
      (result.map fun (more, last) =>
        ((conduct host guest settings (c.turns settings records) s).1 ++ more, last), s') := by
  induction front generalizing records s c with
  | nil =>
    cases hopen
    rw [List.nil_append]
    refine hrest.trans ?_
    cases result <;> rfl
  | cons name front ih =>
    obtain _ | ⟨hrecord, hfront⟩ := hopen
    rename_i record records
    have hkeep := contents_play settings h
      ⟨record, (c.react settings record).1, (c.react settings record).2.pending⟩ s
    rw [List.cons_append, feedNames_cons _ c hrecord, turns]
    rw [turns, Correlator.after] at hrest
    generalize c.react settings record = reaction at *
    have hfront' := hfront.imp fun name record hrecord => (congrFun hkeep name).trans hrecord
    have hfed := ih hfront' reaction.2 hrest
    rw [Action.run_bind_of_ok (Action.run_lift _ s)]
    cases result with
    | error f =>
      rw [Action.run_bind_of_error hfed]
      rfl
    | ok fed =>
      rw [Action.run_bind_of_ok hfed]
      show (Except.ok (_ ++ (_ ++ fed.1), fed.2), s') = (Except.ok (_ ++ _ ++ fed.1, fed.2), s')
      rw [List.append_assoc]
      rfl

theorem feedNames_eq (h : Untouched host guest tree store) {names : List String}
    {records : List (Record Script)} {s : σ}
    (hopen : List.Forall₂ (fun name record => store.record name (tree s) = .ok record) names records)
    (c : Correlator Script) :
    (feedNames host guest settings tree store names c).run s =
      (.ok ((conduct host guest settings (c.turns settings records) s).1,
          c.after settings records),
        (conduct host guest settings (c.turns settings records) s).2) := by
  have hnone : (feedNames host guest settings tree store [] (c.after settings records)).run
      (conduct host guest settings (c.turns settings records) s).2 =
        (.ok ([], c.after settings records),
          (conduct host guest settings (c.turns settings records) s).2) := rfl
  have hfed := feedNames_append h hopen c hnone
  rw [List.append_nil] at hfed
  refine hfed.trans ?_
  show (Except.ok (_ ++ [], _), _) = _
  rw [List.append_nil]

/-- **The first record that cannot be opened ends the job**, when the replies to those before it have
been carried out. -/
theorem feedNames_breaks (h : Untouched host guest tree store) {front rest : List String}
    {name : String} {f : Failure} {records : List (Record Script)} {s : σ}
    (hopen : List.Forall₂ (fun name record => store.record name (tree s) = .ok record) front records)
    (hbad : store.record name (tree s) = .error f) (c : Correlator Script) :
    (feedNames host guest settings tree store (front ++ name :: rest) c).run s =
      (.error (.context "read store record" f),
        (conduct host guest settings (c.turns settings records) s).2) := by
  have hkeep := contents_conduct settings h (c.turns settings records) s
  have hlast : (feedNames host guest settings tree store (name :: rest)
      (c.after settings records)).run (conduct host guest settings (c.turns settings records) s).2 =
        (.error (.context "read store record" f),
          (conduct host guest settings (c.turns settings records) s).2) := by
    generalize (conduct host guest settings (c.turns settings records) s).2 = s' at hkeep ⊢
    have hbad' : store.record name (tree s') = .error f := (congrFun hkeep name).trans hbad
    have hget : (get : Action σ Failure σ).run s' = (.ok s', s') := rfl
    have hrecord : (Action.ofExcept (inContext "read store record"
        (store.record name (tree s'))) : Action σ Failure _).run s' =
          (.error (.context "read store record" f), s') := by
      rw [Action.run_ofExcept, hbad']
      rfl
    unfold feedNames
    rw [Action.run_bind_of_ok hget, Action.run_bind_of_error hrecord]
  exact feedNames_append h hopen c hlast

theorem run_of_names {names : List String} {s : σ} (hnames : store.names (tree s) = .ok names) :
    (run host guest settings tree store).run s =
      (do
        let (resolved, c) ← feedNames host guest settings tree store names {}
        return resolved ++ (← finish host c) : Action σ Failure _).run s := by
  have hget : (get : Action σ Failure σ).run s = (.ok s, s) := rfl
  have hlisted : (Action.ofExcept (store.names (tree s)) : Action σ Failure _).run s =
      (.ok names, s) := by
    rw [Action.run_ofExcept, hnames]
  unfold run
  rw [Action.run_bind_of_ok hget, Action.run_bind_of_ok hlisted]

/-- **A job on a store that stands still carries out replies that are decided beforehand.** -/
theorem run_eq_conductAll (h : Untouched host guest tree store) {names : List String}
    {records : List (Record Script)} {s : σ} (hnames : store.names (tree s) = .ok names)
    (hopen : List.Forall₂ (fun name record => store.record name (tree s) = .ok record) names
      records) :
    (run host guest settings tree store).run s =
      (.ok (conductAll host guest settings records s).1,
        (conductAll host guest settings records s).2) := by
  rw [run_of_names hnames, Action.run_bind_of_ok (feedNames_eq h hopen {})]
  rfl

/-- The first record that cannot be opened ends such a job. -/
theorem run_breaks (h : Untouched host guest tree store) {front rest : List String} {name : String}
    {f : Failure} {records : List (Record Script)} {s : σ}
    (hnames : store.names (tree s) = .ok (front ++ name :: rest))
    (hopen : List.Forall₂ (fun name record => store.record name (tree s) = .ok record) front records)
    (hbad : store.record name (tree s) = .error f) :
    (run host guest settings tree store).run s =
      (.error (.context "read store record" f),
        (conduct host guest settings (({} : Correlator Script).turns settings records) s).2) := by
  rw [run_of_names hnames, Action.run_bind_of_error (feedNames_breaks h hopen hbad {})]

end Restore

end GuestVault
