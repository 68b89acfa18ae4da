import GuestVault.Cancel

/-!
# Threads that share a token

Any number of threads act on one token, each through a clone of its own; all clones share the flag,
the counter of ids and the hooks. A thread is known here by the operation that it is in, and by how
far it has come: a registration, with the guard that it leaves, or a cancel. The hook of a
registration goes by the registration's name. What a thread does in one step, an `Act`, cannot be
divided; between any two steps of one thread others may act.

The hooks are behind a lock, but the flag is not: it may be set between the look of a registration and
the addition of its hook. Hooks run outside the lock, one after the other. What runs in a hook may use
the token as well; to the others that is one more thread.
-/

namespace GuestVault.CancelToken

/-- How far a registration has come. -/
inductive Stage where
  | unborn
  /-- It has its id. -/
  | numbered (id : Nat)
  /-- It holds the lock, and has seen that the flag is not set. -/
  | looked (id : Nat)
  /-- It has seen the flag and let go of the lock; its hook is still to run. -/
  | due (id : Nat)
  /-- It is complete, and its guard is there. -/
  | guarded (id : Nat)
  /-- Its guard was dropped. -/
  | dropped
deriving Repr, DecidableEq

/-- How far a cancel has come. -/
inductive Canceller where
  /-- It is complete: the flag had been set before. -/
  | late
  /-- It has set the flag. -/
  | raised
  /-- It has taken the hooks, and these are still to run. It is complete when there are none. -/
  | running (hooks : List Nat)
deriving Repr, DecidableEq

/-- A step of a thread. -/
inductive Act where
  /-- A registration begins, and takes its id. -/
  | number (name : Nat)
  /-- It takes the lock and looks at the flag; if that is set, it lets go of the lock. -/
  | look (name : Nat)
  /-- It adds its hook and lets go of the lock. -/
  | push (name : Nat)
  /-- It runs its hook. -/
  | runOwn (name : Nat)
  /-- The guard of a registration is dropped, which takes the lock for a moment. -/
  | drop (name : Nat)
  /-- A cancel begins, and sets the flag. -/
  | raise
  /-- It takes the hooks, and the lock for a moment. -/
  | take (canceller : Nat)
  /-- It runs the next one of its hooks. -/
  | runNext (canceller : Nat)
deriving Repr, DecidableEq

/-- A token and all that act on it. -/
structure World where
  token : CancelToken Nat := {}
  /-- A registration holds the lock. -/
  locked : Bool := false
  stage : Nat → Stage := fun _ => .unborn
  /-- The cancels, in the order in which they began. -/
  cancellers : List Canceller := []
  /-- The hooks that ran, in order. -/
  ran : List Nat := []

namespace World

/-- The world in which a registration has come to the given stage. -/
def advance (w : World) (name : Nat) (stage : Stage) : World :=
  { w with stage := fun name' => if name' = name then stage else w.stage name' }

/-- The world after a step, if the step is possible. -/
def step (w : World) : Act → Option World
  | .number name =>
    match w.stage name with
    | .unborn =>
      let (id, token) := w.token.allocate
      some { w.advance name (.numbered id) with token }
    | _ => none
  | .look name =>
    match w.stage name with
    | .numbered id =>
      if w.locked then none
      else if w.token.cancelled then some (w.advance name (.due id))
      else some { w.advance name (.looked id) with locked := true }
    | _ => none
  | .push name =>
    match w.stage name with
    | .looked id =>
      some { w.advance name (.guarded id) with token := w.token.push id name, locked := false }
    | _ => none
  | .runOwn name =>
    match w.stage name with
    | .due id => some { w.advance name (.guarded id) with ran := w.ran ++ [name] }
    | _ => none
  | .drop name =>
    match w.stage name with
    | .guarded id =>
      if w.locked then none
      else some { w.advance name .dropped with token := w.token.detach id }
    | _ => none
  | .raise =>
    let (before, token) := w.token.raise
    some { w with token, cancellers := w.cancellers ++ [if before then .late else .raised] }
  | .take canceller =>
    match w.cancellers[canceller]? with
    | some .raised =>
      if w.locked then none
      else
        let (hooks, token) := w.token.takeHooks
        some { w with token, cancellers := w.cancellers.set canceller (.running hooks) }
    | _ => none
  | .runNext canceller =>
    match w.cancellers[canceller]? with
    | some (.running (name :: hooks)) =>
      some { w with
        cancellers := w.cancellers.set canceller (.running hooks), ran := w.ran ++ [name] }
    | _ => none

/-- The world after some steps, if they are possible one after the other. -/
def run (w : World) (acts : List Act) : Option World :=
  acts.foldlM step w

end World

end GuestVault.CancelToken
