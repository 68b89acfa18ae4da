/-!
# Cancelling

One token stands for a whole job. Work that can be aborted registers a hook; cancelling sets the
flag and then takes the hooks that are there and runs them. These are separate steps, and others
may act in between, so every operation is given by its atomic steps: a hook that is registered
after the flag is set runs at once, and one that is there when the hooks are taken runs then.
-/

namespace GuestVault

/-- The flag of a job, and the hooks that wait for it, oldest first. -/
structure CancelToken (α : Type) where
  cancelled : Bool := false
  nextId : Nat := 0
  hooks : List (Nat × α) := []
deriving Repr

namespace CancelToken

variable {α : Type}

/-! ## Atomic steps -/

/-- Takes a fresh id for a hook. -/
def allocate (t : CancelToken α) : Nat × CancelToken α :=
  (t.nextId, { t with nextId := t.nextId + 1 })

/-- Adds a hook under its id. -/
def push (t : CancelToken α) (id : Nat) (hook : α) : CancelToken α :=
  { t with hooks := t.hooks ++ [(id, hook)] }

/-- Attaches a hook under its id; if the flag is set, the hook runs instead. -/
def attach (t : CancelToken α) (id : Nat) (hook : α) : List α × CancelToken α :=
  if t.cancelled then ([hook], t) else ([], t.push id hook)

/-- Sets the flag; tells whether it was set before. -/
def raise (t : CancelToken α) : Bool × CancelToken α :=
  (t.cancelled, { t with cancelled := true })

/-- Takes all hooks away, to run them. -/
def takeHooks (t : CancelToken α) : List α × CancelToken α :=
  (t.hooks.map Prod.snd, { t with hooks := [] })

/-- Drops the guard of a hook. -/
def detach (t : CancelToken α) (id : Nat) : CancelToken α :=
  { t with hooks := t.hooks.filter (·.1 ≠ id) }

/-! ## Whole operations -/

/-- Registers a hook; gives its id and the hooks that ran. -/
def register (t : CancelToken α) (hook : α) : Nat × List α × CancelToken α :=
  let (id, t) := t.allocate
  (id, t.attach id hook)

/-- Cancels; gives the hooks that ran. Only the first time counts. -/
def cancel (t : CancelToken α) : List α × CancelToken α :=
  match t.raise with
  | (true, t) => ([], t)
  | (false, t) => t.takeHooks

/-- The short description of a token. -/
def summary (t : CancelToken α) : String :=
  "CancelToken \x7b cancelled: " ++ toString t.cancelled ++ " \x7d"

end CancelToken

end GuestVault
