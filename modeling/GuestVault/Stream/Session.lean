import GuestVault.Stream.Handle

/-!
# Sessions with a stream

The steps that the owner of a `StreamHandle` can take, and what each of them answers. After a
handle was collected or dropped it is gone, and only the token of its work can still be cancelled.
-/

namespace GuestVault

/-- One step. -/
inductive StreamStep where
  | read (n : Nat)
  | readToEnd
  | close
  | abort
  | finalize
  | collect
  | drop
  | cancel
deriving Repr, DecidableEq

/-- What a step answers. -/
inductive StreamAnswer where
  | read (result : Except IoError Bytes)
  | readToEnd (result : Except IoError Unit) (data : Bytes)
  | done (result : Except Error Unit)
  | collected (result : Except Error Output)
  | nothing
  /-- There is no handle any more. -/
  | gone
deriving Repr

/-- A handle with the count of runs of its cancel hook. -/
structure StreamSession where
  handle : StreamHandle
  gone : Bool := false
  /-- A hook waits for the cancellation. -/
  hooked : Bool := false
  hookRuns : Nat := 0
deriving Repr

namespace StreamSession

/-- The session after its handle has ended; the hook belongs to the handle. -/
def leave (s : StreamSession) (h : StreamHandle) : StreamSession :=
  { s with handle := h, gone := true, hooked := false }

/-- Takes one step. -/
def step (s : StreamSession) (action : StreamStep) : StreamAnswer × StreamSession :=
  if action = .cancel then
    let runs := if s.hooked && !s.handle.cancelled then 1 else 0
    (.nothing, { s with handle := s.handle.cancel, hookRuns := s.hookRuns + runs })
  else if s.gone then (.gone, s)
  else
    match action with
    | .read n =>
      let (result, handle) := s.handle.read n
      (.read result, { s with handle })
    | .readToEnd =>
      let (result, data, handle) := GuestVault.readToEnd s.handle
      (.readToEnd result data, { s with handle })
    | .close =>
      let (result, handle) := s.handle.close
      (.done result, { s with handle })
    | .abort =>
      let (result, handle) := s.handle.abort
      (.done result, { s with handle })
    | .finalize =>
      let (result, handle) := s.handle.finalize
      (.done result, { s with handle })
    | .collect =>
      let (result, handle) := s.handle.collect
      (.collected result, s.leave handle)
    | .drop => (.nothing, s.leave s.handle.drop)
    | .cancel => (.nothing, s)

end StreamSession

end GuestVault
