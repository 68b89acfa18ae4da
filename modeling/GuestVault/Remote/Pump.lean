import GuestVault.Stream.Reader

/-!
# The pump of a remote command

A remote command delivers two streams over one connection, and neither may fill up while the other
is waited for. The pump reads the output, and whenever that would have to wait it moves all pending
diagnostic output into a buffer; only when there is none either does it park until the connection
has more.
-/

namespace GuestVault

/-- One thing that a pump does to its connection. -/
inductive PumpEvent where
  /-- The output was read. -/
  | output (result : Except IoError Bytes)
  /-- Pending diagnostic output was moved, and whether its end has been seen by now. -/
  | drained (result : Except IoError Nat) (ended : Bool)
  /-- The connection was waited for. -/
  | parked
deriving Repr

/-- Whether the event is a wait. -/
def PumpEvent.isPark : PumpEvent → Bool
  | .parked => true
  | _ => false

/-- Both streams of a remote command, and what has been moved so far. -/
structure Pump where
  stdout : Script
  stderr : Script
  /-- Diagnostic output that was moved and not yet handed out. -/
  diagnostic : Bytes := []
  stderrEnded : Bool := false
  /-- The command has been waited for. -/
  finished : Bool := false
  /-- What was done so far, the latest last. -/
  events : List PumpEvent := []
  /-- How each wait for the connection ends, by its number; the first one has the number one. -/
  parkResult : Nat → Except IoError Unit := fun _ => .ok ()

namespace Pump

/-- Adds to what was done. -/
def note (event : PumpEvent) (p : Pump) : Pump :=
  { p with events := p.events ++ [event] }

/-- How often the connection was waited for. -/
def parks (p : Pump) : Nat :=
  p.events.countP PumpEvent.isPark

/-- Waits until the connection may have more. A wait that fails says nothing about later ones. -/
def park (p : Pump) : Except IoError Unit × Pump :=
  let p := p.note .parked
  (p.parkResult p.parks, p)

/-- What a stream delivers without waiting: whether it came to its end, the bytes, and the stream
after it. Waiting is no error here. -/
def pending : Script → Except IoError Bool × Bytes × Script
  | [] => (.ok true, [], [])
  | .data [] :: r => (.ok true, [], r)
  | .data (b :: bs) :: r =>
    let (ended, more, rest) := pending r
    (ended, b :: bs ++ more, rest)
  | .fail e :: r => if e.isWouldBlock then (.ok false, [], r) else (.error e, [], r)

/-- Moves all pending diagnostic output into the buffer; gives the number of bytes moved. -/
def drain (p : Pump) : Except IoError Nat × Pump :=
  let (result, p) :=
    if p.stderrEnded then (.ok 0, p)
    else
      match pending p.stderr with
      | (.ok ended, moved, stderr) =>
        (.ok moved.length,
          { p with stderr, diagnostic := p.diagnostic ++ moved, stderrEnded := ended })
      | (.error e, moved, stderr) =>
        (.error e, { p with stderr, diagnostic := p.diagnostic ++ moved })
  (result, p.note (.drained result p.stderrEnded))

/-- Drains, and parks when nothing was moved; once the diagnostic output has ended, parks only if
it is asked to wait `atEnd` as well. -/
def drainOrPark (atEnd : Bool) (p : Pump) : Except IoError Unit × Pump :=
  match p.drain with
  | (.error e, p) => (.error e, p)
  | (.ok moved, p) => if moved = 0 ∧ (atEnd ∨ ¬ p.stderrEnded) then p.park else (.ok (), p)

/-- Drains until the diagnostic output ends, at most `fuel` times. -/
def drainToEndOn : Nat → Pump → Except IoError Unit × Pump
  | 0, p => (.ok (), p)
  | fuel + 1, p =>
    if p.stderrEnded then (.ok (), p)
    else
      match p.drainOrPark false with
      | (.error e, p) => (.error e, p)
      | (.ok (), p) => drainToEndOn fuel p

/-- Drains until the diagnostic output ends. Every drain that does not reach the end uses up an
item of the stream. -/
def drainToEnd (p : Pump) : Except IoError Unit × Pump :=
  drainToEndOn (p.stderr.length + 2) p

/-- Reads at most `n` bytes of the output if it can do so without waiting. -/
def readOutput (n : Nat) (p : Pump) : Except IoError Bytes × Pump :=
  let (result, stdout) := p.stdout.read n
  (result, { p with stdout }.note (.output result))

/-- Reads at most `n` bytes of the output, at most `fuel` times. -/
def readOn : Nat → Nat → Pump → Except IoError Bytes × Pump
  | 0, _, p => (.ok [], p)
  | fuel + 1, n, p =>
    match p.readOutput n with
    | (.ok bytes, p) => (.ok bytes, p)
    | (.error e, p) =>
      if e.isWouldBlock then
        match p.drainOrPark true with
        | (.error e, p) => (.error e, p)
        | (.ok (), p) => readOn fuel n p
      else (.error e, p)

/-- Reads at most `n` bytes of the output, moving diagnostic output while it has to wait. Every
wait uses up an item of the stream. -/
def read (n : Nat) (p : Pump) : Except IoError Bytes × Pump :=
  if n = 0 then (.ok [], p) else readOn (p.stdout.length + 1) n p

/-- The command has been waited for, so the buffer is complete. -/
def finish (p : Pump) : Pump :=
  { p with finished := true }

/-- Hands out at most `n` bytes of the buffer; to be asked only of a finished pump. -/
def readDiagnostic (n : Nat) (p : Pump) : Bytes × Pump :=
  (p.diagnostic.take n, { p with diagnostic := p.diagnostic.drop n })

end Pump

end GuestVault
