import GuestVault.Record

/-!
# Scripted stores

A store whose behaviour is known beforehand, one entry for each record that it will be asked to
take; after the last entry it stores faithfully. It keeps a list of all that it was asked to take.
-/

namespace GuestVault

/-- What a scripted store does with one record. -/
inductive SinkReply where
  | store
  /-- Reads at most so many bytes, and fails. -/
  | fail (after : Nat)
  /-- Stores the record, but claims another length. -/
  | acknowledge (delta : Int)
deriving Repr, DecidableEq

/-- The answers to come and the records so far. A record's data is unknown where the store was told
to fail. -/
structure ScriptedSink where
  replies : List SinkReply := []
  puts : List (String × Option Bytes) := []
deriving Repr

namespace ScriptedSink

/-- Notes a record. -/
def noted (s : ScriptedSink) (pathname : String) (data : Option Bytes) : ScriptedSink :=
  { replies := s.replies.drop 1, puts := s.puts ++ [(pathname, data)] }

/-- Takes one record. -/
def put {ρ : Type} [ByteSource ρ] (pathname : String) (reader : ρ) (s : ScriptedSink) :
    (Except Failure Nat × ρ) × ScriptedSink :=
  match s.replies with
  | .fail n :: _ =>
    let result := match readUpTo n reader with
      | (.ok _, reader) => (.error (.text "store is full"), reader)
      | (.error e, reader) => (.error (.io e), reader)
    (result, s.noted pathname none)
  | replies =>
    let delta : Int := match replies with
      | .acknowledge d :: _ => d
      | _ => 0
    match readToEnd reader with
    | (.ok (), data, reader) =>
      ((.ok ((data.length : Int) + delta).toNat, reader), s.noted pathname (some data))
    | (.error e, data, reader) => ((.error (.io e), reader), s.noted pathname (some data))

/-- The store as a sink. -/
def sink : RecordSink ScriptedSink where
  put := put

end ScriptedSink

/-- The same sink as a part of a larger state. -/
def RecordSink.within {σ τ : Type} (get : τ → σ) (set : σ → τ → τ) (sink : RecordSink σ) :
    RecordSink τ where
  put pathname reader := fun t =>
    let (result, s) := sink.put pathname reader (get t)
    (result, set s t)

end GuestVault
