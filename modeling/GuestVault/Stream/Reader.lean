import GuestVault.Archive.Compression
import GuestVault.Error

/-!
# Readers

Something to read bytes from, one piece at a time. A `Script` is a reader whose future is known:
the pieces it will deliver and the errors in between. Every reader bounds the number of reads that
it takes to come to its end, so reading to the end is a total function.
-/

namespace GuestVault

/-- What one read will find. -/
inductive ReadItem where
  | data (bytes : Bytes)
  | fail (error : IoError)
deriving Repr, DecidableEq

/-- The pieces and errors that a reader will deliver; after the last one it is at its end. -/
abbrev Script := List ReadItem

/-- A reader, and a bound on the reads of at least one byte that it takes to exhaust it. -/
class ByteSource (ρ : Type) where
  /-- Reads at most `n` bytes; none at all means the end. -/
  read : (n : Nat) → ρ → Except IoError Bytes × ρ
  bound : ρ → Nat

namespace Script

/-- The script of a reader that holds the given bytes. -/
def ofBytes (bytes : Bytes) : Script := [.data bytes]

/-- Reads at most `n` bytes of the first piece and leaves the rest of it for later; an error is
delivered once. -/
def read (n : Nat) : Script → Except IoError Bytes × Script
  | [] => (.ok [], [])
  | .fail e :: r => (.error e, r)
  | .data bytes :: r =>
    if bytes.length ≤ n then (.ok bytes, r) else (.ok (bytes.take n), .data (bytes.drop n) :: r)

/-- Reads of one byte each that exhaust a script. -/
def bound : Script → Nat
  | [] => 1
  | .fail _ :: r => bound r + 1
  | .data bytes :: r => bytes.length + bound r + 1

instance : ByteSource Script where
  read := read
  bound := bound

end Script

/-! ## Reading to the end -/

/-- The size of the pieces in which data is moved. -/
def pieceSize : Nat := 8192

section
variable {ρ : Type} [ByteSource ρ]

/-- Reads until the end or the first error that is not a mere interruption, at most `fuel`
times. The bytes that came before an error are kept. -/
def readOn : Nat → ρ → Except IoError Unit × Bytes × ρ
  | 0, s => (.ok (), [], s)
  | fuel + 1, s =>
    match ByteSource.read pieceSize s with
    | (.ok [], s) => (.ok (), [], s)
    | (.ok (b :: bs), s) =>
      let (result, more, s) := readOn fuel s
      (result, b :: bs ++ more, s)
    | (.error e, s) => if e.isInterrupted then readOn fuel s else (.error e, [], s)

/-- Reads to the end. -/
def readToEnd (s : ρ) : Except IoError Unit × Bytes × ρ :=
  readOn (ByteSource.bound s) s

/-- Reads until `n` more bytes are there, the end is reached, or a read fails; interruptions are
ignored. -/
def readUpToOn : Nat → Nat → ρ → Except IoError Bytes × ρ
  | 0, _, s => (.ok [], s)
  | fuel + 1, n, s =>
    if n = 0 then (.ok [], s)
    else
      match ByteSource.read n s with
      | (.ok [], s) => (.ok [], s)
      | (.ok (b :: bs), s) =>
        match readUpToOn fuel (n - (bs.length + 1)) s with
        | (.ok more, s) => (.ok (b :: bs ++ more), s)
        | (.error e, s) => (.error e, s)
      | (.error e, s) => if e.isInterrupted then readUpToOn fuel n s else (.error e, s)

/-- Reads `n` bytes, or fewer if the end comes first. -/
def readUpTo (n : Nat) (s : ρ) : Except IoError Bytes × ρ :=
  readUpToOn (ByteSource.bound s) n s

/-- Reads `n` bytes; an earlier end is an error. -/
def readExact (n : Nat) (s : ρ) : Except IoError Bytes × ρ :=
  match readUpTo n s with
  | (.ok data, s) =>
    if data.length < n then (.error (.custom .unexpectedEof "failed to fill whole buffer"), s)
    else (.ok data, s)
  | (.error e, s) => (.error e, s)

end

end GuestVault
