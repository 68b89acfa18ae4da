import GuestVault.Failure
import GuestVault.Stream.Reader
import GuestVault.Text.Part
import GuestVault.Text.Quoted

/-!
# Records

A record is a named piece of data on its way into or out of a store. A `RecordSink` takes records;
it answers once a record is safely stored, with the number of bytes that it stored.
-/

namespace GuestVault

/-- A path and a reader for the data. -/
structure Record (ρ : Type) where
  pathname : String
  reader : ρ
deriving Repr

namespace Record

variable {ρ : Type}

/-- The name of a record, without any directory. -/
def name (r : Record ρ) : String :=
  Text.basename r.pathname

/-- The short description of a record. -/
def summary (r : Record ρ) : String :=
  "Record \x7b pathname: " ++ Text.quoted r.pathname ++ " \x7d"

end Record

/-- Something that stores records, with a state of its own. It gives the reader back as far as it
was read. -/
structure RecordSink (σ : Type) where
  put : {ρ : Type} → [ByteSource ρ] → (pathname : String) → ρ → σ → (Except Failure Nat × ρ) × σ

end GuestVault
