import GuestVault.Archive.Compression
import GuestVault.Archive.Kind
import GuestVault.Text.Number
import GuestVault.Text.Part
import GuestVault.Time.Moment

/-!
# Archive names

An archive is called `vzdump[-v1]-<kind>-<id>-<stamp>.<ext>[.<compression>]`. Reading a name only
needs the part up to the dash after the id: `ArchiveName.Shape` says what that part looks like,
and `ArchiveName.parse` takes kind and id from it.
-/

namespace GuestVault

open GuestVault.Text

/-- The full name of a new archive. -/
structure ArchiveName where
  kind : Kind
  vmid : Nat
  stamp : String
  compression : Compression
  /-- The name carries an explicit version tag. -/
  tagged : Bool
deriving Repr, DecidableEq

namespace ArchiveName

/-- The only version that names are written in. -/
def version : Nat := 1

/-- The name of an archive that is taken at the given moment. -/
def ofMoment (kind : Kind) (vmid : Nat) (moment : Time.Moment) (compression : Compression) :
    ArchiveName :=
  { kind, vmid, stamp := moment.stamp, compression, tagged := false }

/-- Only one version is supported. -/
def checkVersion (v : Nat) : Except Error Unit :=
  if v = version then .ok () else .error (.unsupportedVersion .archiveName v)

/-- The same name with a version tag. -/
def withVersion (n : ArchiveName) (v : Nat) : Except Error ArchiveName :=
  (checkVersion v).map fun _ => { n with tagged := true }

/-- The text of a name. -/
def render (n : ArchiveName) : String :=
  "vzdump" ++ (if n.tagged then "-v" ++ toString version else "") ++ "-" ++ n.kind.name ++ "-" ++
    toString n.vmid ++ "-" ++ n.stamp ++ "." ++ n.kind.extension ++ n.compression.suffix

/-! ## Reading names -/

/-- The pieces of a name up to the dash after the id, with the digits as they stand there. -/
structure Shape where
  version : Option (List Char)
  kind : Kind
  vmid : List Char
deriving Repr, DecidableEq

/-- The character is an ASCII digit. -/
def isDigit (c : Char) : Bool := (digit? c).isSome

/-- An optional version tag, and what follows it. -/
def takeVersion (s : List Char) : Option (List Char) × List Char :=
  match dropFront? ['-', 'v'] s with
  | none => (none, s)
  | some r =>
    match r.takeWhile isDigit with
    | [] => (none, s)
    | digits => (some digits, r.dropWhile isDigit)

/-- The kind between two dashes, and what follows it. -/
def takeKind? (s : List Char) : Option (Kind × List Char) :=
  match dropFront? "-qemu-".toList s with
  | some r => some (.qemu, r)
  | none => (dropFront? "-lxc-".toList s).map ((.lxc, ·))

/-- The shape of a base name, if it is one of an archive. -/
def shape? (base : List Char) : Option Shape := do
  let s ← dropFront? "vzdump".toList base
  let (version, s) := takeVersion s
  let (kind, s) ← takeKind? s
  match s.takeWhile isDigit, s.dropWhile isDigit with
  | c :: digits, '-' :: _ => some { version, kind, vmid := c :: digits }
  | _, _ => none

/-- Kind and id from an archive name, which a directory may precede. -/
def parse (name : String) : Except Error (Kind × Nat) := do
  let base := basename name
  match shape? base.toList with
  | none => .error (.parse ("invalid vzdump filename: " ++ base))
  | some shape =>
    match shape.version with
    | none => pure ()
    | some digits =>
      if digitsValue digits ≤ maxWord64 then checkVersion (digitsValue digits)
      else .error (.parse ("invalid vzdump filename version: " ++ base))
    if digitsValue shape.vmid ≤ maxWord32 then .ok (shape.kind, digitsValue shape.vmid)
    else .error (.parse ("invalid vmid in filename: " ++ base))

end ArchiveName

end GuestVault
