import GuestVault.Double.Shortest
import GuestVault.Settings
import GuestVault.Text.Lower
import GuestVault.Text.Number
import GuestVault.Toml.Value

/-!
# Raw settings

The values of a settings file before any rule is applied to them. A value of another type is taken
for what it can stand for: a number for its text, a truth value for one or zero, a word such as `yes`
for a truth value. A table may also be given as the list of its fields in order.
-/

namespace GuestVault

open GuestVault.Text

/-- The raw fields of the table `connection`. -/
structure RawConnection where
  mode : Option String := none
  host : Option String := none
  port : Option Nat := none
  username : Option String := none
  method : Option String := none
  passwordFile : Option String := none
  identityFile : Option String := none
deriving Repr, DecidableEq

/-- The raw fields of the table `backup`. -/
structure RawBackup where
  mode : Option BackupMode := none
  compress : Option String := none
  node : Option String := none
  versionTag : Option Bool := none
deriving Repr, DecidableEq

/-- The raw fields of the table `restore`. -/
structure RawRestore where
  stagingDir : Option String := none
  cleanup : Option Bool := none
  vmid : Option Nat := none
deriving Repr, DecidableEq

/-- The raw settings of a file. -/
structure RawSettings where
  connection : RawConnection
  backup : RawBackup := {}
  restore : RawRestore := {}
deriving Repr, DecidableEq

namespace Toml

/-! ## Values of a wanted type -/

/-- The text that a scalar stands for. -/
def text? : Toml → Option String
  | .text s => some s
  | .integer n => some (toString n)
  | .real x => some x.text
  | .boolean b => some (toString b)
  | .moment s => some s
  | .array _ | .table _ => none

/-- The words for truth, in lower case. -/
def trueWords : List String := ["true", "on", "yes"]

/-- The words for falsehood, in lower case. -/
def falseWords : List String := ["false", "off", "no"]

/-- The truth value that a word stands for. -/
def truthOf? (word : String) : Option Bool :=
  let word := String.ofList (lower word.toList)
  if word ∈ trueWords then some true
  else if word ∈ falseWords then some false
  else none

/-- The truth value that a scalar stands for. -/
def bool? : Toml → Option Bool
  | .text s | .moment s =>
    if s = "1" then some true else if s = "0" then some false else truthOf? s
  | .integer n => some (n ≠ 0)
  | .real x => some x.isNonzero
  | .boolean b => some b
  | .array _ | .table _ => none

/-- The natural number that a scalar stands for. -/
def unsigned? : Toml → Option Nat
  | .text s | .moment s =>
    match truthOf? s with
    | some b => some b.toNat
    | none => (readNumber maxWord64 s.toList).toOption
  | .integer n => if 0 ≤ n then some n.toNat else none
  | .real x => some (x.toNat maxWord64)
  | .boolean b => some b.toNat
  | .array _ | .table _ => none

/-- A natural number up to a bound. -/
def nat? (bound : Nat) (v : Toml) : Option Nat :=
  v.unsigned?.filter (· ≤ bound)

/-- A mode, named by a text or by the only key of a table. -/
def mode? : Toml → Option BackupMode
  | .text s | .moment s => BackupMode.ofName? s
  | .table [(key, _)] => BackupMode.ofName? key
  | _ => none

/-! ## Tables -/

/-- The value for each field: by name in a table, by position in a list. A list must not be too
short. -/
def fields? (names : List String) : Toml → Option (List (Option Toml))
  | .table members => some (names.map fun name => members.lookup name)
  | .array items =>
    if names.length ≤ items.length then some ((items.take names.length).map some) else none
  | _ => none

/-- The value of an optional field. -/
def optional? {α : Type} (value? : Toml → Option α) : Option Toml → Option (Option α)
  | none => some none
  | some v => (value? v).map some

end Toml

/-- The largest port. -/
def maxPort : Nat := 65535

/-- Reads the table `connection`. -/
def RawConnection.ofToml? (v : Toml) : Option RawConnection := do
  match ← v.fields? ["mode", "host", "port", "username", "method", "password_file",
    "identity_file"] with
  | [mode, host, port, username, method, passwordFile, identityFile] =>
    some {
      mode := ← Toml.optional? Toml.text? mode
      host := ← Toml.optional? Toml.text? host
      port := ← Toml.optional? (Toml.nat? maxPort) port
      username := ← Toml.optional? Toml.text? username
      method := ← Toml.optional? Toml.text? method
      passwordFile := ← Toml.optional? Toml.text? passwordFile
      identityFile := ← Toml.optional? Toml.text? identityFile }
  | _ => none

/-- Reads the table `backup`. -/
def RawBackup.ofToml? (v : Toml) : Option RawBackup := do
  match ← v.fields? ["mode", "compress", "node", "version_tag"] with
  | [mode, compress, node, versionTag] =>
    some {
      mode := ← Toml.optional? Toml.mode? mode
      compress := ← Toml.optional? Toml.text? compress
      node := ← Toml.optional? Toml.text? node
      versionTag := ← Toml.optional? Toml.bool? versionTag }
  | _ => none

/-- Reads the table `restore`. -/
def RawRestore.ofToml? (v : Toml) : Option RawRestore := do
  match ← v.fields? ["staging_dir", "cleanup", "vmid"] with
  | [stagingDir, cleanup, vmid] =>
    some {
      stagingDir := ← Toml.optional? Toml.text? stagingDir
      cleanup := ← Toml.optional? Toml.bool? cleanup
      vmid := ← Toml.optional? (Toml.nat? maxWord32) vmid }
  | _ => none

/-- Reads the settings; only the table `connection` is required. -/
def RawSettings.ofToml? (v : Toml) : Option RawSettings := do
  let connection ← RawConnection.ofToml? (← v.member? "connection")
  let backup ← match v.member? "backup" with
    | none => some {}
    | some t => RawBackup.ofToml? t
  let restore ← match v.member? "restore" with
    | none => some {}
    | some t => RawRestore.ofToml? t
  some { connection, backup, restore }

end GuestVault
