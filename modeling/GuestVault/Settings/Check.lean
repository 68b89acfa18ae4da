import GuestVault.Failure
import GuestVault.Settings.Raw
import GuestVault.Text.Blank
import GuestVault.Text.Path
import GuestVault.Text.Utf8Fault
import GuestVault.Toml.Writer

/-!
# Checking settings

Raw settings are checked in a fixed order, and the first rule that is broken is reported. Texts are
trimmed, and blank ones count as absent. Paths of secrets are resolved against the directory of the
settings file.
-/

namespace GuestVault

open GuestVault.Text

/-- What settings refer to outside of their file. -/
structure Surroundings where
  /-- The directory of the settings file. -/
  directory : SystemPath := [SystemPath.dot]
  home : Option String := none
  readFile : SystemPath → Except IoError Bytes

namespace Surroundings

variable (env : Surroundings)

/-- A path in its place: relative ones start at the directory of the settings file. -/
def resolve (path : String) : SystemPath :=
  SystemPath.join env.directory (utf8 (trim path))

/-- A path with the home directory in place of a tilde. -/
def expandHome (path : String) : Except Failure String :=
  match path.toList with
  | ['~'] => replaceTilde []
  | '~' :: '/' :: r => replaceTilde ('/' :: r)
  | _ => .ok path
where
  /-- The home directory with the rest of the path after it. -/
  replaceTilde (rest : List Char) : Except Failure String :=
    match env.home with
    | some home => .ok (home ++ String.ofList rest)
    | none => .error (.text ("cannot expand '" ++ path ++ "': HOME is not set"))

/-- A text without the line breaks at its end. -/
def dropBreaks (s : String) : String :=
  String.ofList ((s.toList.reverse.dropWhile fun c => c = '\n' || c = '\r').reverse)

/-- The secret that a file holds. -/
def readSecret (path : SystemPath) : Except Failure String :=
  match env.readFile path with
  | .error e => .error (.io e)
  | .ok bytes =>
    match checkUtf8 bytes with
    | .error fault => .error (.text fault.message)
    | .ok s => .ok (dropBreaks s)

/-- The password in a file, which must not be empty. -/
def password (path : SystemPath) : Except Failure String := do
  let secret ← inContext ("read ssh password from " ++ path.shown) (env.readSecret path)
  if secret = "" then throw (.text ("[connection] password file " ++ path.shown ++ " is empty"))
  return secret

end Surroundings

namespace RawConnection

variable (env : Surroundings)

/-- A value that must be there. -/
def required {α : Type} (message : String) : Option α → Except Failure α
  | some a => .ok a
  | none => .error (.text ("[connection] " ++ message))

/-- How to prove one's identity. -/
def auth (raw : RawConnection) (method : String) : Except Failure Auth :=
  if method = "password" then do
    let file ← required "password_file is required for method=password" (trimmed? raw.passwordFile)
    return .password (← env.password (env.resolve file))
  else if method = "identity" then do
    let file ← required "identity_file is required for method=identity" (trimmed? raw.identityFile)
    return .identity (env.resolve (← env.expandHome file))
  else .error (.text ("[connection] method: expected password|identity, got '" ++ method ++ "'"))

/-- Where commands run. -/
def check (raw : RawConnection) : Except Failure Connection := do
  let mode ← required "mode must be set (local|remote)" (trimmed? raw.mode)
  if mode = "local" then return .here (trimmed? raw.host)
  else if mode = "remote" then
    let host ← required "host is required for remote mode" (trimmed? raw.host)
    let username ← required "username is required for remote mode" (trimmed? raw.username)
    let method ← required "method is required for remote mode" (trimmed? raw.method)
    let auth ← raw.auth env method
    return .remote { host, port := raw.port.getD defaultPort, username, auth }
  else throw (.text ("[connection] mode: expected local|remote, got '" ++ mode ++ "'"))

end RawConnection

/-- How archives are made. -/
def RawBackup.check (raw : RawBackup) : Except Failure BackupSettings := do
  let compress ← match trimmed? raw.compress with
    | none => pure .off
    | some word =>
      match CompressChoice.ofName? word with
      | some choice => pure choice
      | none =>
        throw (.text ("[backup] compress: expected 0|1|gzip|lzo|zstd, got '" ++ word ++ "'"))
  return {
    mode := raw.mode.getD .snapshot
    compress
    node := trimmed? raw.node
    versionTag := raw.versionTag.getD false }

/-- How archives are restored. -/
def RawRestore.check (raw : RawRestore) : Except Failure RestoreSettings := do
  if raw.vmid = some 0 then throw (.text "[restore] vmid must be a positive integer")
  let stagingDir := (trimmed? raw.stagingDir).getD defaultStagingDir
  if !isAbsolute stagingDir then
    throw (.text ("[restore] staging_dir must be absolute, got '" ++ stagingDir ++ "'"))
  return { stagingDir, cleanup := raw.cleanup.getD false, vmid := raw.vmid }

/-- All settings of a run. -/
def RawSettings.check (env : Surroundings) (raw : RawSettings) : Except Failure Settings := do
  let connection ← raw.connection.check env
  let backup ← raw.backup.check
  let restore ← raw.restore.check
  return { connection, backup, restore }

/-! ## Showing settings -/

/-- A field that is there or not. -/
def optionalItem (key : String) (value : Option String) : List (String × Toml.Item) :=
  (value.map fun s => (key, .text s)).toList

/-- The fields of a connection; a password is not shown. -/
def Connection.items : Connection → List (String × Toml.Item)
  | .here host => ("mode", .text "local") :: optionalItem "host" host
  | .remote target =>
    [("mode", .text "remote"), ("host", .text target.host), ("port", .natural target.port),
      ("username", .text target.username)] ++
    match target.auth with
    | .password _ => [("method", .text "password"), ("password", .text "<redacted>")]
    | .identity keyFile => [("method", .text "identity"), ("identity_file", .text keyFile.shown)]

/-- The fields of how archives are made. -/
def BackupSettings.items (b : BackupSettings) : List (String × Toml.Item) :=
  [("mode", .text b.mode.name), ("compress", .text b.compress.name)] ++
    optionalItem "node" b.node ++ [("version_tag", .boolean b.versionTag)]

/-- The fields of how archives are restored. -/
def RestoreSettings.items (r : RestoreSettings) : List (String × Toml.Item) :=
  [("staging_dir", .text r.stagingDir), ("cleanup", .boolean r.cleanup)] ++
    (r.vmid.map fun n => ("vmid", Toml.Item.natural n)).toList

/-- The tables that describe settings. -/
def Settings.tables (s : Settings) : Toml.Tables :=
  [("connection", s.connection.items), ("backup", s.backup.items), ("restore", s.restore.items)]

end GuestVault
