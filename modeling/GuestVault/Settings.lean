import GuestVault.FileTree.Path

/-!
# Settings

What a run is told: where its commands run, how archives are made, and how they are restored.
-/

namespace GuestVault

/-- What happens to a guest while it is dumped. -/
inductive BackupMode where
  | snapshot
  | suspend
  | stop
deriving Repr, DecidableEq

/-- The name of a mode. -/
def BackupMode.name : BackupMode → String
  | .snapshot => "snapshot"
  | .suspend => "suspend"
  | .stop => "stop"

/-- The mode with the given name. -/
def BackupMode.ofName? (s : String) : Option BackupMode :=
  if s = "snapshot" then some .snapshot
  else if s = "suspend" then some .suspend
  else if s = "stop" then some .stop
  else none

/-- The compression asked of the dump tool. -/
inductive CompressChoice where
  | off
  | on
  | gzip
  | lzo
  | zstd
deriving Repr, DecidableEq

/-- The word for a choice. -/
def CompressChoice.name : CompressChoice → String
  | .off => "0"
  | .on => "1"
  | .gzip => "gzip"
  | .lzo => "lzo"
  | .zstd => "zstd"

/-- The choice that a word stands for. -/
def CompressChoice.ofName? (s : String) : Option CompressChoice :=
  if s = "0" then some .off
  else if s = "1" then some .on
  else if s = "gzip" then some .gzip
  else if s = "lzo" then some .lzo
  else if s = "zstd" then some .zstd
  else none

@[simp] theorem BackupMode.ofName?_name (m : BackupMode) : ofName? m.name = some m := by
  cases m <;> decide

@[simp] theorem CompressChoice.ofName?_name (c : CompressChoice) : ofName? c.name = some c := by
  cases c <;> decide

/-- How archives are made. -/
structure BackupSettings where
  mode : BackupMode := .snapshot
  compress : CompressChoice := .off
  node : Option String := none
  /-- Write archive names with a version tag. -/
  versionTag : Bool := false
deriving Repr, DecidableEq

/-- Where archives are staged unless the settings say otherwise. -/
def defaultStagingDir : String := "/var/lib/vz/dump"

/-- How archives are restored. -/
structure RestoreSettings where
  stagingDir : String := defaultStagingDir
  /-- Remove a staged archive after its restore. -/
  cleanup : Bool := false
  /-- Restore this guest only. -/
  vmid : Option Nat := none
deriving Repr, DecidableEq

/-- How to prove one's identity to a remote host. -/
inductive Auth where
  | password (secret : String)
  | identity (keyFile : SystemPath)
deriving Repr, DecidableEq

/-- The form of an identity that may be shown: never the secret. -/
def Auth.shown : Auth → String
  | .password _ => "Password(<redacted>)"
  | .identity keyFile => "Identity(" ++ SystemPath.quoted keyFile ++ ")"

/-- A remote host and how to get in. -/
structure RemoteTarget where
  host : String
  port : Nat
  username : String
  auth : Auth
deriving Repr, DecidableEq

/-- The port of remote shells. -/
def defaultPort : Nat := 22

/-- Where commands run. -/
inductive Connection where
  | here (host : Option String)
  | remote (target : RemoteTarget)
deriving Repr, DecidableEq

/-- All settings of a run. -/
structure Settings where
  connection : Connection
  backup : BackupSettings
  restore : RestoreSettings
deriving Repr, DecidableEq

/-- The host that archives are recorded to come from. -/
def Settings.origin (s : Settings) : String :=
  match s.connection with
  | .here (some host) => host
  | .here none => "local"
  | .remote target => target.host

end GuestVault
