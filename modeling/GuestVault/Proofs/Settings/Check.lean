import GuestVault.Proofs.FileTree.Path
import GuestVault.Settings.Check

/-!
# What checked settings are made of

`Gives` says for each part of the settings what it is made of if its raw fields pass the check, and
that is all that the check does (`RawSettings.check_eq_ok_iff`). So texts that pass say something, the
staging directory is absolute and the id of a guest is positive (`RawSettings.Gives.sound`). If the
settings file lies in an absolute directory, what is shown of a key file is absolute as well
(`RawConnection.Gives.placed`).
-/

namespace GuestVault

open GuestVault.Text

theorem bind_eq_ok_iff {ε α β : Type} {x : Except ε α} {f : α → Except ε β} {b : β} :
    (x >>= f) = .ok b ↔ ∃ a, x = .ok a ∧ f a = .ok b := by
  cases x with
  | error e => exact iff_of_false nofun fun ⟨_, h, _⟩ => nomatch h
  | ok a => exact ⟨fun h => ⟨a, rfl, h⟩, fun ⟨_, ha, h⟩ => Except.ok.inj ha ▸ h⟩

/-! ## Paths of secrets -/

namespace Surroundings

variable {env : Surroundings} {path : String}

/-- In an absolute directory a path is resolved to one that shows where it is. -/
theorem resolve_placed (hdirectory : env.directory.isAbsolute = true) (path : String) :
    isAbsolute (env.resolve path).shown = true ∧ Tidy (env.resolve path).shown :=
  ⟨SystemPath.isAbsolute_shown (SystemPath.isAbsolute_join hdirectory _),
    SystemPath.tidy_shown_join hdirectory (trimmed_trim path)⟩

theorem resolve_of_placed (habsolute : isAbsolute path = true) (htidy : Tidy path) :
    env.resolve path = utf8 path := by
  unfold resolve
  rw [trim_of_trimmed htidy.trimmed]
  exact SystemPath.join_of_absolute ((SystemPath.isAbsolute_utf8 path).trans habsolute)

theorem expandHome_of_absolute (habsolute : isAbsolute path = true) :
    env.expandHome path = .ok path := by
  obtain ⟨rest, hpath⟩ := List.head?_eq_some_iff.mp (isAbsolute_iff.mp habsolute)
  unfold expandHome
  rw [hpath]
  rfl

end Surroundings

/-! ## The connection -/

namespace RawConnection

variable {env : Surroundings} {raw : RawConnection} {c : Connection} {auth : Auth}
  {method : String}

theorem required_eq_ok_iff {α : Type} {message : String} {value : Option α} {a : α} :
    required message value = .ok a ↔ value = some a := by
  cases value with
  | none => exact iff_of_false nofun nofun
  | some b =>
    exact ⟨fun h => congrArg some (Except.ok.inj h), fun h => congrArg Except.ok (Option.some.inj h)⟩

/-- How an identity is proved, by the name of the method. -/
inductive Proves (env : Surroundings) (raw : RawConnection) : String → Auth → Prop where
  | password {file secret : String} (hfile : trimmed? raw.passwordFile = some file)
      (hsecret : env.password (env.resolve file) = .ok secret) :
    Proves env raw "password" (.password secret)
  | identity {file path : String} (hfile : trimmed? raw.identityFile = some file)
      (hpath : env.expandHome file = .ok path) :
    Proves env raw "identity" (.identity (env.resolve path))

theorem auth_eq_ok_iff : raw.auth env method = .ok auth ↔ raw.Proves env method auth := by
  unfold RawConnection.auth
  constructor
  · intro h
    split at h
    · rename_i hmethod
      subst hmethod
      obtain ⟨file, hfile, h⟩ := bind_eq_ok_iff.mp h
      obtain ⟨secret, hsecret, h⟩ := bind_eq_ok_iff.mp h
      cases h
      exact .password (required_eq_ok_iff.mp hfile) hsecret
    split at h
    · rename_i hmethod
      subst hmethod
      obtain ⟨file, hfile, h⟩ := bind_eq_ok_iff.mp h
      obtain ⟨path, hpath, h⟩ := bind_eq_ok_iff.mp h
      cases h
      exact .identity (required_eq_ok_iff.mp hfile) hpath
    · cases h
  · rintro (⟨hfile, hsecret⟩ | ⟨hfile, hpath⟩)
    · rw [if_pos rfl, hfile]
      exact bind_eq_ok_iff.mpr ⟨_, rfl, bind_eq_ok_iff.mpr ⟨_, hsecret, rfl⟩⟩
    · rw [if_neg (by decide), if_pos rfl, hfile]
      exact bind_eq_ok_iff.mpr ⟨_, rfl, bind_eq_ok_iff.mpr ⟨_, hpath, rfl⟩⟩

/-- What a connection is made of. -/
inductive Gives (env : Surroundings) (raw : RawConnection) : Connection → Prop where
  | here (hmode : trimmed? raw.mode = some "local") : Gives env raw (.here (trimmed? raw.host))
  | remote {host username method : String} {auth : Auth} (hmode : trimmed? raw.mode = some "remote")
      (hhost : trimmed? raw.host = some host) (husername : trimmed? raw.username = some username)
      (hmethod : trimmed? raw.method = some method) (hauth : raw.Proves env method auth) :
    Gives env raw (.remote { host, port := raw.port.getD defaultPort, username, auth })

theorem check_eq_ok_iff : raw.check env = .ok c ↔ raw.Gives env c := by
  unfold RawConnection.check
  constructor
  · intro h
    obtain ⟨mode, hmode, h⟩ := bind_eq_ok_iff.mp h
    have hmode := required_eq_ok_iff.mp hmode
    split at h
    · rename_i hlocal
      subst hlocal
      cases h
      exact .here hmode
    split at h
    · rename_i hremote
      subst hremote
      obtain ⟨host, hhost, h⟩ := bind_eq_ok_iff.mp h
      obtain ⟨username, husername, h⟩ := bind_eq_ok_iff.mp h
      obtain ⟨method, hmethod, h⟩ := bind_eq_ok_iff.mp h
      obtain ⟨auth, hauth, h⟩ := bind_eq_ok_iff.mp h
      cases h
      exact .remote hmode (required_eq_ok_iff.mp hhost) (required_eq_ok_iff.mp husername)
        (required_eq_ok_iff.mp hmethod) (auth_eq_ok_iff.mp hauth)
    · cases h
  · rintro (⟨hmode⟩ | ⟨hmode, hhost, husername, hmethod, hauth⟩)
    · rw [hmode]
      rfl
    · rw [hmode, hhost, husername, hmethod]
      show (RawConnection.auth env raw _ >>= _) = _
      exact bind_eq_ok_iff.mpr ⟨_, auth_eq_ok_iff.mpr hauth, rfl⟩

end RawConnection

/-! ## How archives are made and restored -/

/-- What the settings of a backup are made of. -/
structure RawBackup.Gives (raw : RawBackup) (b : BackupSettings) : Prop where
  mode : b.mode = raw.mode.getD .snapshot
  compress : (trimmed? raw.compress).elim (some .off) CompressChoice.ofName? = some b.compress
  node : b.node = trimmed? raw.node
  versionTag : b.versionTag = raw.versionTag.getD false

theorem RawBackup.check_eq_ok_iff {raw : RawBackup} {b : BackupSettings} :
    raw.check = .ok b ↔ raw.Gives b := by
  unfold RawBackup.check
  constructor
  · intro h
    dsimp only at h
    split at h
    · rename_i hword
      cases h
      exact ⟨rfl, by rw [hword]; rfl, rfl, rfl⟩
    · rename_i word hword
      split at h
      · rename_i choice hchoice
        cases h
        exact ⟨rfl, by rw [hword]; exact hchoice, rfl, rfl⟩
      · cases h
  · obtain ⟨mode, compress, node, versionTag⟩ := b
    rintro ⟨rfl, hcompress, rfl, rfl⟩
    cases hword : trimmed? raw.compress with
    | none =>
      rw [hword] at hcompress
      cases hcompress
      rfl
    | some word =>
      rw [hword, Option.elim_some] at hcompress
      simp only [hcompress]
      rfl

/-- What the settings of a restore are made of. -/
structure RawRestore.Gives (raw : RawRestore) (r : RestoreSettings) : Prop where
  stagingDir : r.stagingDir = (trimmed? raw.stagingDir).getD defaultStagingDir
  absolute : isAbsolute r.stagingDir = true
  cleanup : r.cleanup = raw.cleanup.getD false
  vmid : r.vmid = raw.vmid
  vmid_ne : raw.vmid ≠ some 0

theorem RawRestore.check_eq_ok_iff {raw : RawRestore} {r : RestoreSettings} :
    raw.check = .ok r ↔ raw.Gives r := by
  unfold RawRestore.check
  constructor
  · intro h
    split at h
    · cases h
    rename_i hvmid
    dsimp only at h
    split at h
    · cases h
    rename_i habsolute
    cases h
    exact ⟨rfl, by simpa using habsolute, rfl, rfl, hvmid⟩
  · obtain ⟨stagingDir, cleanup, vmid⟩ := r
    rintro ⟨rfl, habsolute, rfl, rfl, hvmid⟩
    dsimp only at habsolute
    simp only [if_neg hvmid, habsolute]
    rfl

/-! ## All settings -/

namespace RawSettings

variable {env : Surroundings} {raw : RawSettings} {s : Settings}

/-- What settings are made of. -/
structure Gives (env : Surroundings) (raw : RawSettings) (s : Settings) : Prop where
  connection : raw.connection.Gives env s.connection
  backup : raw.backup.Gives s.backup
  restore : raw.restore.Gives s.restore

/-- **Settings pass the check exactly if they are made of their raw fields like this.** -/
theorem check_eq_ok_iff : raw.check env = .ok s ↔ raw.Gives env s := by
  unfold RawSettings.check
  constructor
  · intro h
    obtain ⟨connection, hconnection, h⟩ := bind_eq_ok_iff.mp h
    obtain ⟨backup, hbackup, h⟩ := bind_eq_ok_iff.mp h
    obtain ⟨restore, hrestore, h⟩ := bind_eq_ok_iff.mp h
    cases h
    exact ⟨RawConnection.check_eq_ok_iff.mp hconnection, RawBackup.check_eq_ok_iff.mp hbackup,
      RawRestore.check_eq_ok_iff.mp hrestore⟩
  · rintro ⟨hconnection, hbackup, hrestore⟩
    rw [RawConnection.check_eq_ok_iff.mpr hconnection, RawBackup.check_eq_ok_iff.mpr hbackup,
      RawRestore.check_eq_ok_iff.mpr hrestore]
    rfl

end RawSettings

/-! ## What passes the check -/

/-- The host of a connection, if it has a name. -/
def Connection.host? : Connection → Option String
  | .here host => host
  | .remote target => some target.host

/-- The user of a connection to a remote host. -/
def Connection.username? : Connection → Option String
  | .here _ => none
  | .remote target => some target.username

/-- Texts say something, the staging directory is absolute, and a guest has a positive id. -/
structure Settings.Sound (s : Settings) : Prop where
  host : ∀ host ∈ s.connection.host?, Tidy host
  username : ∀ username ∈ s.connection.username?, Tidy username
  node : ∀ node ∈ s.backup.node, Tidy node
  stagingDir : Tidy s.restore.stagingDir
  absolute : isAbsolute s.restore.stagingDir = true
  vmid : ∀ vmid ∈ s.restore.vmid, 0 < vmid

/-- The key file of a connection, if identity is proved by one. -/
def Connection.keyFile? : Connection → Option SystemPath
  | .here _ => none
  | .remote target =>
    match target.auth with
    | .password _ => none
    | .identity keyFile => some keyFile

/-- A connection without a secret, whose key file shows where it lies. -/
def Connection.Placed : Connection → Prop
  | .here _ => True
  | .remote target =>
    ∃ keyFile, target.auth = .identity keyFile ∧ isAbsolute keyFile.shown = true ∧
      Tidy keyFile.shown

/-- The connection is local, or identity is proved by a key file. -/
def RawConnection.HasNoSecret (raw : RawConnection) : Prop :=
  trimmed? raw.mode = some "local" ∨
    trimmed? raw.mode = some "remote" ∧ trimmed? raw.method = some "identity"

variable {env : Surroundings}

/-- **A key file is placed for good in an absolute directory.** -/
theorem RawConnection.Gives.placed {raw : RawConnection} {c : Connection} (h : raw.Gives env c)
    (hsecret : raw.HasNoSecret) (hdirectory : env.directory.isAbsolute = true) : c.Placed := by
  cases h with
  | here _ => trivial
  | remote hmode _ _ hmethod hauth =>
    rcases hsecret with hlocal | ⟨-, hidentity⟩
    · rw [hmode] at hlocal
      exact absurd (Option.some.inj hlocal) (by decide)
    rw [hmethod] at hidentity
    have hkey := Option.some.inj hidentity
    cases hauth with
    | password _ _ => exact absurd hkey (by decide)
    | identity _ _ => exact ⟨_, rfl, env.resolve_placed hdirectory _⟩

/-- In a directory whose path is a text, so is the path of the key file. -/
theorem RawConnection.Gives.exists_keyFile {raw : RawConnection} {c : Connection}
    (h : raw.Gives env c) {dir : String} (hdirectory : env.directory = utf8 dir) :
    ∀ keyFile ∈ c.keyFile?, ∃ path, keyFile = utf8 path := by
  intro keyFile hkey
  cases h with
  | here _ => cases hkey
  | remote _ _ _ _ hauth =>
    cases hauth with
    | password _ _ => cases hkey
    | @identity _ path _ _ =>
      obtain rfl := Option.some.inj hkey
      refine ⟨joinPath dir (trim path), ?_⟩
      unfold Surroundings.resolve
      rw [hdirectory, SystemPath.join_utf8]

/-- **What passes the check is sound.** -/
theorem RawSettings.Gives.sound {raw : RawSettings} {s : Settings} (h : raw.Gives env s) :
    s.Sound := by
  obtain ⟨hconnection, hbackup, hrestore⟩ := h
  obtain ⟨connection, backup, restore⟩ := s
  refine ⟨?_, ?_, ?_, ?_, hrestore.absolute, ?_⟩
  · rintro host hhost
    cases hconnection with
    | here _ => exact tidy_of_trimmed? hhost
    | remote _ htext _ _ _ =>
      cases hhost
      exact tidy_of_trimmed? htext
  · rintro username husername
    cases hconnection with
    | here _ => cases husername
    | remote _ _ htext _ _ =>
      cases husername
      exact tidy_of_trimmed? htext
  · rintro node hnode
    exact tidy_of_trimmed? (hbackup.node.symm.trans hnode)
  · rw [hrestore.stagingDir]
    cases hgiven : trimmed? raw.restore.stagingDir with
    | none =>
      exact tidy_of_trimmed? (show trimmed? (some defaultStagingDir) = some defaultStagingDir by decide)
    | some stagingDir => exact tidy_of_trimmed? hgiven
  · rintro vmid hvmid
    refine Nat.pos_of_ne_zero ?_
    rintro rfl
    exact hrestore.vmid_ne (hrestore.vmid.symm.trans hvmid)

end GuestVault
