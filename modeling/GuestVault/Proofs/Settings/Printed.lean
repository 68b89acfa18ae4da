import GuestVault.Proofs.Settings.Check
import GuestVault.Settings.File
import Mathlib.Data.List.Basic

/-!
# Printed settings read back

The tables that show settings have raw fields again (`Settings.ofToml?_tables`). For settings that
have passed the check these are such that they pass it again, wherever they are read, unless the
settings hold a secret or the place of a key file that depends on the directory
(`Settings.Sound.gives_raw`). So what is printed of settings means these settings, if the path of the
key file is a text (`printed_settings_legible`). Bytes in it that are no text are replaced when it is
printed, and then what is printed means another file (`key_file_lost_in_print`).
-/

namespace GuestVault

open GuestVault.Text

/-! ## The raw fields of tables -/

/-- The raw fields in the table of a connection. -/
def Connection.raw : Connection → RawConnection
  | .here host => { mode := some "local", host }
  | .remote target =>
    { mode := some "remote", host := some target.host, port := some target.port
      username := some target.username
      method := match target.auth with
        | .password _ => some "password"
        | .identity _ => some "identity"
      identityFile := match target.auth with
        | .password _ => none
        | .identity keyFile => some keyFile.shown }

/-- The raw fields in the table of how archives are made. -/
def BackupSettings.raw (b : BackupSettings) : RawBackup :=
  { mode := some b.mode, compress := some b.compress.name, node := b.node
    versionTag := some b.versionTag }

/-- The raw fields in the table of how archives are restored. -/
def RestoreSettings.raw (r : RestoreSettings) : RawRestore :=
  { stagingDir := some r.stagingDir, cleanup := some r.cleanup, vmid := r.vmid }

/-- The raw settings in the tables. -/
def Settings.raw (s : Settings) : RawSettings :=
  { connection := s.connection.raw, backup := s.backup.raw, restore := s.restore.raw }

/-- The connection as it is shown: its key file is the one whose path is what is shown. -/
def Connection.legible : Connection → Connection
  | .here host => .here host
  | .remote target =>
    .remote { target with
      auth := match target.auth with
        | .password secret => .password secret
        | .identity keyFile => .identity (utf8 keyFile.shown) }

/-- The settings as they are shown. -/
def Settings.legible (s : Settings) : Settings :=
  { s with connection := s.connection.legible }

/-- The numbers are not too large for their fields. -/
structure RawSettings.InRange (raw : RawSettings) : Prop where
  port : ∀ port ∈ raw.connection.port, port ≤ maxPort
  vmid : ∀ vmid ∈ raw.restore.vmid, vmid ≤ maxWord32

/-! ## Reading tables -/

namespace Toml

/-- The table of some items. -/
def ofItems (items : List (String × Item)) : Toml :=
  .table (items.map fun (k, v) => (k, v.toml))

theorem optional?_natural {bound n : Nat} (h : n ≤ bound) :
    optional? (nat? bound) (some (Item.natural n).toml) = some (some n) := by
  have hunsigned : unsigned? (Item.natural n).toml = some n := by simp [unsigned?, Item.toml]
  have hnat : nat? bound (Item.natural n).toml = some n := by
    unfold nat?
    rw [hunsigned]
    exact Option.filter_eq_some_iff.mpr ⟨rfl, decide_eq_true h⟩
  show (nat? bound (Item.natural n).toml).map some = some (some n)
  rw [hnat]
  rfl

end Toml

theorem RawConnection.ofToml?_items {c : Connection} (hport : ∀ port ∈ c.raw.port, port ≤ maxPort) :
    RawConnection.ofToml? (.ofItems c.items) = some c.raw := by
  cases c with
  | here host => cases host <;> rfl
  | remote target =>
    obtain ⟨host, port, username, auth⟩ := target
    cases auth <;>
    · show (Toml.optional? (Toml.nat? maxPort) (some (Toml.Item.natural port).toml)).bind _ = _
      rw [Toml.optional?_natural (hport port rfl)]
      rfl

theorem RawBackup.ofToml?_items (b : BackupSettings) :
    RawBackup.ofToml? (.ofItems b.items) = some b.raw := by
  obtain ⟨mode, compress, node, versionTag⟩ := b
  cases node <;> cases mode <;> rfl

theorem RawRestore.ofToml?_items {r : RestoreSettings} (hvmid : ∀ vmid ∈ r.vmid, vmid ≤ maxWord32) :
    RawRestore.ofToml? (.ofItems r.items) = some r.raw := by
  obtain ⟨stagingDir, cleanup, vmid⟩ := r
  cases vmid with
  | none => rfl
  | some vmid =>
    show (Toml.optional? (Toml.nat? maxWord32) (some (Toml.Item.natural vmid).toml)).bind _ = _
    rw [Toml.optional?_natural (hvmid vmid rfl)]
    rfl

/-- The names of the tables are no paths. -/
theorem Settings.spread_tables (s : Settings) : s.tables.toml.spread = s.tables.toml := by
  have hconnection : Toml.pathOf "connection" = ["connection"] := by decide +kernel
  have hbackup : Toml.pathOf "backup" = ["backup"] := by decide +kernel
  have hrestore : Toml.pathOf "restore" = ["restore"] := by decide +kernel
  simp [tables, Toml.Tables.toml, Toml.spread, List.partition_eq_filter_filter, hconnection, hbackup,
    hrestore]

/-- **The tables of settings are read as their raw fields.** -/
theorem Settings.ofToml?_tables {s : Settings} (h : s.raw.InRange) :
    RawSettings.ofToml? s.tables.toml.spread = some s.raw := by
  rw [s.spread_tables]
  show (RawConnection.ofToml? (.ofItems s.connection.items)).bind _ = _
  rw [RawConnection.ofToml?_items h.port]
  show (RawBackup.ofToml? (.ofItems s.backup.items)).bind _ = _
  rw [RawBackup.ofToml?_items]
  show (RawRestore.ofToml? (.ofItems s.restore.items)).bind _ = _
  rw [RawRestore.ofToml?_items h.vmid]
  rfl

/-! ## Checking what was printed -/

variable {env : Surroundings}

theorem RawConnection.proves_of_placed {raw : RawConnection} {path : String}
    (hfile : raw.identityFile = some path) (habsolute : isAbsolute path = true)
    (htidy : Tidy path) : raw.Proves env "identity" (.identity (utf8 path)) := by
  have hproves : raw.Proves env "identity" (.identity (env.resolve path)) :=
    .identity (by rw [hfile, htidy.trimmed?_eq]) (Surroundings.expandHome_of_absolute habsolute)
  rwa [Surroundings.resolve_of_placed habsolute htidy] at hproves

/-- The raw fields of a connection give what is shown of it, if its texts say something and it is
placed. -/
theorem Connection.gives_raw {c : Connection} (hhost : ∀ host ∈ c.host?, Tidy host)
    (husername : ∀ username ∈ c.username?, Tidy username) (hplaced : c.Placed) :
    c.raw.Gives env c.legible := by
  have hlocal : trimmed? (some "local") = some "local" := by decide
  have hremote : trimmed? (some "remote") = some "remote" := by decide
  have hidentity : trimmed? (some "identity") = some "identity" := by decide
  cases c with
  | here host =>
    have hgives : (Connection.here host).raw.Gives env (.here (trimmed? host)) := .here hlocal
    rwa [show trimmed? host = host from trimmed?_of_tidy hhost] at hgives
  | remote target =>
    obtain ⟨host, port, username, auth⟩ := target
    obtain ⟨keyFile, hauth, habsolute, htidy⟩ := hplaced
    obtain rfl : auth = .identity keyFile := hauth
    exact .remote hremote (hhost host rfl).trimmed?_eq (husername username rfl).trimmed?_eq
      hidentity (RawConnection.proves_of_placed rfl habsolute htidy)

/-- **A connection is shown as it is exactly if the path of its key file is a text.** -/
theorem Connection.legible_eq_iff {c : Connection} :
    c.legible = c ↔ ∀ keyFile ∈ c.keyFile?, ∃ path, keyFile = utf8 path := by
  rcases c with host | ⟨host, port, username, _ | keyFile⟩
  · exact iff_of_true rfl nofun
  · exact iff_of_true rfl nofun
  · simp only [legible, keyFile?, SystemPath.shown, Connection.remote.injEq, RemoteTarget.mk.injEq,
      Auth.identity.injEq, true_and, Option.mem_some_iff, forall_eq']
    exact utf8_lossy_eq_iff

theorem BackupSettings.gives_raw {b : BackupSettings} (hnode : ∀ node ∈ b.node, Tidy node) :
    b.raw.Gives b := by
  have hcompress : trimmed? (some b.compress.name) = some b.compress.name := by
    cases b.compress <;> decide
  refine ⟨rfl, ?_, (trimmed?_of_tidy hnode).symm, rfl⟩
  show (trimmed? (some b.compress.name)).elim _ _ = _
  rw [hcompress, Option.elim_some, CompressChoice.ofName?_name]

theorem RestoreSettings.gives_raw {r : RestoreSettings} (htidy : Tidy r.stagingDir)
    (habsolute : isAbsolute r.stagingDir = true) (hvmid : ∀ vmid ∈ r.vmid, 0 < vmid) :
    r.raw.Gives r := by
  refine ⟨?_, habsolute, rfl, rfl, fun hzero => Nat.lt_irrefl 0 (hvmid 0 hzero)⟩
  show _ = (trimmed? (some r.stagingDir)).getD _
  rw [htidy.trimmed?_eq]
  rfl

namespace Settings

variable {raw : RawSettings} {s : Settings}

/-- **The raw fields of sound settings without a secret give what is shown of them**, wherever they are
read. -/
theorem Sound.gives_raw (h : s.Sound) (hplaced : s.connection.Placed) : s.raw.Gives env s.legible :=
  ⟨Connection.gives_raw h.host h.username hplaced, BackupSettings.gives_raw h.node,
    RestoreSettings.gives_raw h.stagingDir h.absolute h.vmid⟩

theorem legible_eq_iff : s.legible = s ↔ s.connection.legible = s.connection := by
  constructor
  · intro h
    exact congrArg connection h
  · intro h
    unfold legible
    rw [h]

theorem inRange_raw (h : raw.Gives env s) (hrange : raw.InRange) : s.raw.InRange := by
  obtain ⟨hconnection, -, hrestore⟩ := h
  obtain ⟨connection, backup, restore⟩ := s
  constructor
  · intro port hport
    cases hconnection with
    | here _ => cases hport
    | remote _ _ _ _ _ =>
      cases hport
      cases hgiven : raw.connection.port with
      | none => exact (by decide : defaultPort ≤ maxPort)
      | some port => exact hrange.port port hgiven
  · intro vmid hvmid
    exact hrange.vmid vmid (hrestore.vmid.symm.trans hvmid)

/-- **What is printed of settings means these settings, if the path of the key file is a text.**
Settings that have passed the check, with numbers that fit into their fields, are sound: the staging
directory is absolute, a guest that is to be restored alone has a positive id, and host, user and node
say something if they are there. If furthermore the connection is local or identity is proved by a key
file, and the settings file lies in an absolute directory, then the tables that show the settings are
read as raw settings that pass the check in any directory and with any home, and give the settings as
they are shown. These are the same settings exactly if the path of the key file is a text, as it is if
that of the directory is. -/
theorem printed_settings_legible (hrange : raw.InRange) (hcheck : raw.check env = .ok s) :
    s.Sound ∧
      (raw.connection.HasNoSecret → env.directory.isAbsolute = true →
        (∃ printed, RawSettings.ofToml? s.tables.toml.spread = some printed ∧
          ∀ env' : Surroundings, printed.check env' = .ok s.legible) ∧
        (s.legible = s ↔ ∀ keyFile ∈ s.connection.keyFile?, ∃ path, keyFile = utf8 path) ∧
        ((∃ dir, env.directory = utf8 dir) → s.legible = s)) := by
  have hgives := RawSettings.check_eq_ok_iff.mp hcheck
  have hlegible : s.legible = s ↔ ∀ keyFile ∈ s.connection.keyFile?, ∃ path, keyFile = utf8 path :=
    legible_eq_iff.trans Connection.legible_eq_iff
  refine ⟨hgives.sound, fun hsecret hdirectory => ⟨⟨s.raw, ?_, fun env' => ?_⟩, hlegible, ?_⟩⟩
  · exact ofToml?_tables (inRange_raw hgives hrange)
  · apply RawSettings.check_eq_ok_iff.mpr
    exact hgives.sound.gives_raw (hgives.connection.placed hsecret hdirectory)
  · rintro ⟨dir, hdir⟩
    exact hlegible.mpr (hgives.connection.exists_keyFile hdir)

/-- A key file below a home that is itself a relative path lies in the directory of the settings file.
Printed with all its directories it is found from any other one. -/
theorem key_below_home_legible :
    let env : Surroundings :=
      { directory := utf8 "/etc/vault", home := some " keys", readFile := fun _ => .error .nulInPath }
    let raw : RawSettings :=
      { connection :=
          { mode := some " remote", host := some "pve1.lan\t", username := some "root"
            method := some "identity\n", identityFile := some " ~/id " }
        backup := { node := some "  " }
        restore := { vmid := some 101 } }
    let s : Settings :=
      { connection := .remote
          { host := "pve1.lan", port := 22, username := "root"
            auth := .identity (utf8 "/etc/vault/keys/id") }
        backup := {}
        restore := { vmid := some 101 } }
    raw.InRange ∧ raw.check env = .ok s ∧ raw.connection.HasNoSecret ∧
      env.directory.isAbsolute = true ∧ s.Sound ∧
      ∃ printed, RawSettings.ofToml? s.tables.toml.spread = some printed ∧
        printed.check { env with directory := utf8 ".", home := none } = .ok s := by
  intro env raw s
  have hrange : raw.InRange := ⟨nofun, fun vmid hvmid => Option.some.inj hvmid ▸ by decide⟩
  have hcheck : raw.check env = .ok s := by decide +kernel
  have hsecret : raw.connection.HasNoSecret := .inr (by decide)
  have hdirectory : env.directory.isAbsolute = true := by decide
  obtain ⟨hsound, hprinted⟩ := printed_settings_legible hrange hcheck
  obtain ⟨⟨printed, hread, hsame⟩, -, hlegible⟩ := hprinted hsecret hdirectory
  rw [hlegible ⟨"/etc/vault", rfl⟩] at hsame
  exact ⟨hrange, hcheck, hsecret, hdirectory, hsound, printed, hread, hsame _⟩

/-- A key file in a directory whose path is no text is printed with another path. What is printed passes
the check, but it means the file with that path. -/
theorem key_file_lost_in_print :
    let env : Surroundings :=
      { directory := utf8 "/etc/vault" ++ [0xFF], readFile := fun _ => .error .nulInPath }
    let raw : RawSettings :=
      { connection :=
          { mode := some "remote", host := some "pve1.lan", username := some "root"
            method := some "identity", identityFile := some "keys/id" } }
    let target : RemoteTarget :=
      { host := "pve1.lan", port := 22, username := "root"
        auth := .identity (utf8 "/etc/vault" ++ [0xFF] ++ utf8 "/keys/id") }
    let s : Settings := { connection := .remote target, backup := {}, restore := {} }
    raw.InRange ∧ raw.check env = .ok s ∧ raw.connection.HasNoSecret ∧
      env.directory.isAbsolute = true ∧
      ∃ printed s', RawSettings.ofToml? s.tables.toml.spread = some printed ∧
        printed.check env = .ok s' ∧ s' ≠ s ∧
        s'.connection.keyFile? = some (utf8 "/etc/vault\uFFFD/keys/id") := by
  intro env raw target s
  have hcheck : raw.check env = .ok s := by decide +kernel
  have hread : RawSettings.ofToml? s.tables.toml.spread = some s.raw := by decide +kernel
  have hagain : s.raw.check env = .ok s.legible := by decide +kernel
  refine ⟨⟨nofun, nofun⟩, hcheck, .inr (by decide), by decide, s.raw, s.legible, hread, hagain, ?_, ?_⟩
  · decide +kernel
  · decide +kernel

end Settings

end GuestVault
