import GuestVault.CommandLine
import GuestVault.Log.Filter
import GuestVault.Settings.File

/-!
# The program

From the arguments and the machine to what is shown and what becomes of the machine. The settings
are read before anything else is done, but after a question for help was answered.
-/

namespace GuestVault

/-- How a run of the program ended. -/
structure RunOutcome where
  exit : Nat
  stdout : String := ""
  stderr : String := ""
  /-- The usage was shown. -/
  showsHelp : Bool := false
  tree : FileTree
deriving Repr

namespace Program

/-- The name of the program. -/
def name : String := "vzbridge"

/-- Its version. -/
def version : String := "0.0.0"

/-- The variable that holds the log filter. -/
def filterVariable : String := "RUST_LOG"

/-- How the program is used. -/
def usage : String :=
  "Stream Proxmox VE guest dumps into a backup store and restore them\n\n" ++
  "Usage: vzbridge [OPTIONS] [COMMAND]\n\n" ++
  "Commands:\n" ++
  "  backup   Back up guests into a store directory\n" ++
  "  restore  Restore guests from a store directory\n" ++
  "  list     List guests known to the cluster\n" ++
  "  ping     Check that the management API answers\n" ++
  "  help     Print this message or the help of the given subcommand(s)\n\n" ++
  "Options:\n" ++
  "      --config <CONFIG>  [default: ./config.toml]\n" ++
  "      --debug\n" ++
  "      --check-config\n" ++
  "      --print-config\n" ++
  "  -h, --help             Print help\n" ++
  "  -V, --version          Print version\n"

/-- Reads the settings and does what is asked. -/
def work (line : CommandLine) (home : Option String) : Job.Step Unit := do
  let settings ← Action.ofExcept (Settings.load (← get).tree home (Text.utf8 line.config))
  if line.checkConfig then
    Job.always (LocalHost.note .info "config OK")
  else if line.printConfig then
    Job.always (LocalHost.print (settings.tables.write ++ "\n"))
  else
    match line.job with
    | some job => job.run settings
    | none => pure ()

/-- The rank up to which messages are shown. -/
def verbosity (line : CommandLine) (environment : List (String × String)) : Nat :=
  let usual : LogLevel := if line.debug then .trace else .info
  LogFilter.rankFor name usual.rank (environment.lookup filterVariable)

/-- Shows the usage. -/
def help (tree : FileTree) : RunOutcome :=
  { exit := 0, stdout := usage, showsHelp := true, tree }

/-- Runs the program. -/
def run (args : List String) (environment : List (String × String)) (moment : Time.Moment)
    (tree : FileTree) : RunOutcome :=
  match CommandLine.parse args with
  | .error .help => help tree
  | .error .version => { exit := 0, stdout := name ++ " " ++ version ++ "\n", tree }
  | .error .misuse =>
    { exit := 2
      stderr := "error: invalid arguments\n\nFor more information, try '--help'.\n"
      tree }
  | .ok line =>
    if line.job.isNone ∧ !line.checkConfig ∧ !line.printConfig then help tree
    else
      let machine : LocalHost :=
        { tree, environment, moment, verbosity := verbosity line environment }
      match work line (environment.lookup "HOME") machine with
      | (.ok (), machine) => { exit := 0, stdout := machine.transcript, tree := machine.tree }
      | (.error f, machine) =>
        { exit := 1
          stdout := machine.transcript
          stderr := "Error: " ++ f.detail ++ "\n"
          tree := machine.tree }

end Program

end GuestVault
