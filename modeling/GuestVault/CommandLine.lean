import GuestVault.Job
import GuestVault.Text.Number

/-!
# The command line

Options, one of four commands, and the options of that command. Some options may stand before or
after the command; the one that stands after it counts. An option may be given once at each of the
two places. The arguments are read from left to right, and the first one that asks for help or is
wrong ends the reading.
-/

namespace GuestVault

open GuestVault.Text

/-- What the value of an option must be. -/
inductive OptionValue where
  /-- The option stands alone. -/
  | flag
  /-- A path, which is not empty. -/
  | path
  | text
  /-- The number of a guest. -/
  | guest
deriving Repr, DecidableEq

/-- The options that are known at a place, by name, and the commands. -/
structure ArgumentRules where
  options : List (String × OptionValue)
  commands : List String := []
deriving Repr

/-- Why the reading of a command line ends early. -/
inductive Interruption where
  | help
  | version
  | misuse
deriving Repr, DecidableEq

/-- The options that were given, with their values; that of a flag is empty. -/
abbrev GivenOptions := List (String × String)

namespace ArgumentRules

/-- The options that may stand at both places. -/
def shared : List (String × OptionValue) :=
  [("config", .path), ("debug", .flag), ("check-config", .flag), ("print-config", .flag)]

/-- What may stand in front. -/
def main : ArgumentRules where
  options := shared
  commands := ["backup", "restore", "list", "ping"]

/-- What may stand after a command. -/
def forCommand (command : String) : ArgumentRules where
  options := shared ++ match command with
    | "backup" => [("to", .path), ("vmid", .guest), ("pool", .text), ("all", .flag)]
    | "restore" => [("from", .path), ("vmid", .guest)]
    | "list" => [("pool", .text)]
    | _ => []

end ArgumentRules

namespace CommandLine

/-- The number of a guest. -/
def guest? (s : String) : Option Nat :=
  match s.toList with
  | '-' :: digits => if digits ≠ [] ∧ digits.all (· = '0') then some 0 else none
  | digits => (readNumber maxWord32 digits).toOption

/-- The value suits the option. -/
def suits : OptionValue → String → Bool
  | .flag, _ => false
  | .path, s => s ≠ ""
  | .text, _ => true
  | .guest, s => (guest? s).isSome

/-- The argument looks like an option, and so is no value. -/
def isOption (s : String) : Bool :=
  match s.toList with
  | '-' :: _ :: _ => true
  | _ => false

/-- Adds an option; it may be given once. -/
def give (name value : String) (given : GivenOptions) : Except Interruption GivenOptions :=
  if (given.lookup name).isSome then .error .misuse else .ok ((name, value) :: given)

/-- What the letters after a single dash ask for. -/
def letterRequest (rules : ArgumentRules) : List Char → Interruption
  | 'h' :: _ => .help
  | 'V' :: _ => if rules.commands = [] then .misuse else .version
  | _ => .misuse

/-- What a name after two dashes asks for, if it is no option. -/
def wordRequest (rules : ArgumentRules) (name : String) (value : Option String) : Interruption :=
  if value.isSome then .misuse
  else if name = "help" then .help
  else if name = "version" ∧ rules.commands ≠ [] then .version
  else .misuse

/-- The name and the value of an argument after its two dashes. -/
def splitValue (s : List Char) : String × Option String :=
  let name := s.takeWhile (· ≠ '=')
  match s.drop name.length with
  | _ :: value => (String.ofList name, some (String.ofList value))
  | [] => (String.ofList name, none)

/-- Reads the options at one place; gives them, the command and the arguments after it. -/
def readOptions (rules : ArgumentRules) (given : GivenOptions) :
    List String → Except Interruption (GivenOptions × Option (String × List String))
  | [] => .ok (given, none)
  | arg :: rest =>
    match arg.toList with
    | ['-', '-'] => if rest = [] then .ok (given, none) else .error .misuse
    | '-' :: '-' :: body =>
      let (name, value) := splitValue body
      match rules.options.lookup name, value with
      | none, _ => .error (wordRequest rules name value)
      | some .flag, none => do readOptions rules (← give name "" given) rest
      | some kind, some value =>
        if suits kind value then do readOptions rules (← give name value given) rest
        else .error .misuse
      | some kind, none =>
        match rest with
        | value :: rest =>
          if suits kind value ∧ isOption value = false then do
            readOptions rules (← give name value given) rest
          else .error .misuse
        | [] => .error .misuse
    | '-' :: c :: letters => .error (letterRequest rules (c :: letters))
    | _ =>
      if arg ∈ rules.commands then .ok (given, some (arg, rest))
      else if arg = "help" ∧ rules.commands ≠ [] then
        .error (match rest with
          | [] => .help
          | [topic] => if topic ∈ "help" :: rules.commands then .help else .misuse
          | _ => .misuse)
      else .error .misuse

end CommandLine

/-- A command line that asks for something to be done. -/
structure CommandLine where
  /-- The path of the settings file. -/
  config : String := "./config.toml"
  debug : Bool := false
  /-- Only checks the settings. -/
  checkConfig : Bool := false
  /-- Only shows the settings. -/
  printConfig : Bool := false
  job : Option Job := none
deriving Repr, DecidableEq

namespace CommandLine

/-- The job of a command with its options, if none that it needs is missing. -/
def job? (command : String) (given : GivenOptions) : Option Job :=
  let vmid := (given.lookup "vmid").bind guest?
  match command with
  | "backup" => (given.lookup "to").map fun target =>
    .backup target vmid (given.lookup "pool") (given.lookup "all").isSome
  | "restore" => (given.lookup "from").map fun source => .restore source vmid
  | "list" => some (.list (given.lookup "pool"))
  | "ping" => some .ping
  | _ => none

/-- What the options and the job amount to. -/
def ofGiven (given : GivenOptions) (job : Option Job) : CommandLine where
  config := (given.lookup "config").getD "./config.toml"
  debug := (given.lookup "debug").isSome
  checkConfig := (given.lookup "check-config").isSome
  printConfig := (given.lookup "print-config").isSome
  job := job

/-- Reads the arguments of the program. -/
def parse (args : List String) : Except Interruption CommandLine := do
  match ← readOptions .main [] args with
  | (given, none) => return ofGiven given none
  | (given, some (command, rest)) =>
    match ← readOptions (.forCommand command) [] rest with
    | (own, none) =>
      match job? command own with
      | some job => return ofGiven (own ++ given) (some job)
      | none => throw .misuse
    | (_, some _) => throw .misuse

end CommandLine

end GuestVault
