import GuestVault.Error

/-!
# Failures of a job

A job fails with a root cause and the circumstances it arose in, each a short text, outermost
first. The causes behind an error (`Error.source?`) belong to the same chain.
-/

namespace GuestVault

/-- Why a job, or a part of it, failed. -/
inductive Failure where
  | error (e : Error)
  | io (e : IoError)
  /-- A text that should be JSON of a certain shape is not. -/
  | json
  /-- The settings file cannot be read, or has a value of the wrong type. -/
  | settings
  | text (message : String)
  | context (message : String) (inner : Failure)
deriving Repr, DecidableEq

/-- One link of the chain of causes. -/
inductive Failure.Link where
  | text (message : String)
  | json
  | settings
deriving Repr, DecidableEq

mutual

/-- The texts from an input error on; a wrapped error is the same link as its wrapper. -/
def IoError.chain : IoError → List String
  | .wrapped e => e.chain
  | .os fault => [fault.message]
  | .plain kind => [kind.message]
  | .custom _ message => [message]

/-- The texts from an error on. -/
def Error.chain : Error → List String
  | .spawn program source => (Error.spawn program source).message :: source.chain
  | .io context source => (Error.io context source).message :: source.chain
  | .command program status diagnostic => [(Error.command program status diagnostic).message]
  | .session text => [(Error.session text).message]
  | .cancelled program diagnostic => [(Error.cancelled program diagnostic).message]
  | .parse text => [text]
  | .unsupportedVersion what version => [(Error.unsupportedVersion what version).message]
  | .validation text => [text]
  | .missingMetadata archive => [(Error.missingMetadata archive).message]
  | .missingArchive archive => [(Error.missingArchive archive).message]

end

namespace Failure

/-- The chain of causes, outermost first. -/
def links : Failure → List Link
  | error e => e.chain.map .text
  | io e => e.chain.map .text
  | json => [.json]
  | settings => [.settings]
  | text message => [.text message]
  | context message inner => .text message :: inner.links

/-- The wording of a link. -/
def Link.message : Link → String
  | .text message => message
  | .json => "invalid JSON"
  | .settings => "invalid settings file"

/-- The outermost text. -/
def message (f : Failure) : String :=
  match f.links with
  | l :: _ => l.message
  | [] => ""

/-- The whole chain on one line. -/
def fullMessage (f : Failure) : String :=
  ": ".intercalate (f.links.map Link.message)

/-- The causes as lines below each other, numbered if there are several. -/
def causeLines : List String → String
  | [cause] => "\n    " ++ cause
  | causes => String.join ((causes.zip (List.range causes.length)).map fun (cause, n) =>
      let number := toString n
      "\n" ++ String.ofList (List.replicate (5 - number.length) ' ') ++ number ++ ": " ++ cause)

/-- The outermost text, with the causes below it. -/
def detail (f : Failure) : String :=
  match f.links.map Link.message with
  | [] => ""
  | [message] => message
  | message :: causes => message ++ "\n\nCaused by:" ++ causeLines causes

/-- The first error of the chain. -/
def error? : Failure → Option Error
  | error e => some e
  | io (.wrapped e) => some e
  | context _ inner => inner.error?
  | _ => none

/-- An input error is part of the chain. -/
def hasIo : Failure → Bool
  | io _ => true
  | error e => e.source?.isSome
  | context _ inner => inner.hasIo
  | _ => false

end Failure

/-- Says in which circumstances a failure arose. -/
def inContext {α : Type} (message : String) : Except Failure α → Except Failure α
  | .ok a => .ok a
  | .error f => .error (.context message f)

/-- Says in which circumstances an error arose. -/
def errorInContext {α : Type} (message : String) : Except Error α → Except Failure α
  | .ok a => .ok a
  | .error e => .error (.context message (.error e))

end GuestVault
