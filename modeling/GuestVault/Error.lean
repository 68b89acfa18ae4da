/-!
# Errors

What can go wrong while commands run, files move and names are read. An `Error` may stand inside
an `IoError`, because a stream reports the failure of its command to whoever reads it as an input
error; `Error.ofIo` takes it out again, and `Error.ofIo_toIo` says that nothing is lost.
-/

namespace GuestVault

/-- The kinds of input and output errors that a reader may have to tell apart. -/
inductive IoKind where
  | notFound
  | permissionDenied
  | connectionRefused
  | connectionReset
  | brokenPipe
  | alreadyExists
  | wouldBlock
  | invalidInput
  | invalidData
  | timedOut
  | writeZero
  | interrupted
  | unexpectedEof
  | other
deriving Repr, DecidableEq

/-- The wording of an error that has a kind and nothing else. -/
def IoKind.message : IoKind → String
  | .notFound => "entity not found"
  | .permissionDenied => "permission denied"
  | .connectionRefused => "connection refused"
  | .connectionReset => "connection reset"
  | .brokenPipe => "broken pipe"
  | .alreadyExists => "entity already exists"
  | .wouldBlock => "operation would block"
  | .invalidInput => "invalid input parameter"
  | .invalidData => "invalid data"
  | .timedOut => "timed out"
  | .writeZero => "write zero"
  | .interrupted => "operation interrupted"
  | .unexpectedEof => "unexpected end of file"
  | .other => "other error"

/-- The refusals of the operating system. -/
inductive OsFault where
  | noEntry
  | execFormat
  | badDescriptor
  | accessDenied
  | busy
  | exists
  | notDirectory
  | isDirectory
  | invalidArgument
  | noSpace
  | nameTooLong
  | notEmpty
  | linkLoop
  | networkUnreachable
deriving Repr, DecidableEq

/-- The number of a refusal. -/
def OsFault.code : OsFault → Nat
  | .noEntry => 2
  | .execFormat => 8
  | .badDescriptor => 9
  | .accessDenied => 13
  | .busy => 16
  | .exists => 17
  | .notDirectory => 20
  | .isDirectory => 21
  | .invalidArgument => 22
  | .noSpace => 28
  | .nameTooLong => 36
  | .notEmpty => 39
  | .linkLoop => 40
  | .networkUnreachable => 101

/-- The description of a refusal. -/
def OsFault.description : OsFault → String
  | .noEntry => "No such file or directory"
  | .execFormat => "Exec format error"
  | .badDescriptor => "Bad file descriptor"
  | .accessDenied => "Permission denied"
  | .busy => "Device or resource busy"
  | .exists => "File exists"
  | .notDirectory => "Not a directory"
  | .isDirectory => "Is a directory"
  | .invalidArgument => "Invalid argument"
  | .noSpace => "No space left on device"
  | .nameTooLong => "File name too long"
  | .notEmpty => "Directory not empty"
  | .linkLoop => "Too many levels of symbolic links"
  | .networkUnreachable => "Network is unreachable"

/-- The wording of a refusal. -/
def OsFault.message (f : OsFault) : String :=
  f.description ++ " (os error " ++ toString f.code ++ ")"

/-- What carries a version number that can be too new. -/
inductive Versioned where
  | archiveName
  | metadata
deriving Repr, DecidableEq

/-- The name of a versioned thing in messages. -/
def Versioned.name : Versioned → String
  | .archiveName => "vzdump filename"
  | .metadata => "metadata"

mutual

/-- An error of an input or output operation. -/
inductive IoError where
  | os (fault : OsFault)
  | plain (kind : IoKind)
  | custom (kind : IoKind) (message : String)
  /-- The failure of the command whose output was being read. -/
  | wrapped (error : Error)
deriving Repr, DecidableEq

/-- An error of the execution, capture and restore layers. -/
inductive Error where
  /-- The command ended, but not well. -/
  | command (program status diagnostic : String)
  | spawn (program : String) (source : IoError)
  | session (text : String)
  | io (context : String) (source : IoError)
  | cancelled (program diagnostic : String)
  | parse (text : String)
  | unsupportedVersion (what : Versioned) (version : Nat)
  | validation (text : String)
  | missingMetadata (archive : String)
  | missingArchive (archive : String)
deriving Repr, DecidableEq

end

/-- The operating system is not asked about a path that holds NUL, which would end it. -/
def IoError.nulInPath : IoError :=
  .custom .invalidInput "file name contained an unexpected NUL byte"

mutual

/-- The wording of an input or output error. -/
def IoError.message : IoError → String
  | .os fault => fault.message
  | .plain kind => kind.message
  | .custom _ message => message
  | .wrapped error => error.message

/-- The wording of an error. -/
def Error.message : Error → String
  | .command program status diagnostic => program ++ " failed: " ++ status ++ ": " ++ diagnostic
  | .spawn program source => "spawn " ++ program ++ ": " ++ source.message
  | .session text => "ssh session: " ++ text
  | .io context source => context ++ ": " ++ source.message
  | .cancelled program diagnostic => program ++ " cancelled: " ++ diagnostic
  | .parse text => text
  | .unsupportedVersion what version =>
    "unsupported " ++ what.name ++ " version: " ++ toString version
  | .validation text => text
  | .missingMetadata archive => "missing metadata for archive " ++ archive
  | .missingArchive archive => "missing archive for metadata " ++ archive

end

/-! ## Questions about errors -/

/-- The operation was only interrupted and may be repeated. -/
def IoError.isInterrupted : IoError → Bool
  | .plain .interrupted => true
  | .custom .interrupted _ => true
  | _ => false

/-- The operation would have had to wait. -/
def IoError.isWouldBlock : IoError → Bool
  | .plain .wouldBlock => true
  | .custom .wouldBlock _ => true
  | _ => false

/-- The trimmed side-channel text that the failure of a command carries. -/
def Error.diagnostic? : Error → Option String
  | .command _ _ diagnostic => some diagnostic
  | .cancelled _ diagnostic => some diagnostic
  | _ => none

/-- The error came from running commands or moving bytes, not from what they said. -/
def Error.isTransport : Error → Bool
  | .command .. | .spawn .. | .session _ | .io .. | .cancelled .. => true
  | _ => false

/-- The input error behind an error. -/
def Error.source? : Error → Option IoError
  | .spawn _ source => some source
  | .io _ source => some source
  | _ => none

/-! ## To input errors and back -/

/-- An error as the reader of a stream sees it. -/
def Error.toIo (e : Error) : IoError := .wrapped e

/-- The error behind an input error: the one it wraps, or an input error without a context of its
own. -/
def Error.ofIo : IoError → Error
  | .wrapped e => e
  | e => .io "io" e

@[simp] theorem Error.ofIo_toIo (e : Error) : Error.ofIo e.toIo = e := rfl

@[simp] theorem Error.message_toIo (e : Error) : e.toIo.message = e.message := by
  simp [Error.toIo, IoError.message]

@[simp] theorem Error.isInterrupted_toIo (e : Error) : e.toIo.isInterrupted = false := rfl

end GuestVault
