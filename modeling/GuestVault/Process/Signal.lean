import GuestVault.Process

/-!
# Signals

The signals of the operating system, and the two ways in which a process can end: with a code of its
own, or by a signal.
-/

namespace GuestVault

/-- A signal: its number, its name and its description. -/
structure Signal where
  number : Nat
  name : String
  description : String
deriving Repr, DecidableEq

namespace Signal

/-- The signals in the order of their numbers. -/
def all : List Signal :=
  [⟨1, "HUP", "Hangup"⟩, ⟨2, "INT", "Interrupt"⟩, ⟨3, "QUIT", "Quit"⟩,
    ⟨4, "ILL", "Illegal instruction"⟩, ⟨5, "TRAP", "Trace/breakpoint trap"⟩,
    ⟨6, "ABRT", "Aborted"⟩, ⟨7, "BUS", "Bus error"⟩, ⟨8, "FPE", "Floating point exception"⟩,
    ⟨9, "KILL", "Killed"⟩, ⟨10, "USR1", "User defined signal 1"⟩,
    ⟨11, "SEGV", "Segmentation fault"⟩, ⟨12, "USR2", "User defined signal 2"⟩,
    ⟨13, "PIPE", "Broken pipe"⟩, ⟨14, "ALRM", "Alarm clock"⟩, ⟨15, "TERM", "Terminated"⟩,
    ⟨16, "STKFLT", "Stack fault"⟩, ⟨17, "CHLD", "Child exited"⟩, ⟨18, "CONT", "Continued"⟩,
    ⟨19, "STOP", "Stopped (signal)"⟩, ⟨20, "TSTP", "Stopped"⟩,
    ⟨21, "TTIN", "Stopped (tty input)"⟩, ⟨22, "TTOU", "Stopped (tty output)"⟩,
    ⟨23, "URG", "Urgent I/O condition"⟩, ⟨24, "XCPU", "CPU time limit exceeded"⟩,
    ⟨25, "XFSZ", "File size limit exceeded"⟩, ⟨26, "VTALRM", "Virtual timer expired"⟩,
    ⟨27, "PROF", "Profiling timer expired"⟩, ⟨28, "WINCH", "Window changed"⟩,
    ⟨29, "IO", "I/O possible"⟩, ⟨30, "PWR", "Power failure"⟩, ⟨31, "SYS", "Bad system call"⟩]

/-- The signal with a number. -/
def ofNumber? (n : Nat) : Option Signal :=
  all.find? fun s => s.number = n

/-- The signal with a name. -/
def ofName? (name : String) : Option Signal :=
  all.find? fun s => s.name = name

/-- Processes do not mind the signal unless they ask for it. -/
def isHarmless (n : Nat) : Bool :=
  n = 17 || n = 18 || n = 23 || n = 28

/-- Writing where nobody listens. -/
def brokenPipe : Nat := 13

/-- Ends a process whether it likes or not. -/
def kill : Nat := 9

/-- The signal of the keyboard. -/
def interrupt : Nat := 2

end Signal

/-- How a process ended. -/
inductive Ending where
  | code (n : Nat)
  | signal (n : Nat)
deriving Repr, DecidableEq

namespace Ending

/-- An ending as it is reported. -/
def exit : Ending → Exit
  | .code n => .ofCode n
  | .signal n =>
    let name := match Signal.ofNumber? n with
      | some s => " (SIG" ++ s.name ++ ")"
      | none => ""
    .terminated ("signal: " ++ toString n ++ name)

/-- The status that a shell sees. -/
def status : Ending → Nat
  | .code n => n
  | .signal n => 128 + n

end Ending

end GuestVault
