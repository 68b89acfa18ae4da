import GuestVault.Text.Runs
import GuestVault.Text.Unprintable

/-!
# Quoted text

A text between double quotes in which everything that would not show, or would show wrongly, is
spelled out. Used where a message repeats a text that came from outside.
-/

namespace GuestVault.Text

/-- A digit of a hexadecimal number. -/
def hexDigit (n : Nat) : Char :=
  if n < 10 then Char.ofNat ('0'.toNat + n) else Char.ofNat ('a'.toNat + (n - 10))

/-- The hexadecimal digits of a number, without leading zeros. -/
def hexChars (n : Nat) : List Char :=
  if n < 16 then [hexDigit n] else hexChars (n / 16) ++ [hexDigit (n % 16)]

/-- How one character stands inside the quotes. -/
def quoteChar (c : Char) : List Char :=
  match c with
  | '\x00' => ['\\', '0']
  | '\t' => ['\\', 't']
  | '\n' => ['\\', 'n']
  | '\r' => ['\\', 'r']
  | '"' => ['\\', '"']
  | '\\' => ['\\', '\\']
  | c =>
    if inRuns unprintableRuns c.toNat then ['\\', 'u', '\x7b'] ++ hexChars c.toNat ++ ['\x7d']
    else [c]

/-- The text in double quotes. -/
def quoted (s : String) : String :=
  String.ofList ('"' :: s.toList.flatMap quoteChar ++ ['"'])

end GuestVault.Text
