import GuestVault.Json.Value
import GuestVault.Text.Quoted

/-!
# Writing JSON

The compact text of a value: no white space, members in order, and only the escapes that JSON
demands.
-/

namespace GuestVault.Json

open GuestVault.Text

/-- How a character stands in a string. -/
def escapeChar (c : Char) : List Char :=
  if c = '"' then ['\\', '"']
  else if c = '\\' then ['\\', '\\']
  else if c = '\x08' then ['\\', 'b']
  else if c = '\x0c' then ['\\', 'f']
  else if c = '\n' then ['\\', 'n']
  else if c = '\r' then ['\\', 'r']
  else if c = '\t' then ['\\', 't']
  else if c.toNat < 0x20 then
    ['\\', 'u', '0', '0', hexDigit (c.toNat / 16), hexDigit (c.toNat % 16)]
  else [c]

/-- A string in quotes. -/
def stringChars (s : String) : List Char :=
  '"' :: s.toList.flatMap escapeChar ++ ['"']

mutual

/-- The text of a value; a string that is no text is written empty. -/
def chars : Json → List Char
  | null => "null".toList
  | bool true => "true".toList
  | bool false => "false".toList
  | number digits => digits
  | string text => stringChars (text.getD "")
  | array items => '[' :: itemChars items ++ [']']
  | object members => '\x7b' :: memberChars members ++ ['\x7d']

/-- The items of an array, separated by commas. -/
def itemChars : List Json → List Char
  | [] => []
  | [x] => chars x
  | x :: xs => chars x ++ ',' :: itemChars xs

/-- The members of an object, separated by commas. -/
def memberChars : List (Option String × Json) → List Char
  | [] => []
  | [(k, v)] => stringChars (k.getD "") ++ ':' :: chars v
  | (k, v) :: ms => stringChars (k.getD "") ++ ':' :: chars v ++ ',' :: memberChars ms

end

/-- The text of a value. -/
def render (j : Json) : String := String.ofList j.chars

end GuestVault.Json
