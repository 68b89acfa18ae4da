/-!
# Lower case

Lowering for searches of ASCII phrases. Besides `A` to `Z`, only two characters have an ASCII
letter in their lower case: the Kelvin sign, and the dotted capital I, which becomes an `i` with a
combining dot. Every other character lowers to something that no ASCII phrase contains, so it may
stay as it is.
-/

namespace GuestVault.Text

/-- The lower case of a character, as far as ASCII phrases can tell. -/
def lowerChar (c : Char) : List Char :=
  if c = '\u212a' then ['k'] else if c = '\u0130' then ['i', '\u0307'] else [c.toLower]

/-- The lower case of a text, as far as ASCII phrases can tell. -/
def lower (s : List Char) : List Char :=
  s.flatMap lowerChar

/-- `part` occurs somewhere in the text. -/
def occursIn (part : List Char) : List Char → Bool
  | [] => part.isEmpty
  | c :: r => part.isPrefixOf (c :: r) || occursIn part r

end GuestVault.Text
