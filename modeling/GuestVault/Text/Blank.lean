/-!
# Blank characters

The white space of plain text: which characters count, cutting it off both ends of a text, and
the words that stand between it.
-/

namespace GuestVault.Text

/-- The characters with the Unicode property `White_Space`. -/
def isBlank (c : Char) : Bool :=
  let n := c.toNat
  (9 ≤ n && n ≤ 13) || n == 0x20 || n == 0x85 || n == 0xA0 || n == 0x1680 ||
    (0x2000 ≤ n && n ≤ 0x200A) || n == 0x2028 || n == 0x2029 || n == 0x202F || n == 0x205F ||
    n == 0x3000

/-- A text without the blanks at its two ends. -/
def trimChars (s : List Char) : List Char :=
  ((s.dropWhile isBlank).reverse.dropWhile isBlank).reverse

/-- A text without the blanks at its two ends. -/
def trim (s : String) : String :=
  String.ofList (trimChars s.toList)

/-- The pieces of a text between the characters that satisfy `p`; there is always at least one. -/
def segments (p : Char → Bool) : List Char → List (List Char)
  | [] => [[]]
  | c :: r =>
    if p c then [] :: segments p r
    else
      match segments p r with
      | [] => [[c]]
      | w :: ws => (c :: w) :: ws

/-- The words of a text: its longest pieces without a blank. -/
def words (s : String) : List String :=
  ((segments isBlank s.toList).filter (· ≠ [])).map String.ofList

/-- The lines of a text, ended by a line feed; a last line may do without, and a carriage return
before the line feed belongs to the ending. -/
def lines (s : String) : List String :=
  let pieces := segments (· == '\n') s.toList
  let pieces := if pieces.getLast? = some [] then pieces.dropLast else pieces
  pieces.map fun l => String.ofList (if l.getLast? = some '\r' then l.dropLast else l)

/-- An optional text, trimmed; a blank one counts as absent. -/
def trimmed? (s : Option String) : Option String :=
  (s.map trim).filter (· ≠ "")

end GuestVault.Text
