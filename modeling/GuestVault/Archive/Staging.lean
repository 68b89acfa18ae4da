import GuestVault.Archive.Name

/-!
# Staging names

The restore tools insist on the naming scheme of the dump tool, so an incoming archive is staged
under a fresh name of that scheme. Only its tail survives, the extension and an optional
compression, and only if the first place that looks like the extension starts such a tail.
-/

namespace GuestVault

open GuestVault.Text

/-- A character that a compression suffix may have, in lower case. -/
def isSuffixChar (c : Char) : Bool :=
  ('a' ≤ c && c ≤ 'z') || ('0' ≤ c && c ≤ '9')

/-- A tail in lower case is an extension, alone or followed by one dotted suffix. -/
def isArchiveTail (s : List Char) : Bool :=
  let rest? := (dropFront? ".vma".toList s).or (dropFront? ".tar".toList s)
  match rest? with
  | some [] => true
  | some ('.' :: c :: r) => (c :: r).all isSuffixChar
  | _ => false

/-- The text from the first place on where it reads like `ext` in any case. -/
def tailFrom? (ext : List Char) : List Char → Option (List Char)
  | [] => none
  | c :: r =>
    if ext.isPrefixOf ((c :: r).map Char.toLower) then some (c :: r) else tailFrom? ext r

/-- The tail of a name that staging keeps, or the bare extension of the kind. -/
def keptTail (archive : String) (kind : Kind) : String :=
  let ext := "." ++ kind.extension
  match tailFrom? ext.toList (baseChars archive.toList) with
  | some tail => if isArchiveTail (tail.map Char.toLower) then String.ofList tail else ext
  | none => ext

/-- The name under which an archive is staged. -/
def stagingName (archive : String) (kind : Kind) (vmid : Nat) (now : Time.Moment) : String :=
  "vzdump-" ++ kind.name ++ "-" ++ toString vmid ++ "-" ++ now.stamp ++ keptTail archive kind

end GuestVault
