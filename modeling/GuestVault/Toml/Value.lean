import GuestVault.Double

/-!
# Settings values

The tree of a TOML text. Dates and times keep nothing but their normal text.
-/

namespace GuestVault

/-- A TOML value. -/
inductive Toml where
  | text (value : String)
  | integer (value : Int)
  | real (value : Double)
  | boolean (value : Bool)
  /-- A date, a time, or both. -/
  | moment (text : String)
  | array (items : List Toml)
  | table (members : List (String × Toml))

namespace Toml

/-- The value of a key. -/
def member? (key : String) : Toml → Option Toml
  | table members => members.lookup key
  | _ => none

end Toml

end GuestVault
