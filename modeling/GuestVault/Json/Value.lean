import GuestVault.Text.Number

/-!
# JSON values

The tree of a JSON text. A number keeps its digits as they were written, a string may hold escapes
or bytes that are no text, and an object keeps its members in order and with their repetitions:
what a reader of a value looks at decides whether any of these is a mistake.
-/

namespace GuestVault

open GuestVault.Text

/-- A JSON value. -/
inductive Json where
  | null
  | bool (value : Bool)
  /-- A number as written. -/
  | number (digits : List Char)
  /-- A string; `none` if it is no text. -/
  | string (text : Option String)
  | array (items : List Json)
  | object (members : List (Option String × Json))

namespace Json

/-- The object with the given members. -/
def ofMembers (members : List (String × Json)) : Json :=
  object (members.map fun (k, v) => (some k, v))

/-- The number for an integer. -/
def ofInt (n : Int) : Json := number (toString n).toList

/-- The string for a text. -/
def ofText (s : String) : Json := string (some s)

/-! ## Reading values of a known type -/

/-- The text of a string. -/
def text? : Json → Option String
  | string t => t
  | _ => none

/-- The integer that a number names: no fraction, no exponent, and no negative zero. -/
def int? : Json → Option Int
  | number ('-' :: ds) =>
    if ds.all (fun c => (digit? c).isSome) && ds ≠ ['0'] then some (-(digitsValue ds : Int))
    else none
  | number ds => if ds.all (fun c => (digit? c).isSome) then some (digitsValue ds) else none
  | _ => none

/-- An integer from `0` to `bound`. -/
def nat? (bound : Nat) (j : Json) : Option Nat :=
  match j.int? with
  | some (.ofNat n) => if n ≤ bound then some n else none
  | _ => none

/-- A signed 64-bit integer. -/
def int64? (j : Json) : Option Int :=
  match j.int? with
  | some n => if -(Int.pow 2 63) ≤ n ∧ n < Int.pow 2 63 then some n else none
  | none => none

/-- A list of values of a known type. -/
def list? {α : Type} (item? : Json → Option α) : Json → Option (List α)
  | array items => items.mapM item?
  | _ => none

/-- Absent where `null` stands. -/
def optional? {α : Type} (value? : Json → Option α) : Json → Option (Option α)
  | null => some none
  | j => (value? j).map some

/-! ## Records -/

/-- The values under a key. -/
def valuesAt (key : String) (members : List (Option String × Json)) : List Json :=
  members.filterMap fun (k, v) => if k = some key then some v else none

/-- The fields of a record, in the order of `names`, each present or not. An object must not
repeat a field; other members are skipped. An array gives the first fields by position. -/
def record? (names : List String) : Json → Option (List (Option Json))
  | object members =>
    if members.all (fun m => m.1.isSome) then
      names.mapM fun name =>
        match valuesAt name members with
        | [] => some none
        | [v] => some (some v)
        | _ => none
    else none
  | array items =>
    if items.length ≤ names.length then
      some (items.map some ++ List.replicate (names.length - items.length) none)
    else none
  | _ => none

/-- A field that may be absent. -/
def fieldOr {α : Type} (default : α) (value? : Json → Option α) : Option Json → Option α
  | none => some default
  | some j => value? j

end Json

end GuestVault
