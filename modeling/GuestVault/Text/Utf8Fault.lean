import GuestVault.Text.Utf8

/-!
# What keeps bytes from being a text

The first place where bytes break off from UTF-8: bytes that no text can contain there, or the end of
the input in the middle of a character.
-/

namespace GuestVault.Text

/-- The first thing that is wrong with some bytes. -/
inductive Utf8Fault where
  | invalid (length index : Nat)
  | incomplete (index : Nat)
deriving Repr, DecidableEq

/-- The wording of a fault. -/
def Utf8Fault.message : Utf8Fault → String
  | .invalid length index =>
    "invalid utf-8 sequence of " ++ toString length ++ " bytes from index " ++ toString index
  | .incomplete index => "incomplete utf-8 byte sequence from index " ++ toString index

/-- The first fault after `skip` bytes that are accounted for; the first byte has the given index. -/
def faultAfter : (skip index : Nat) → Bytes → Option Utf8Fault
  | _, _, [] => none
  | skip + 1, index, _ :: r => faultAfter skip (index + 1) r
  | 0, index, a :: r =>
    match leading a.toNat r with
    | (some _, n) => faultAfter n (index + 1) r
    | (none, n) =>
      if r.length = n ∧ 0xC2 ≤ a.toNat ∧ a.toNat ≤ 0xF4 then some (.incomplete index)
      else some (.invalid (n + 1) index)

/-- The text of some bytes, or what is wrong with them. -/
def checkUtf8 (bs : Bytes) : Except Utf8Fault String :=
  match faultAfter 0 0 bs with
  | none => .ok (lossy bs)
  | some fault => .error fault

end GuestVault.Text
