/-!
# Runs of code points

Membership in a property that is given as an ascending table of runs, by binary search.
-/

namespace GuestVault.Text

/-- Looks for the run that holds `n` among the runs `lo ≤ i < hi`, halving the range `fuel` times. -/
def searchRuns (runs : Array (Nat × Nat)) (n : Nat) : Nat → Nat → Nat → Bool
  | 0, _, _ => false
  | fuel + 1, lo, hi =>
    if lo < hi then
      let mid := (lo + hi) / 2
      match runs[mid]? with
      | none => false
      | some (first, last) =>
        if n < first then searchRuns runs n fuel lo mid
        else if last < n then searchRuns runs n fuel (mid + 1) hi
        else true
    else false

/-- The code point lies in one of the runs. -/
def inRuns (runs : Array (Nat × Nat)) (n : Nat) : Bool :=
  searchRuns runs n (runs.size + 1) 0 runs.size

end GuestVault.Text
