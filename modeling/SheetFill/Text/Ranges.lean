/-!
# Ranges of characters

Look-up of a number in inclusive ranges in increasing order.
-/
namespace SheetFill.Text

/-- Binary search for the range that holds `n` among those numbered from `lo` to before `hi`. -/
def inRangesFrom (ranges : Array (Nat × Nat)) (n : Nat) : (fuel lo hi : Nat) → Bool
  | 0, _, _ => false
  | fuel + 1, lo, hi =>
    if lo < hi then
      let mid := (lo + hi) / 2
      match ranges[mid]? with
      | none => false
      | some (first, last) =>
        if n < first then inRangesFrom ranges n fuel lo mid
        else if last < n then inRangesFrom ranges n fuel (mid + 1) hi
        else true
    else false

def inRanges (ranges : Array (Nat × Nat)) (n : Nat) : Bool :=
  inRangesFrom ranges n (ranges.size.log2 + 1) 0 ranges.size

end SheetFill.Text
