/-!
# Tables of code points

Properties of characters are kept as ranges of code points. `inRanges` asks such a table.
-/

namespace OptIn.Text

/-- Whether a number lies in one of the ranges, ends included. -/
def inRanges (table : List (Nat × Nat)) (n : Nat) : Bool :=
  table.any fun r => r.1 ≤ n && n ≤ r.2

/-- A number is in a table exactly when some range of the table holds it. -/
theorem inRanges_iff {table : List (Nat × Nat)} {n : Nat} :
    inRanges table n = true ↔ ∃ r ∈ table, r.1 ≤ n ∧ n ≤ r.2 := by
  simp [inRanges]

end OptIn.Text
