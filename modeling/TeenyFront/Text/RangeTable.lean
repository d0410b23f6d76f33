/-!
# Range tables

A set of characters is kept as the list of its closed ranges of code points.
-/

set_option autoImplicit false

namespace TeenyFront.Text

structure RangeTable where
  ranges : List (Nat × Nat)

namespace RangeTable

def contains (t : RangeTable) (c : Char) : Bool :=
  t.ranges.any fun r => r.1 ≤ c.toNat && c.toNat ≤ r.2

theorem contains_iff (t : RangeTable) (c : Char) :
    t.contains c = true ↔ ∃ r ∈ t.ranges, r.1 ≤ c.toNat ∧ c.toNat ≤ r.2 := by
  simp [contains]

end RangeTable

end TeenyFront.Text
