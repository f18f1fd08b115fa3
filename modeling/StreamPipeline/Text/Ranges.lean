/-! # Character ranges

A class of characters is a list of closed ranges of code points.
-/

namespace StreamPipeline.Text

abbrev Ranges := List (Nat × Nat)

namespace Ranges

def contains (r : Ranges) (c : Char) : Bool :=
  r.any fun p => decide (p.1 ≤ c.toNat) && decide (c.toNat ≤ p.2)

theorem contains_iff {r : Ranges} {c : Char} :
    r.contains c = true ↔ ∃ p ∈ r, p.1 ≤ c.toNat ∧ c.toNat ≤ p.2 := by
  simp [contains]

end Ranges

end StreamPipeline.Text
