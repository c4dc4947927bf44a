/-! # Sets of code points given by ranges -/

namespace AsmDispatch.Text

/-- Inclusive ranges of code points. -/
abbrev Ranges := List (Nat × Nat)

def Ranges.has (rs : Ranges) (n : Nat) : Bool :=
  rs.any fun r => r.1 ≤ n && n ≤ r.2

@[simp] theorem Ranges.has_nil (n : Nat) : Ranges.has [] n = false := rfl

theorem Ranges.has_eq_true_iff {rs : Ranges} {n : Nat} :
    rs.has n = true ↔ ∃ r ∈ rs, r.1 ≤ n ∧ n ≤ r.2 := by
  simp [Ranges.has]

end AsmDispatch.Text
