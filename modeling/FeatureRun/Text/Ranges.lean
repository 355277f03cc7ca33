/-!
Sets of characters as closed ranges of code points, with one lookup. All tables follow Unicode 14.
-/
namespace FeatureRun.Text

/-- Closed ranges of code points, ascending and apart. -/
abbrev Ranges := List (Nat × Nat)

/-- Some range holds the code point. -/
def Ranges.holds (rs : Ranges) (n : Nat) : Bool := rs.any fun r => r.1 ≤ n && n ≤ r.2

theorem Ranges.holds_iff {rs : Ranges} {n : Nat} :
    rs.holds n = true ↔ ∃ r ∈ rs, r.1 ≤ n ∧ n ≤ r.2 := by
  simp [Ranges.holds]

end FeatureRun.Text
