/-!
Sets of characters given by ranges of code points. The property tables of this library are such
sets; membership is the only question asked of them.
-/

namespace Tabula.Text

/-- A set of characters as closed ranges of code points. -/
abbrev Ranges := List (Nat × Nat)

def Ranges.has (rs : Ranges) (c : Char) : Bool :=
  rs.any fun r => r.1 ≤ c.toNat && c.toNat ≤ r.2

theorem Ranges.has_iff {rs : Ranges} {c : Char} :
    rs.has c = true ↔ ∃ r ∈ rs, r.1 ≤ c.toNat ∧ c.toNat ≤ r.2 := by
  simp [Ranges.has]

end Tabula.Text
