/-!
# StructEdit.Text.Ranges

A set of characters written as a list of ranges of code points, both ends
included. The tables of the character properties, such as
`StructEdit.Text.Lowercase` and `StructEdit.Text.Digit`, are values of this type.
-/

namespace StructEdit.Text

/-- Ranges of code points, each with its first and its last member. -/
abbrev Ranges := List (Nat × Nat)

/-- A character is in the set when its code point lies in one of the ranges. -/
def Ranges.contains (rs : Ranges) (c : Char) : Bool :=
  rs.any fun r => r.1 ≤ c.toNat && c.toNat ≤ r.2

@[simp]
theorem Ranges.contains_nil (c : Char) : Ranges.contains [] c = false := rfl

theorem Ranges.contains_cons (r : Nat × Nat) (rs : Ranges) (c : Char) :
    Ranges.contains (r :: rs) c = (r.1 ≤ c.toNat && c.toNat ≤ r.2 || rs.contains c) := rfl

theorem Ranges.contains_cons_iff {r : Nat × Nat} {rs : Ranges} {c : Char} :
    Ranges.contains (r :: rs) c = true ↔
      r.1 ≤ c.toNat ∧ c.toNat ≤ r.2 ∨ rs.contains c = true := by
  simp [contains_cons]

theorem Ranges.contains_append (rs ss : Ranges) (c : Char) :
    Ranges.contains (rs ++ ss) c = (Ranges.contains rs c || Ranges.contains ss c) := by
  simp [Ranges.contains, List.any_append]

end StructEdit.Text
