/-!
# StructEdit.Ladder

Ladders of rules. A rung has a name, a condition and what it gives; a ladder gives
what the first rung gives whose condition holds, and nothing after that rung is
looked at. Main statement: `first?_eq_some_iff`.
-/

namespace StructEdit

/-- A rule with a condition on `α` that gives a `β`. -/
structure Rung (α β : Type) where
  name : String
  applies : α → Bool
  result : α → β

namespace Rung

/-- The first rung of a ladder whose condition holds. -/
def first? (ladder : List (Rung α β)) (a : α) : Option (Rung α β) :=
  ladder.find? fun r => r.applies a

/-- A rung fires just when its condition holds and that of no earlier rung does. -/
theorem first?_eq_some_iff {ladder : List (Rung α β)} {a : α} {r : Rung α β} :
    first? ladder a = some r ↔
      r.applies a = true ∧
        ∃ above below, ladder = above ++ r :: below ∧ ∀ s ∈ above, s.applies a = false := by
  simp [first?, List.find?_eq_some_iff_append]

/-- No rung fires just when no condition holds. -/
theorem first?_eq_none_iff {ladder : List (Rung α β)} {a : α} :
    first? ladder a = none ↔ ∀ r ∈ ladder, r.applies a = false := by
  simp [first?, List.find?_eq_none]

end Rung

end StructEdit
