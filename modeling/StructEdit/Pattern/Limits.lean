import StructEdit.Pattern.Parser
import StructEdit.Pattern.Size

/-!
# StructEdit.Pattern.Limits

Which patterns are put to use (`Pattern.parse?`): those that are well written, not
nested too deep, and not too large to look for.
-/

namespace StructEdit.Pattern

/-- How deep an expression may be nested. -/
def depthLimit : Nat := 250

/-- How many bytes the machines that look for a pattern may take each. -/
def sizeLimit : Nat := 10 * 1024 * 1024

/-- The pattern that a text writes, if it keeps to the limits. -/
def parse? (text : String) : Option Pattern := do
  let e ← Expression.parse? text
  if e.depth ≤ depthLimit then
    let p := e.pattern
    if p.programSize .forward ≤ sizeLimit ∧ p.programSize .backward ≤ sizeLimit then some p
    else none
  else none

end StructEdit.Pattern
