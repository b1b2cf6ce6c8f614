import StructEdit.Pattern
import StructEdit.Pattern.Bracket

/-!
# StructEdit.Pattern.Expression

Patterns as they are written: a tree of what stands in the text, with groups that
remember nothing, flags, and repetitions in any number. An expression has a depth to
which it is nested (`Expression.depth`) and a meaning, the pattern that it writes
(`Expression.pattern`).
-/

namespace StructEdit

open Text (CharSet)

/-- A pattern as it is written. -/
inductive Expression where
  /-- Nothing, or a flag, which only has a bearing on what stands behind it. -/
  | empty
  | char (c : Char) (caseless : Bool)
  /-- A point, which stands for any character but a line feed. -/
  | point
  | textStart
  | textEnd
  /-- A class that an escape stands for. -/
  | escaped (set : CharSet)
  | bracket (content : Bracket) (negated caseless : Bool)
  /-- A group; without a number if it remembers nothing. -/
  | group (number : Option Nat) (body : Expression)
  | repetition (body : Expression) (min : Nat) (max : Option Nat) (greedy : Bool)
  | sequence (parts : List Expression)
  | alternatives (branches : List Expression)

namespace Expression

mutual

/-- How deep an expression is nested. -/
def depth : Expression → Nat
  | empty | char _ _ | point | textStart | textEnd | escaped _ => 0
  | bracket content _ _ => content.depth + 1
  | group _ e => e.depth + 1
  | repetition e _ _ _ => e.depth + 1
  | sequence es => nest (depths es)
  | alternatives es => nest (depths es)

/-- How deep each of some expressions is nested. -/
def depths : List Expression → List Nat
  | [] => []
  | e :: es => e.depth :: depths es

end

mutual

/-- The pattern that an expression writes. -/
def pattern : Expression → Pattern
  | empty => .empty
  | char c caseless => .ofSet ((CharSet.single c).withVariants caseless)
  | point => .ofSet (CharSet.single '\n').complement
  | textStart => .textStart
  | textEnd => .textEnd
  | escaped set => .ofSet set
  | bracket content negated caseless => .ofSet (Bracket.select negated (content.set caseless))
  | group none e => e.pattern
  | group (some number) e => .group number e.pattern
  | repetition e min max greedy => .repeated e.pattern min max greedy
  | sequence es => .sequence (patterns es)
  | alternatives es => .alternatives (patterns es)

/-- The patterns that some expressions write. -/
def patterns : List Expression → List Pattern
  | [] => []
  | e :: es => e.pattern :: patterns es

end

end Expression

end StructEdit
