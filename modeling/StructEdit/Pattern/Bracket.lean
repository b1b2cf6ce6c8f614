import StructEdit.Pattern.AsciiClass
import StructEdit.Text.CaseFold

/-!
# StructEdit.Pattern.Bracket

What stands in the brackets of a character class: characters and ranges, classes that
are escaped or named, brackets in brackets, and operations on two sides. Each has a
set of characters (`Bracket.set`) and a depth to which it is nested (`Bracket.depth`).
-/

namespace StructEdit

open Text (CharSet)

/-- The depth of what is made of parts of the given depths. Of parts of which there is
only one nothing is made, it stands for itself. -/
def nest : List Nat → Nat
  | [] => 0
  | [depth] => depth
  | depths => depths.foldr Nat.max 0 + 1

/-- An operation on two sets. -/
inductive SetOperation where
  | inter
  | diff
  | symmDiff
deriving DecidableEq

/-- The set that an operation makes. -/
def SetOperation.apply : SetOperation → CharSet → CharSet → CharSet
  | inter => CharSet.inter
  | diff => CharSet.diff
  | symmDiff => CharSet.symmDiff

/-- The content of a pair of brackets. -/
inductive Bracket where
  /-- The characters from one to another, which may be the same. -/
  | chars (first last : Char)
  /-- A class that an escape stands for. -/
  | escaped (set : CharSet)
  | named (name : AsciiClass) (negated : Bool)
  /-- Brackets in brackets. -/
  | nested (content : Bracket) (negated : Bool)
  /-- All that is in one of some items. -/
  | items (items : List Bracket)
  | operation (op : SetOperation) (left right : Bracket)

namespace Bracket

mutual

/-- How deep a content is nested. -/
def depth : Bracket → Nat
  | chars _ _ | escaped _ | named _ _ => 0
  | nested content _ => content.depth + 1
  | items is => nest (depths is)
  | operation _ left right => Nat.max left.depth right.depth + 1

/-- How deep each of some contents is nested. -/
def depths : List Bracket → List Nat
  | [] => []
  | i :: is => i.depth :: depths is

end

/-- A set as it is or, where it is negated, what does not belong to it. -/
def select (negated : Bool) (s : CharSet) : CharSet := if negated then s.complement else s

mutual

/-- The characters of a content. Where case has no regard, characters and classes come
with their variants; so does all that is made of them, since no operation tells
variants of the same characters from each other. -/
def set (caseless : Bool) : Bracket → CharSet
  | chars first last => (CharSet.range first.toNat last.toNat).withVariants caseless
  | escaped s => s.withVariants caseless
  | named name negated => select negated (name.set.withVariants caseless)
  | nested content negated => select negated (content.set caseless)
  | items is => .unionAll (sets caseless is)
  | operation op left right => op.apply (left.set caseless) (right.set caseless)

/-- The characters of each of some contents. -/
def sets (caseless : Bool) : List Bracket → List CharSet
  | [] => []
  | i :: is => i.set caseless :: sets caseless is

end

end Bracket

end StructEdit
