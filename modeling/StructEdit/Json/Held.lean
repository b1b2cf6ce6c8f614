import StructEdit.Json

/-!
# StructEdit.Json.Held

Values that are held before it is known what they are to be read as. Not every value
can be held (`Json.isHoldable`), while any value can be skipped; and what is held of an
empty object may also stand for nothing (`Json.settled`).
-/

namespace StructEdit.Json

mutual

/-- How many arrays and objects lie inside each other in a value. -/
def depth : Json → Nat
  | array items => depthOfItems items + 1
  | object members => depthOfMembers members + 1
  | _ => 0

/-- How many lie inside each other in one of some items. -/
def depthOfItems : List Json → Nat
  | [] => 0
  | j :: js => Nat.max j.depth (depthOfItems js)

/-- How many lie inside each other in one of some members. -/
def depthOfMembers : List (String × Json) → Nat
  | [] => 0
  | (_, j) :: ms => Nat.max j.depth (depthOfMembers ms)

end

mutual

/-- Whether all strings of a value are whole and all its numerals are in range, which
numbers of 64 bits always are. -/
def isSound : Json → Bool
  | null | bool _ | string _ => true
  | natural n => n < UInt64.size || (Numeral.ofNat n).inRange
  | numeral n => n.inRange
  | broken _ => false
  | array items => areSound items
  | object members => areSoundMembers members

/-- Whether all of some items are sound. -/
def areSound : List Json → Bool
  | [] => true
  | j :: js => j.isSound && areSound js

/-- Whether the values of all of some members are sound. -/
def areSoundMembers : List (String × Json) → Bool
  | [] => true
  | (_, j) :: ms => j.isSound && areSoundMembers ms

end

/-- How many arrays and objects may lie inside each other in a text that is held. -/
def depthLimit : Nat := 127

/-- Whether a value can be held that has `outer` arrays and objects around it. -/
def isHoldable (outer : Nat) (j : Json) : Bool := j.isSound && outer + j.depth ≤ depthLimit

/-- Members with null in place of an empty object, if that is the only one. -/
def nullForEmpty : List (String × Json) → List (String × Json)
  | [(name, object [])] => [(name, null)]
  | members => members

mutual

/-- A value in which an empty object as the only member of another one stands for
null. -/
def settled : Json → Json
  | array items => array (settledItems items)
  | object members => object (nullForEmpty (settledMembers members))
  | j => j

/-- Items with each of them settled. -/
def settledItems : List Json → List Json
  | [] => []
  | j :: js => j.settled :: settledItems js

/-- Members with each of their values settled. -/
def settledMembers : List (String × Json) → List (String × Json)
  | [] => []
  | (name, j) :: ms => (name, j.settled) :: settledMembers ms

end

end StructEdit.Json
