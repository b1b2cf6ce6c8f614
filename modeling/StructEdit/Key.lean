import StructEdit.Named

/-!
# StructEdit.Key

Key presses: the key, the modifier keys held with it, and the class that decides
which ladder of rules handles it.
-/

namespace StructEdit

/-- A key of the keyboard, or the character it stands for. Keys that control media and
modifier keys pressed on their own are left out: like `pause` or `menu` they belong to no
class and have no caption of their own. -/
inductive KeyCode where
  | backspace
  | enter
  | left
  | right
  | up
  | down
  | home
  | endKey
  | pageUp
  | pageDown
  | tab
  | backTab
  | delete
  | insert
  | null
  | escape
  | capsLock
  | scrollLock
  | numLock
  | printScreen
  | pause
  | menu
  | keypadBegin
  | char (value : Char)
  | function (number : UInt8)
deriving DecidableEq

/-- The modifier keys that are held down. -/
structure Modifiers where
  shift : Bool := false
  control : Bool := false
  alt : Bool := false
  superKey : Bool := false
  hyperKey : Bool := false
  metaKey : Bool := false
deriving DecidableEq

namespace Modifiers

/-- No modifier. -/
def none : Modifiers := {}

/-- The modifiers held in either. -/
def union (a b : Modifiers) : Modifiers where
  shift := a.shift || b.shift
  control := a.control || b.control
  alt := a.alt || b.alt
  superKey := a.superKey || b.superKey
  hyperKey := a.hyperKey || b.hyperKey
  metaKey := a.metaKey || b.metaKey

/-- The modifiers held in any of a list. -/
def unionAll (ms : List Modifiers) : Modifiers := ms.foldr union none

theorem union_comm (a b : Modifiers) : a.union b = b.union a := by
  simp [union, Bool.or_comm]

theorem union_assoc (a b c : Modifiers) : (a.union b).union c = a.union (b.union c) := by
  simp [union, Bool.or_assoc]

@[simp]
theorem union_self (a : Modifiers) : a.union a = a := by
  simp [union]

@[simp]
theorem union_none (a : Modifiers) : a.union none = a := by
  simp [union, none]

/-- Whether no modifier besides Shift is held. -/
def isPlain (m : Modifiers) : Bool := { m with shift := false } == none

end Modifiers

/-- A key press. -/
structure Key where
  code : KeyCode
  modifiers : Modifiers := {}
deriving DecidableEq

/-- The classes of keys that are handled by a ladder of rules. -/
inductive KeyClass where
  | up
  | down
  | left
  | right
  | home
  | endKey
  | delete
  | backspace
  | tab
  | backTab
  | enter
  | escape
  /-- A character key, with or without modifiers. -/
  | printable
deriving DecidableEq

instance : Named KeyClass where
  all := [.up, .down, .left, .right, .home, .endKey, .delete, .backspace, .tab, .backTab, .enter,
    .escape, .printable]
  name
    | .up => "up"
    | .down => "down"
    | .left => "left"
    | .right => "right"
    | .home => "home"
    | .endKey => "end"
    | .delete => "delete"
    | .backspace => "backspace"
    | .tab => "tab"
    | .backTab => "back_tab"
    | .enter => "enter"
    | .escape => "escape"
    | .printable => "printable"
  mem_all a := by cases a <;> decide
  find_name := by decide +kernel

namespace Key

/-- The class of a key; the function keys, the paging keys and the like have none.
Tab with Shift is the key that tabs back. -/
def class? (k : Key) : Option KeyClass :=
  match k.code with
  | .up => some .up
  | .down => some .down
  | .left => some .left
  | .right => some .right
  | .home => some .home
  | .endKey => some .endKey
  | .delete => some .delete
  | .backspace => some .backspace
  | .tab => some (if k.modifiers.shift then .backTab else .tab)
  | .backTab => some .backTab
  | .enter => some .enter
  | .escape => some .escape
  | .char _ => some .printable
  | _ => none

/-- The character of a character key, whatever is held with it. -/
def char? (k : Key) : Option Char :=
  match k.code with
  | .char c => some c
  | _ => none

/-- The character that a key types: that of a character key with no modifier but
Shift. -/
def typed? (k : Key) : Option Char := if k.modifiers.isPlain then k.char? else none

theorem char?_eq_some_iff {k : Key} {c : Char} : k.char? = some c ↔ k.code = .char c := by
  unfold char?
  split <;> simp_all

theorem class?_eq_printable_iff {k : Key} : k.class? = some .printable ↔ ∃ c, k.code = .char c := by
  unfold class?
  split <;> simp_all
  split <;> simp

end Key

end StructEdit
