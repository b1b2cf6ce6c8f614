import StructEdit.Key
import StructEdit.Text.Lowercase

/-!
# StructEdit.Key.Caption

The caption of a key press as it is shown to the user, such as `Ctrl+Backspace`
or `Shift+←`.
-/

namespace StructEdit

/-- The caption of a key; `?` for the keys that have none. -/
def KeyCode.caption : KeyCode → String
  | .enter => "Enter"
  | .backspace => "Backspace"
  | .delete => "Del"
  | .tab => "Tab"
  | .backTab => "BackTab"
  | .escape => "Esc"
  | .left => "←"
  | .right => "→"
  | .up => "↑"
  | .down => "↓"
  | .home => "Home"
  | .endKey => "End"
  | .pageUp => "PgUp"
  | .pageDown => "PgDn"
  | .char ' ' => "Space"
  | .char c => String.ofList [c]
  | .function n => "F" ++ toString n.toNat
  | _ => "?"

/-- Whether the caption of a key already shows that Shift is held: that of a
character does, unless the character is in lower case. -/
def KeyCode.showsShift : KeyCode → Bool
  | .char c => !Text.isLowercase c
  | _ => false

/-- The caption of a key press: the modifiers Control, Alt and Shift in this
order, then the key. -/
def Key.caption (k : Key) : String :=
  (if k.modifiers.control then "Ctrl+" else "") ++
  (if k.modifiers.alt then "Alt+" else "") ++
  (if k.modifiers.shift && !k.code.showsShift then "Shift+" else "") ++
  k.code.caption

end StructEdit
