import StructEdit.Key
import StructEdit.Text.Blank
import StructEdit.Text.Split

/-!
# StructEdit.Key.Spec

Key presses written as text, such as `ctrl+backspace`, `shift+left` or `5`: any
number of modifiers and one key, joined by plus signs. Words are compared without
regard to case, and blank space around them does not count.

The plus sign is a key too. It stands alone, or it follows a plus sign at the
very end of the text.
-/

namespace StructEdit

namespace Key

/-- The letter that stands for a character in a word. Besides the letters `A` to
`Z` only the kelvin sign has an ASCII letter as its lower case, so a word has a
given ASCII word as its lower case just when its letters spell it. -/
def letter (c : Char) : Char := if c = '\u212a' then 'k' else c.toLower

/-- Whether the lower case of a text is the given word. -/
def spells (word : String) (cs : List Char) : Bool := cs.map letter == word.toList

/-- The words for modifiers. -/
def modifierWords : List (String × Modifiers) :=
  [("ctrl", { control := true }), ("control", { control := true }), ("shift", { shift := true }),
   ("alt", { alt := true })]

/-- The words for keys. -/
def codeWords : List (String × KeyCode) :=
  [("enter", .enter), ("backspace", .backspace), ("delete", .delete), ("del", .delete),
   ("tab", .tab), ("backtab", .backTab), ("esc", .escape), ("escape", .escape),
   ("space", .char ' '), ("left", .left), ("right", .right), ("up", .up), ("down", .down),
   ("home", .home), ("end", .endKey), ("pageup", .pageUp), ("pagedown", .pageDown)]

/-- The modifier that a word names. -/
def modifier? (word : List Char) : Option Modifiers :=
  (modifierWords.find? fun w => spells w.1 word).map (·.2)

/-- The key that a word names; a single character names itself. -/
def code? (word : List Char) : Option KeyCode :=
  match codeWords.find? fun w => spells w.1 word with
  | some w => some w.2
  | none =>
    match word with
    | [c] => some (.char c)
    | _ => none

/-- The words of a key press: what stands between the plus signs. Two plus signs
at the end are one that joins and one that is the key. -/
def specWords (cs : List Char) : List (List Char) :=
  let words := (Text.pieces '+' cs).map Text.trim
  if ['+', '+'].isSuffixOf cs then words.dropLast.dropLast ++ [['+']] else words

/-- The key press of some words, the last of which is the key. -/
def ofWords? (words : List (List Char)) : Option Key := do
  let word ← words.getLast?
  let modifiers ← words.dropLast.mapM modifier?
  let code ← code? word
  some ⟨code, Modifiers.unionAll modifiers⟩

/-- The key press that a text writes. -/
def ofSpec? (spec : String) : Option Key :=
  if Text.trim spec.toList = ['+'] then some ⟨.char '+', .none⟩
  else ofWords? (specWords spec.toList)

end Key

end StructEdit
