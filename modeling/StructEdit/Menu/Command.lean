import StructEdit.Menu.Controller

/-!
# StructEdit.Menu.Command

The operations on the menus of an editor as values, so that sequences of them
can be given and spoken about.
-/

namespace StructEdit

/-- An operation on the menus. -/
inductive MenuCommand where
  | build (entries : Entries) (rootKey : String) (actions : String → Option Selection)
      (anchor : Anchor)
  | buildFlat (suggestions : List String) (actions : String → Option Selection) (anchor : Anchor)
  | buildAvailable (suggestions : List String) (actions : String → Option Selection)
      (anchor : Anchor)
  | remove
  | toggleRoot
  | focusBelow
  | focusAbove
  | focus (menu : MenuId) (option : Nat)
  | openSubMenu
  | closeSubMenu
  | select

/-- The answer of an operation: nothing, whether it was done, or what is selected. -/
inductive MenuReply where
  | done
  | flag (value : Bool)
  | selection (value : Option Selection)
deriving DecidableEq

namespace MenuCommand

/-- Does an operation. -/
def run (cmd : MenuCommand) (c : MenuController) : MenuReply × MenuController :=
  match cmd with
  | build entries rootKey actions anchor =>
    let r := c.build entries rootKey actions anchor
    (.flag r.1, r.2)
  | buildFlat suggestions actions anchor =>
    let r := c.buildFlat suggestions actions anchor
    (.flag r.1, r.2)
  | buildAvailable suggestions actions anchor =>
    let r := c.buildAvailable suggestions actions anchor
    (.flag r.1, r.2)
  | remove => (.done, c.remove)
  | toggleRoot => (.done, c.toggleRoot)
  | focusBelow => (.done, c.focusBelow)
  | focusAbove => (.done, c.focusAbove)
  | focus menu option =>
    let r := c.focus menu option
    (.flag r.1, r.2)
  | openSubMenu => (.flag c.openSubMenu.1, c.openSubMenu.2)
  | closeSubMenu => (.flag c.closeSubMenu.1, c.closeSubMenu.2)
  | select => (.selection c.select.1, c.select.2)

/-- Does operations one after the other. -/
def runAll (cmds : List MenuCommand) (c : MenuController) : MenuController :=
  cmds.foldl (fun c cmd => (cmd.run c).2) c

end MenuCommand

end StructEdit
