import StructEdit.Menu.Build
import StructEdit.Menu.Collapse
import StructEdit.Menu.Panel
import StructEdit.Menu.Prune

/-!
# StructEdit.Menu.Controller

The menus of an editor: at most one tree of them at a time, built from a list of
suggestions or from the configured categories, and the focus in it.

The tree, the list of its menus and the focus are fields of their own, and the
operations that can fail are programs over them: what they look at, where they give
up and what they change stands in the order in which it is done.
-/

namespace StructEdit

/-- The menu configuration with the tree of menus that is there, if one is, the list
of its menus and the focus. -/
structure MenuController where
  config : MenuConfig
  /-- The tree of menus, if there is one. -/
  tree? : Option MenuTree := none
  /-- The numbers of the menus, each before those below it. -/
  menus : List MenuId := []
  /-- The index among the menus of the one that is focused. -/
  focusedMenu : Nat := 0
  /-- The index of the focused option in the focused menu. -/
  focusedOption? : Option Nat := none
deriving DecidableEq

namespace MenuController

/-! ## What there is -/

/-- The menu of a number. -/
def menu? (c : MenuController) (id : MenuId) : Option Menu := c.tree?.bind (·.get? id)

/-- The number of the focused menu. -/
def focusedMenuId? (c : MenuController) : Option MenuId := c.menus[c.focusedMenu]?

/-- The text of the focused option. -/
def focusedText? (c : MenuController) : Option String := do
  let menu ← c.menu? (← c.focusedMenuId?)
  let option ← menu.options[← c.focusedOption?]?
  some option.text

/-- Whether there is a menu and its root is open. -/
def isOpen (c : MenuController) : Bool := c.tree?.any fun t => t.isOpen t.root

/-! ## Building and dropping menus -/

/-- Drops the menus that are there, and the focus with them. -/
def remove (c : MenuController) : MenuController where
  config := c.config

/-- Lists the menus of the tree anew. The focus is on the first one, and on no option. -/
def listMenus (c : MenuController) : MenuController :=
  { c with
    menus := (c.tree?.map (·.preorder)).getD []
    focusedMenu := 0
    focusedOption? := none }

/-- Opens the root menu, or closes all menus. -/
def toggleRoot (c : MenuController) : MenuController :=
  match c.tree? with
  | none => c
  | some t =>
    if t.isOpen t.root then
      { c with tree? := t.closeMenu t.root, focusedMenu := 0, focusedOption? := none }
    else { c with tree? := t.openMenu t.root }

/-- Builds menus from named lists of option texts in place of those that are
there. The answer is whether there are any, which is so when the root key has
options. -/
def build (c : MenuController) (entries : Entries) (rootKey : String)
    (actions : String → Option Selection) (anchor : Anchor) : Bool × MenuController :=
  let bare := if c.tree?.isSome then c.remove else c
  match MenuTree.build? entries rootKey actions c.config.docs.find? anchor with
  | none => (false, bare)
  | some t => (true, { bare with tree? := t.collapse }.listMenus.toggleRoot)

/-- Builds one menu that lists the suggestions; none for no suggestions. -/
def buildFlat (c : MenuController) (suggestions : List String)
    (actions : String → Option Selection) (anchor : Anchor) : Bool × MenuController :=
  if suggestions.isEmpty then (false, c.remove)
  else c.build [(c.config.root, suggestions)] c.config.root actions anchor

/-- Builds the menus of the configured categories with the suggestions only. -/
def buildAvailable (c : MenuController) (suggestions : List String)
    (actions : String → Option Selection) (anchor : Anchor) : Bool × MenuController :=
  c.build (c.config.available suggestions) c.config.root actions anchor

/-! ## Moving the focus -/

/-- Changes the tree, if there is one. -/
def modifyTree (f : MenuTree → MenuTree) : StateM MenuController Unit :=
  modify fun c => { c with tree? := c.tree?.map f }

/-- Moves the focus to an option, if there is such a menu with such an option. Its
menu is opened, and below that menu only what the option links to stays open. -/
def setFocus (id : MenuId) (index : Nat) : StateM MenuController Bool := do
  let some position := (← get).menus.idxOf? id | return false
  let some tree := (← get).tree? | return false
  let some option := (tree.get? id).bind (·.options[index]?) | return false
  modifyTree (·.closeChildren id)
  modifyTree (·.update id fun m => m.clearFocus.opened.highlight index)
  if let some child := option.child? then
    modifyTree (·.openMenu child)
  modify ({ · with focusedMenu := position, focusedOption? := some index })
  return true

/-- Moves the focus to an option. -/
def focus (c : MenuController) (id : MenuId) (index : Nat) : Bool × MenuController :=
  ((setFocus id index).run c).run

/-- The number of the focused menu with the number of its options, if it has any. -/
def focusedLength? (c : MenuController) : Option (MenuId × Nat) := do
  let id ← c.focusedMenuId?
  let menu ← c.menu? id
  if 0 < menu.options.length then some (id, menu.options.length) else none

/-- Moves the focus within the focused menu, as `step` says from the number of
options and the index of the focused one. -/
def stepFocus (c : MenuController) (step : Nat → Option Nat → Nat) : MenuController :=
  match c.focusedLength? with
  | none => c
  | some (id, n) => (c.focus id (step n c.focusedOption?)).2

/-- Moves the focus to the next option. -/
def focusBelow (c : MenuController) : MenuController := c.stepFocus MenuPanel.indexBelow

/-- Moves the focus to the previous option. -/
def focusAbove (c : MenuController) : MenuController := c.stepFocus MenuPanel.indexAbove

/-! ## Going down and up -/

/-- Moves the focus into a menu, to its first option if it has one. -/
def enter (id : MenuId) : StateM MenuController Unit := do
  let hasOptions := ((← get).menu? id).any (!·.options.isEmpty)
  if let some position := (← get).menus.idxOf? id then
    modify ({ · with focusedMenu := position, focusedOption? := none })
  if hasOptions then
    discard <| setFocus id 0

/-- Follows the focused link: opens the menu it links to and moves the focus into it. -/
def followLink : StateM MenuController Bool := do
  let some id := (← get).focusedMenuId? | return false
  let some index := (← get).focusedOption? | return false
  let some tree := (← get).tree? | return false
  let some child := ((tree.get? id).bind (·.options[index]?)).bind (·.child?) | return false
  modifyTree (·.update id ({ · with openedLink := some index }))
  modifyTree (·.openMenu child)
  enter child
  return true

/-- Moves the focus back into a menu: to the link in it that was followed last, or to
no option of it if there is none. -/
def reenter (id : MenuId) : StateM MenuController Unit := do
  let refocused ← match ((← get).menu? id).bind (·.openedLink) with
    | none => pure false
    | some index => setFocus id index
  if !refocused then
    modifyTree (·.update id Menu.clearFocus)
    modify fun c => { c with focusedMenu := (c.menus.idxOf? id).getD 0, focusedOption? := none }

/-- Goes back to the menu that holds a link to the focused one. All menus below that
menu are closed. -/
def goBack : StateM MenuController Bool := do
  let some id := (← get).focusedMenuId? | return false
  let some parent := ((← get).menu? id).bind (·.parent) | return false
  reenter parent
  modifyTree (·.closeChildren parent)
  return true

/-- Follows the focused link. -/
def openSubMenu (c : MenuController) : Bool × MenuController := (followLink.run c).run

/-- Goes back to the menu above. -/
def closeSubMenu (c : MenuController) : Bool × MenuController := (goBack.run c).run

/-! ## Selecting -/

/-- What the focused option does. A link opens the menu it links to instead. -/
def selectFocused : StateM MenuController (Option Selection) := do
  let some id := (← get).focusedMenuId? | return none
  let some index := (← get).focusedOption? | return none
  let some tree := (← get).tree? | return none
  let some option := (tree.get? id).bind (·.options[index]?) | return none
  match option.target with
  | .link child =>
    modifyTree (·.openMenu child)
    return none
  | .select selection => return some selection

/-- What the focused option does; a link opens its menu and does nothing. -/
def select (c : MenuController) : Option Selection × MenuController := (selectFocused.run c).run

@[simp]
theorem tree?_remove (c : MenuController) : c.remove.tree? = none := rfl

@[simp]
theorem config_remove (c : MenuController) : c.remove.config = c.config := rfl

end MenuController

end StructEdit
