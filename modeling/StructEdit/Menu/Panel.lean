import StructEdit.Menu.Tree

/-!
# StructEdit.Menu.Panel

A tree of menus on the screen with the focus that keys and the mouse move. The
focus is on one menu and, if there is a highlighted option in it, on that option.
The operations are told by the panel that they lead to, or as partial functions where
they can be refused.
-/

namespace StructEdit

/-- A tree of menus with the focus in it. -/
structure MenuPanel where
  tree : MenuTree
  /-- The menus of the tree, each before those below it. -/
  menus : List MenuId
  /-- The index among the menus of the one that is focused. -/
  focusedMenu : Nat := 0
  /-- The index of the focused option in the focused menu. -/
  focusedOption : Option Nat := none
deriving DecidableEq

namespace MenuPanel

/-- The panel that shows a tree for the first time: its root menu is open, and no
option is focused. -/
def ofTree (t : MenuTree) : MenuPanel where
  tree := t.openMenu t.root
  menus := t.preorder

/-- The number of the focused menu. -/
def focusedMenuId? (p : MenuPanel) : Option MenuId := p.menus[p.focusedMenu]?

/-- The number of the focused menu, with the menu. -/
def focusedMenu? (p : MenuPanel) : Option (MenuId × Menu) :=
  p.focusedMenuId?.bind fun id => (p.tree.get? id).map fun m => (id, m)

/-- The focused option. -/
def focusedOption? (p : MenuPanel) : Option MenuOption := do
  let (_, menu) ← p.focusedMenu?
  menu.options[← p.focusedOption]?

/-- Whether the root menu is open. -/
def isOpen (p : MenuPanel) : Bool := p.tree.isOpen p.tree.root

/-! ## Moving the focus -/

/-- Closes the root menu, which ends the focus on an option, or opens it. -/
def toggleRoot (p : MenuPanel) : MenuPanel :=
  if p.isOpen then
    { p with tree := p.tree.closeMenu p.tree.root, focusedMenu := 0, focusedOption := none }
  else { p with tree := p.tree.openMenu p.tree.root }

/-- Moves the focus to an option, if there is such a menu with such an option. Its
menu is opened, and below that menu only what the option links to stays open. -/
def focus? (p : MenuPanel) (id : MenuId) (index : Nat) : Option MenuPanel := do
  let position ← p.menus.idxOf? id
  let menu ← p.tree.get? id
  let option ← menu.options[index]?
  let tree := (p.tree.closeChildren id).update id fun m => (m.clearFocus.opened).highlight index
  some { p with
    tree := match option.child? with
      | none => tree
      | some child => tree.openMenu child
    focusedMenu := position
    focusedOption := some index }

/-- Moves the focus to an option, or leaves it where it is. -/
def focus (p : MenuPanel) (id : MenuId) (index : Nat) : MenuPanel := (p.focus? id index).getD p

/-- The index one further down among `n`, from the last to the first, and from
none to the first. -/
def indexBelow (n : Nat) : Option Nat → Nat
  | none => 0
  | some i => (i + 1) % n

/-- The index one further up among `n`, from the first to the last, and from none
to the last. -/
def indexAbove (n : Nat) : Option Nat → Nat
  | none | some 0 => n - 1
  | some (i + 1) => i

/-- Moves the focus within the focused menu, as `step` says from the number of
options and the index of the focused one. -/
def stepFocus (p : MenuPanel) (step : Nat → Option Nat → Nat) : MenuPanel :=
  match p.focusedMenu? with
  | none => p
  | some (id, menu) =>
    if menu.options.length = 0 then p
    else p.focus id (step menu.options.length p.focusedOption)

/-- Moves the focus to the next option. -/
def focusBelow (p : MenuPanel) : MenuPanel := p.stepFocus indexBelow

/-- Moves the focus to the previous option. -/
def focusAbove (p : MenuPanel) : MenuPanel := p.stepFocus indexAbove

/-! ## Going down and up -/

/-- Moves the focus into a menu, to its first option if it has one. -/
def enter (p : MenuPanel) (id : MenuId) : MenuPanel :=
  let entered : MenuPanel :=
    match p.menus.idxOf? id with
    | none => p
    | some position => { p with focusedMenu := position, focusedOption := none }
  entered.focus id 0

/-- Follows the focused link: opens the menu it links to and moves the focus to
the first option of it. -/
def openSubMenu? (p : MenuPanel) : Option MenuPanel := do
  let (id, menu) ← p.focusedMenu?
  let index ← p.focusedOption
  let option ← menu.options[index]?
  let child ← option.child?
  let tree := (p.tree.update id fun m => { m with openedLink := some index }).openMenu child
  some (enter { p with tree } child)

/-- Moves the focus back into a menu: to the link in it that was followed last, or to
no option of it if there is none. -/
def reenter (p : MenuPanel) (id : MenuId) : MenuPanel :=
  match ((p.tree.get? id).bind (·.openedLink)).bind (p.focus? id) with
  | some q => q
  | none =>
    { p with
      tree := p.tree.update id Menu.clearFocus
      focusedMenu := (p.menus.idxOf? id).getD 0
      focusedOption := none }

/-- Goes back to the menu that holds a link to the focused one. The focus moves to
the link that was followed last; if there is none, to no option of that menu. All
menus below that menu are closed. -/
def closeSubMenu? (p : MenuPanel) : Option MenuPanel := do
  let (_, menu) ← p.focusedMenu?
  let parent ← menu.parent
  let left := p.reenter parent
  some { left with tree := left.tree.closeChildren parent }

/-- What the focused option does. A link opens the menu it links to instead. -/
def select (p : MenuPanel) : Option Selection × MenuPanel :=
  match p.focusedOption? with
  | none => (none, p)
  | some option =>
    match option.target with
    | .link child => (none, { p with tree := p.tree.openMenu child })
    | .select selection => (some selection, p)

end MenuPanel

end StructEdit
