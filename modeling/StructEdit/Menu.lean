import StructEdit.Action

/-!
# StructEdit.Menu

Menus of options. An option either does something when it is selected or links
to a menu below; it may be highlighted, and it may have documentation.
-/

namespace StructEdit

/-- The number of a menu among those built with it. It stays the same when other
menus are dropped. -/
abbrev MenuId := Nat

/-- Where on the screen a menu stands. -/
structure Anchor where
  left : UInt64
  top : UInt64
deriving DecidableEq

/-- A menu stands where the cursor is. -/
def Anchor.ofPosition (p : Position) : Anchor := ⟨p.column, p.line⟩

/-- What selecting an option does. -/
inductive Selection where
  /-- Inserts a construct. -/
  | insert (request : Request)
  /-- Takes an action as it is. -/
  | edit (action : Action)
  /-- Nothing is bound to the option. -/
  | noop
deriving DecidableEq

/-- What an option stands for. -/
inductive Target where
  | select (selection : Selection)
  | link (child : MenuId)
deriving DecidableEq

/-- An option of a menu. -/
structure MenuOption where
  text : String
  doc : Option String
  target : Target
  focused : Bool := false
deriving DecidableEq

namespace MenuOption

/-- The menu that the option links to. -/
def child? (o : MenuOption) : Option MenuId :=
  match o.target with
  | .link child => some child
  | .select _ => none

/-- What the option does, if it is no link. -/
def selection? (o : MenuOption) : Option Selection :=
  match o.target with
  | .select selection => some selection
  | .link _ => none

/-- Whether the option links to a menu. -/
def isLink (o : MenuOption) : Bool := o.child?.isSome

theorem child?_eq_some_iff {o : MenuOption} {c : MenuId} :
    o.child? = some c ↔ o.target = .link c := by
  unfold child?
  split <;> simp_all

end MenuOption

/-- A menu. -/
structure Menu where
  options : List MenuOption
  /-- The menu that holds a link to this one. -/
  parent : Option MenuId := none
  /-- The menus that this one links to. -/
  children : List MenuId := []
  isOpen : Bool := false
  /-- The index of the link that was followed last. -/
  openedLink : Option Nat := none
  anchor : Anchor
deriving DecidableEq

namespace Menu

/-- The index of the first highlighted option. -/
def focused? (m : Menu) : Option Nat := m.options.findIdx? (·.focused)

/-- The menu with no option highlighted. -/
def clearFocus (m : Menu) : Menu :=
  { m with options := m.options.map fun o => { o with focused := false } }

/-- The menu with one more option highlighted, if it has that option. -/
def highlight (m : Menu) (index : Nat) : Menu :=
  { m with options := m.options.modify index fun o => { o with focused := true } }

/-- The menu opened. -/
def opened (m : Menu) : Menu := { m with isOpen := true }

/-- The menu closed, and with that no option of it highlighted. -/
def closed (m : Menu) : Menu := { m.clearFocus with isOpen := false }

@[simp]
theorem length_clearFocus (m : Menu) : m.clearFocus.options.length = m.options.length := by
  simp [clearFocus]

@[simp]
theorem children_clearFocus (m : Menu) : m.clearFocus.children = m.children := rfl

@[simp]
theorem children_closed (m : Menu) : m.closed.children = m.children := rfl

@[simp]
theorem isOpen_closed (m : Menu) : m.closed.isOpen = false := rfl

@[simp]
theorem focused?_clearFocus (m : Menu) : m.clearFocus.focused? = none := by
  simp [clearFocus, focused?]

@[simp]
theorem focused?_closed (m : Menu) : m.closed.focused? = none := focused?_clearFocus m

end Menu

end StructEdit
