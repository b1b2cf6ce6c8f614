import StructEdit.Menu.Tree

/-!
# StructEdit.Menu.Build

Building a tree of menus out of named lists of option texts. A text that names
another list is a link to the menu of that list, unless an action is bound to
it. No menu is linked twice, and none of the menus links to the root, so the
menus below the root make a tree; the others are dropped.
-/

namespace StructEdit

namespace MenuTree

/-! ## Menus without links -/

/-- The first entry of each key. -/
def firstOfEachKey : List (String × α) → List (String × α)
  | [] => []
  | e :: es => e :: (firstOfEachKey es).filter fun d => d.1 != e.1

/-- The entries that menus are made of: those with options, one to a key. -/
def menuEntries (entries : List (String × List String)) : List (String × List String) :=
  firstOfEachKey (entries.filter fun e => !e.2.isEmpty)

/-- The number of the menu of a key. -/
def keyId? (entries : List (String × List String)) (key : String) : Option MenuId :=
  ((menuEntries entries).map (·.1)).idxOf? key

/-- The menu of some texts, each with the action bound to it and none of them a
link. -/
def plainMenu (actions : String → Option Selection) (docs : String → Option String)
    (anchor : Anchor) (texts : List String) : Menu where
  options := texts.map fun text =>
    { text, doc := docs text, target := .select ((actions text).getD .noop) }
  anchor

/-! ## Links -/

/-- A link that an option asks for: the menu of the option, the place of the
option in it, and the menu that the text of the option names. -/
structure Link where
  parent : MenuId
  index : Nat
  child : MenuId

/-- The links that the options of the entries ask for, in the order of the
entries and of their options. -/
def wantedLinks (entries : List (String × List String)) (actions : String → Option Selection) :
    List Link :=
  entries.flatMap fun e =>
    match keyId? entries e.1 with
    | none => []
    | some parent =>
      e.2.zipIdx.filterMap fun o =>
        match actions o.1 with
        | some _ => none
        | none => (keyId? entries o.1).map fun child => { parent, index := o.2, child }

/-- Makes an option a link, and the menu it links to a child of its menu. -/
def setLink (t : MenuTree) (l : Link) : MenuTree :=
  (t.update l.child fun m => { m with parent := some l.parent }).update l.parent fun m =>
    if l.index < m.options.length then
      { m with
        options := m.options.modify l.index fun o => { o with target := .link l.child }
        children := m.children ++ [l.child] }
    else m

/-- Whether a link can be made: to another menu than its own and than the root,
and one that no link leads to. -/
def isLinkable (t : MenuTree) (l : Link) : Bool :=
  l.child != l.parent && l.child != t.root && (t.get? l.child).any (·.parent.isNone)

/-- The tree with a link where one can be made. -/
def addLink (t : MenuTree) (l : Link) : MenuTree := if t.isLinkable l then t.setLink l else t

/-! ## The whole tree -/

/-- The tree of the menus of some entries, as far as they are reached from the
menu of the root key. There is none when the root key has no options. -/
def build? (entries : List (String × List String)) (rootKey : String)
    (actions : String → Option Selection) (docs : String → Option String) (anchor : Anchor) :
    Option MenuTree :=
  (keyId? entries rootKey).map fun root =>
    let slots := (menuEntries entries).map fun e => some (plainMenu actions docs anchor e.2)
    let linked := (wantedLinks entries actions).foldl addLink { slots, root }
    linked.restrict linked.preorder

end MenuTree

end StructEdit
