import StructEdit.Proofs.Menu.Closing
import StructEdit.Proofs.Menu.Panels

/-!
# StructEdit.Proofs.Menu.Focus

The focus of the menus on the screen. It is kept as two indexes and again as the
highlighted options of the menus, and the two agree after every operation
(`MenuPanel.Focused`). Main statement: `MenuController.tracksFocus_runAll`, what
this comes to after any operations on the menus of an editor.
-/

namespace StructEdit

/-! ## Highlighted options of a menu -/

namespace Menu

/-- At most one option is highlighted, and none in a closed menu. -/
structure Orderly (m : Menu) : Prop where
  unique : m.options.countP (·.focused) ≤ 1
  isOpen : m.focused?.isSome → m.isOpen = true

/-- Where nothing is counted, changing one item makes at most one count. -/
theorem countP_modify_le {f : α → Bool} {g : α → α} {l : List α} (h : ∀ a ∈ l, f a = false)
    (i : Nat) : (l.modify i g).countP f ≤ 1 := by
  induction l generalizing i with
  | nil => simp
  | cons a l ih =>
    rw [List.forall_mem_cons] at h
    cases i with
    | zero =>
      have hl : l.countP f = 0 := by simpa using h.2
      rw [List.modify_zero_cons, List.countP_cons, hl]
      split <;> omega
    | succ i => simpa [h.1] using ih h.2 i

/-- No option is highlighted once the highlight is cleared. -/
theorem countP_clearFocus (m : Menu) : m.clearFocus.options.countP (·.focused) = 0 := by
  simp [clearFocus]

/-- A menu without a highlight is in order. -/
theorem orderly_clearFocus (m : Menu) : m.clearFocus.Orderly where
  unique := by rw [countP_clearFocus]; omega
  isOpen h := by simp at h

/-- A closed menu is in order, since closing it clears its highlight. -/
theorem orderly_closed (m : Menu) : m.closed.Orderly where
  unique := (orderly_clearFocus m).unique
  isOpen h := by simp at h

/-- Nothing is highlighted in a closed menu. -/
theorem Orderly.focused?_eq_none {m : Menu} (h : m.Orderly) (hc : m.isOpen = false) :
    m.focused? = none := by
  simpa [hc] using h.isOpen

/-- Opening a menu that is in order keeps it in order. -/
theorem Orderly.opened {m : Menu} (h : m.Orderly) : m.opened.Orderly where
  unique := h.unique
  isOpen _ := rfl

/-- A menu that is opened with one option highlighted is in order. -/
theorem orderly_highlight (m : Menu) (index : Nat) :
    (m.clearFocus.opened.highlight index).Orderly where
  unique := countP_modify_le (by simp [opened, clearFocus]) index
  isOpen _ := rfl

@[simp]
theorem focused?_opened (m : Menu) : m.opened.focused? = m.focused? := rfl

/-- Closing a menu before it is cleared and opened makes no difference. -/
@[simp]
theorem clearFocus_opened_closed (m : Menu) : m.closed.clearFocus.opened = m.clearFocus.opened := by
  simp [closed, clearFocus, opened]

/-- The option that is highlighted in place of all others is the focused one. -/
theorem focused?_highlight {m : Menu} {index : Nat} (h : index < m.options.length) :
    (m.clearFocus.opened.highlight index).focused? = some index := by
  rw [focused?, List.findIdx?_eq_some_iff_getElem]
  refine ⟨by simpa [highlight, opened] using h, by simp [highlight], fun j hj => ?_⟩
  have hne : index ≠ j := by omega
  simp [highlight, opened, clearFocus, List.getElem_modify_ne _ _ hne]

/-- Where no option is highlighted, none is the highlighted one. -/
theorem focused?_eq_none_of_unfocused {m : Menu} (h : ∀ o ∈ m.options, o.focused = false) :
    m.focused? = none := by
  rw [focused?, List.findIdx?_eq_none_iff]
  exact h

/-- A menu whose options are not highlighted is in order, open or not. -/
theorem orderly_of_unfocused {m : Menu} (h : ∀ o ∈ m.options, o.focused = false) :
    m.Orderly where
  unique := by
    rw [List.countP_eq_zero.2 fun o ho => by simp [h o ho]]
    omega
  isOpen hf := by simp [focused?_eq_none_of_unfocused h] at hf

end Menu

/-! ## Highlighted options of a tree -/

namespace MenuTree

/-- Every menu is orderly. -/
def Orderly (t : MenuTree) : Prop := ∀ id m, t.get? id = some m → m.Orderly

/-- What keeps each menu in order keeps the tree in order. -/
theorem Orderly.update {t : MenuTree} (h : t.Orderly) (id : MenuId) {f : Menu → Menu}
    (hf : ∀ m, m.Orderly → (f m).Orderly) : (t.update id f).Orderly :=
  forall_update h id fun _ => hf

theorem Orderly.updateAll {t : MenuTree} (h : t.Orderly) (ids : List MenuId) {f : Menu → Menu}
    (hf : ∀ m, m.Orderly → (f m).Orderly) : (t.updateAll ids f).Orderly :=
  forall_updateAll h ids fun _ => hf

theorem Orderly.openMenu {t : MenuTree} (h : t.Orderly) (id : MenuId) : (t.openMenu id).Orderly :=
  h.update id fun _ => Menu.Orderly.opened

theorem Orderly.closeChildren {t : MenuTree} (h : t.Orderly) (id : MenuId) :
    (t.closeChildren id).Orderly :=
  h.updateAll _ fun m _ => m.orderly_closed

/-- Closing a menu with those below it keeps the tree in order. -/
theorem Orderly.closeMenu {t : MenuTree} (h : t.Orderly) (id : MenuId) :
    (t.closeMenu id).Orderly :=
  h.updateAll _ fun m _ => m.orderly_closed

/-- Closing what is below a menu of the tree does not close that menu. -/
theorem Rooted.not_mem_openBelow {t : MenuTree} (h : t.Rooted) {id : MenuId} {m : Menu}
    (hm : t.get? id = some m) : id ∉ t.openBelow id := fun hmem =>
  h.not_strictlyBelow_self (h.below_root id m hm) (strictlyBelow_of_mem_openBelow hmem)

/-- Closing the menus below a menu does not touch the menu itself, which is not below itself. -/
theorem Rooted.get?_closeChildren_self {t : MenuTree} (h : t.Rooted) (id : MenuId) :
    (t.closeChildren id).get? id = t.get? id := by
  cases hm : t.get? id with
  | none => simp [get?_closeChildren, hm]
  | some m => rw [get?_closeChildren, if_neg (h.not_mem_openBelow hm), hm]

/-! ## Moving the focus in a tree -/

/-- The tree with the focus on an option: its menu is open, nothing else in that menu
is highlighted, and what is open below it is what the option links to. -/
def focusOn (t : MenuTree) (id : MenuId) (index : Nat) (child? : Option MenuId) : MenuTree :=
  let u := (t.closeChildren id).update id fun m => (m.clearFocus.opened).highlight index
  match child? with
  | none => u
  | some child => u.openMenu child

/-- Moving the focus changes open and highlighted menus only. -/
@[simp]
theorem bare_focusOn (t : MenuTree) (id : MenuId) (index : Nat) (child? : Option MenuId) :
    (t.focusOn id index child?).bare = t.bare := by
  have hu : ((t.closeChildren id).update id fun m =>
      (m.clearFocus.opened).highlight index).bare = t.bare := by
    rw [bare_update _ _ fun m => by simp, bare_closeChildren]
  cases child? with
  | none => exact hu
  | some child => exact (bare_openMenu _ child).trans hu

/-- Moving the focus keeps the tree in order, since the highlight is cleared before it is set. -/
theorem orderly_focusOn {t : MenuTree} (h : t.Orderly) (id : MenuId) (index : Nat)
    (child? : Option MenuId) : (t.focusOn id index child?).Orderly := by
  have hu := (h.closeChildren id).update id
    (f := fun m => (m.clearFocus.opened).highlight index) fun m _ => m.orderly_highlight index
  cases child? with
  | none => exact hu
  | some child => exact hu.openMenu child

/-- The menu that the focus is on is open, and of its options just the given one is
highlighted. -/
theorem exists_menu_focusOn {t : MenuTree} {id : MenuId} {m : Menu} (hm : t.get? id = some m)
    (index : Nat) (child? : Option MenuId) :
    ∃ k, (t.focusOn id index child?).get? id = some k ∧ k.isOpen = true ∧
      k.options = (m.clearFocus.opened.highlight index).options := by
  have hu : ((t.closeChildren id).update id fun m =>
      (m.clearFocus.opened).highlight index).get? id = some (m.clearFocus.opened.highlight index) := by
    rw [get?_update, if_pos rfl, closeChildren, get?_updateAll, hm]
    split <;> simp
  cases child? with
  | none => exact ⟨_, hu, rfl, rfl⟩
  | some child =>
    simp only [focusOn, openMenu, get?_update, hu]
    split
    · exact ⟨_, rfl, rfl, rfl⟩
    · exact ⟨_, rfl, rfl, rfl⟩

/-- The option that the focus is on is the focused one of its menu. -/
theorem focused?_focusOn {t : MenuTree} {id : MenuId} {m : Menu} (hm : t.get? id = some m)
    {index : Nat} (hi : index < m.options.length) (child? : Option MenuId) :
    ∃ k, (t.focusOn id index child?).get? id = some k ∧ k.focused? = some index := by
  obtain ⟨k, hk, _, ho⟩ := exists_menu_focusOn hm index child?
  exact ⟨k, hk, by rw [Menu.focused?, ho, ← Menu.focused?, Menu.focused?_highlight hi]⟩

end MenuTree

/-! ## The focus of a panel -/

namespace MenuPanel

variable {p q : MenuPanel}

/-- The menus on the screen are those of a rooted tree from the root downward, and
all of them orderly. -/
structure Sound (p : MenuPanel) : Prop where
  rooted : p.tree.Rooted
  menus_eq : p.menus = p.tree.preorder
  orderly : p.tree.Orderly

/-- The focused menu is one of those on the screen, and the focused option is the
one that is highlighted in it. -/
structure Focused (p : MenuPanel) : Prop extends p.Sound where
  agree : ∃ id m, p.focusedMenuId? = some id ∧ p.tree.get? id = some m ∧
    m.focused? = p.focusedOption

/-- A sound panel stays sound with another tree of the same shape that is in order. -/
theorem Sound.with_tree (h : p.Sound) {u : MenuTree} (hb : u.bare = p.tree.bare)
    (ho : u.Orderly) (menu : Nat) (option : Option Nat) :
    ({ p with tree := u, focusedMenu := menu, focusedOption := option } : MenuPanel).Sound where
  rooted := h.rooted.of_bare_eq hb
  menus_eq := h.menus_eq.trans (MenuTree.preorder_of_bare_eq hb).symm
  orderly := ho

/-- A change of the tree that highlights nothing else in the focused menu leaves the
focus what it is. -/
theorem Focused.with_tree (h : p.Focused) {u : MenuTree} (hb : u.bare = p.tree.bare)
    (ho : u.Orderly) (hf : ∀ id m, p.focusedMenuId? = some id → p.tree.get? id = some m →
      ∃ k, u.get? id = some k ∧ k.focused? = m.focused?) :
    ({ p with tree := u } : MenuPanel).Focused where
  toSound := h.toSound.with_tree hb ho _ _
  agree := by
    obtain ⟨id, m, hid, hm, hopt⟩ := h.agree
    obtain ⟨k, hk, hkm⟩ := hf id m hid hm
    exact ⟨id, k, hid, hk, hkm.trans hopt⟩

/-- The focused option is the one that is highlighted in the focused menu. -/
theorem Focused.focused?_eq (h : p.Focused) {id : MenuId} {m : Menu}
    (hid : p.focusedMenuId? = some id) (hm : p.tree.get? id = some m) :
    m.focused? = p.focusedOption := by
  obtain ⟨i, k, hi, hk, hfocus⟩ := h.agree
  rw [hid, Option.some.injEq] at hi
  subst hi
  rw [hm, Option.some.injEq] at hk
  rw [hk, hfocus]

/-- The list has just the menus of the tree. -/
theorem Sound.mem_menus_iff (h : p.Sound) {id : MenuId} :
    id ∈ p.menus ↔ ∃ m, p.tree.get? id = some m := by
  rw [h.menus_eq, h.rooted.mem_preorder_iff]

/-- The first menu of the list is the root. -/
theorem Sound.menus_zero (h : p.Sound) : p.menus[0]? = some p.tree.root := by
  rw [h.menus_eq, ← List.head?_eq_getElem?, h.rooted.head?_preorder]

theorem getElem?_of_idxOf? {l : List MenuId} {id : MenuId} {i : Nat} (h : l.idxOf? id = some i) :
    l[i]? = some id := by
  obtain ⟨hi, heq, _⟩ := List.idxOf?_eq_some_iff.1 h
  rw [List.getElem?_eq_getElem hi, heq]

/-- Every menu of the tree has an index in the list. -/
theorem Sound.exists_idxOf? (h : p.Sound) {id : MenuId} {m : Menu} (hm : p.tree.get? id = some m) :
    ∃ i, p.menus.idxOf? id = some i := by
  rw [← Option.isSome_iff_exists, List.isSome_idxOf?, h.mem_menus_iff]
  exact ⟨m, hm⟩

/-- The focused menu is the one of the focused number. -/
theorem focusedMenu?_eq_some_iff {id : MenuId} {m : Menu} :
    p.focusedMenu? = some (id, m) ↔ p.focusedMenuId? = some id ∧ p.tree.get? id = some m := by
  unfold focusedMenu?
  cases p.focusedMenuId? with
  | none => simp
  | some i => cases h : p.tree.get? i <;> simp <;> grind

/-! ## Each operation -/

/-- A panel shows a new tree with its root in focus and no option of it. -/
theorem focused_ofTree {t : MenuTree} (h : t.Rooted)
    (hf : ∀ id m, t.get? id = some m → ∀ o ∈ m.options, o.focused = false) :
    (ofTree t).Focused := by
  have hsound : (ofTree t).Sound := by
    refine ⟨h.of_bare_eq (MenuTree.bare_openMenu t t.root),
      (MenuTree.preorder_of_bare_eq (MenuTree.bare_openMenu t t.root)).symm, ?_⟩
    exact MenuTree.Orderly.openMenu
      (fun id m hm => Menu.orderly_of_unfocused (hf id m hm)) t.root
  obtain ⟨m, hm⟩ := h.root_live
  refine ⟨hsound, t.root, m.opened, hsound.menus_zero, ?_, ?_⟩
  · simp [ofTree, MenuTree.openMenu, MenuTree.get?_update, hm]
  · exact Menu.focused?_eq_none_of_unfocused (hf t.root m hm)

/-- Opening a menu does not move the focus. -/
theorem Focused.openMenu (h : p.Focused) (c : MenuId) :
    ({ p with tree := p.tree.openMenu c } : MenuPanel).Focused := by
  refine h.with_tree (MenuTree.bare_openMenu _ c) (h.orderly.openMenu c) fun id m _ hm => ?_
  rw [MenuTree.openMenu, MenuTree.get?_update, hm]
  split
  · exact ⟨_, rfl, Menu.focused?_opened m⟩
  · exact ⟨m, rfl, rfl⟩

/-- Closing all menus ends the focus, so nothing is highlighted without it. -/
theorem Focused.toggleRoot (h : p.Focused) : p.toggleRoot.Focused := by
  unfold MenuPanel.toggleRoot
  split
  · have hsound := h.toSound.with_tree (MenuTree.bare_closeMenu p.tree p.tree.root)
      (h.orderly.closeMenu _) 0 none
    obtain ⟨m, hm⟩ := h.rooted.root_live
    refine ⟨hsound, p.tree.root, m.closed, h.toSound.menus_zero, ?_, Menu.focused?_closed m⟩
    rw [MenuTree.closeMenu, MenuTree.get?_updateAll, if_pos List.mem_cons_self, hm, Option.map_some]
  · exact h.openMenu _

/-- Moving the focus to an option is possible just for options that are there. -/
theorem focus?_eq_some_iff {id : MenuId} {index : Nat} :
    p.focus? id index = some q ↔ ∃ position m o, p.menus.idxOf? id = some position ∧
      p.tree.get? id = some m ∧ m.options[index]? = some o ∧
      { p with
        tree := p.tree.focusOn id index o.child?
        focusedMenu := position
        focusedOption := some index } = q := by
  simp only [focus?, bind, Option.bind_eq_some_iff, Option.some.injEq]
  constructor
  · rintro ⟨position, hpos, m, hm, o, ho, hq⟩
    exact ⟨position, m, o, hpos, hm, ho, hq⟩
  · rintro ⟨position, m, o, hpos, hm, ho, hq⟩
    exact ⟨position, hpos, m, hm, o, ho, hq⟩

/-- Wherever the focus was, once it is moved it is where the highlight is, on the menu asked for.
-/
theorem Sound.focus? (h : p.Sound) {id : MenuId} {index : Nat}
    (hq : p.focus? id index = some q) : q.Focused ∧ q.focusedMenuId? = some id := by
  obtain ⟨position, m, o, hpos, hm, ho, rfl⟩ := focus?_eq_some_iff.1 hq
  have hid : p.menus[position]? = some id := getElem?_of_idxOf? hpos
  obtain ⟨k, hk, hf⟩ :=
    MenuTree.focused?_focusOn hm (List.getElem?_eq_some_iff.1 ho).1 o.child?
  exact ⟨⟨h.with_tree (MenuTree.bare_focusOn ..) (MenuTree.orderly_focusOn h.orderly _ _ _) _ _,
    id, k, hid, hk, hf⟩, hid⟩

/-- The focus can move to every option there is. -/
theorem Sound.exists_focus? (h : p.Sound) {id : MenuId} {m : Menu} (hm : p.tree.get? id = some m)
    {index : Nat} {o : MenuOption} (ho : m.options[index]? = some o) :
    ∃ q, p.focus? id index = some q := by
  obtain ⟨position, hpos⟩ := h.exists_idxOf? hm
  exact ⟨_, focus?_eq_some_iff.2 ⟨position, m, o, hpos, hm, ho, rfl⟩⟩

/-- Going to the first option of a menu that was just entered moves the focus there, or
leaves it where it is when that menu has no options. -/
theorem Sound.focus_zero (h : p.Sound) {id : MenuId} {m : Menu} (hid : p.focusedMenuId? = some id)
    (hm : p.tree.get? id = some m) (hnone : p.focusedOption = none) : (p.focus id 0).Focused := by
  unfold MenuPanel.focus
  cases hq : p.focus? id 0 with
  | some q => exact (h.focus? hq).1
  | none =>
    refine ⟨h, id, m, hid, hm, ?_⟩
    cases ho : m.options with
    | nil => simp [Option.getD_none, hnone, Menu.focused?, ho]
    | cons o os =>
      have ho₀ : m.options[0]? = some o := by simp [ho]
      obtain ⟨q, hsome⟩ := h.exists_focus? hm ho₀
      rw [hq] at hsome
      contradiction

theorem Focused.focus (h : p.Focused) (id : MenuId) (index : Nat) : (p.focus id index).Focused := by
  unfold MenuPanel.focus
  cases hq : p.focus? id index with
  | none => exact h
  | some q => exact (h.toSound.focus? hq).1

/-- A step within the focused menu moves the focus or leaves it. -/
theorem Focused.stepFocus (h : p.Focused) (step : Nat → Option Nat → Nat) :
    (p.stepFocus step).Focused := by
  unfold MenuPanel.stepFocus
  split
  · exact h
  · split
    · exact h
    · exact h.focus _ _

/-- Closing what is below the focused menu leaves the focus what it is. -/
theorem Focused.closeChildren (h : p.Focused) {id : MenuId} (hid : p.focusedMenuId? = some id) :
    ({ p with tree := p.tree.closeChildren id } : MenuPanel).Focused := by
  refine h.with_tree (MenuTree.bare_closeChildren _ id) (h.orderly.closeChildren id) ?_
  intro i m hi hm
  rw [hid, Option.some.injEq] at hi
  subst hi
  exact ⟨m, by rw [h.rooted.get?_closeChildren_self, hm], rfl⟩

/-- The panel in which the focused link is followed, up to the focus in the menu that
it leads to. -/
def follow (p : MenuPanel) (id : MenuId) (index : Nat) (child : MenuId) : MenuPanel :=
  let tree := (p.tree.update id fun m => { m with openedLink := some index }).openMenu child
  match p.menus.idxOf? child with
  | none => { p with tree }
  | some position => { p with tree, focusedMenu := position, focusedOption := none }

/-- Following a link is possible just when the focused option is one. -/
theorem openSubMenu?_eq_some_iff :
    p.openSubMenu? = some q ↔ ∃ id m index o child, p.focusedMenuId? = some id ∧
      p.tree.get? id = some m ∧ p.focusedOption = some index ∧ m.options[index]? = some o ∧
      o.child? = some child ∧ (p.follow id index child).focus child 0 = q := by
  simp only [openSubMenu?, bind, Option.bind_eq_some_iff, Option.some.injEq, Prod.exists,
    focusedMenu?_eq_some_iff]
  constructor
  · rintro ⟨id, m, ⟨hid, hm⟩, index, hi, o, ho, child, hc, hq⟩
    exact ⟨id, m, index, o, child, hid, hm, hi, ho, hc, hq⟩
  · rintro ⟨id, m, index, o, child, hid, hm, hi, ho, hc, hq⟩
    exact ⟨id, m, ⟨hid, hm⟩, index, hi, o, ho, child, hc, hq⟩

/-- The panel that going back to a menu leaves, before what is below that menu is closed:
the focus is on the link that the menu remembers, if there is such an option, and
otherwise on none of its options. -/
def BackAt (p : MenuPanel) (parent : MenuId) (left : MenuPanel) : Prop :=
  ((p.tree.get? parent).bind (·.openedLink)).bind (p.focus? parent) = some left ∨
    ((p.tree.get? parent).bind (·.openedLink)).bind (p.focus? parent) = none ∧
      left = { p with
        tree := p.tree.update parent Menu.clearFocus
        focusedMenu := (p.menus.idxOf? parent).getD 0
        focusedOption := none }

/-- The two ways to come back are the two cases of going back into a menu. -/
theorem backAt_iff {parent : MenuId} {left : MenuPanel} :
    p.BackAt parent left ↔ p.reenter parent = left := by
  unfold BackAt reenter
  cases ((p.tree.get? parent).bind (·.openedLink)).bind (p.focus? parent) <;> simp [eq_comm]

/-- Going back is possible just when the focused menu has a parent. -/
theorem closeSubMenu?_eq_some_iff :
    p.closeSubMenu? = some q ↔ ∃ id m parent left, p.focusedMenuId? = some id ∧
      p.tree.get? id = some m ∧ m.parent = some parent ∧ p.BackAt parent left ∧
      { left with tree := left.tree.closeChildren parent } = q := by
  simp only [closeSubMenu?, bind, Option.bind_eq_some_iff, Option.some.injEq, Prod.exists,
    focusedMenu?_eq_some_iff, backAt_iff]
  constructor
  · rintro ⟨id, m, ⟨hid, hm⟩, parent, hp, hq⟩
    exact ⟨id, m, parent, _, hid, hm, hp, rfl, hq⟩
  · rintro ⟨id, m, parent, _, hid, hm, hp, rfl, hq⟩
    exact ⟨id, m, ⟨hid, hm⟩, parent, hp, hq⟩

/-- Following a link remembers it, opens the menu behind it and moves the focus into that. -/
theorem tree_follow (p : MenuPanel) (id : MenuId) (index : Nat) (child : MenuId) :
    (p.follow id index child).tree =
      (p.tree.update id fun m => { m with openedLink := some index }).openMenu child := by
  unfold follow
  split <;> rfl

theorem bare_follow (p : MenuPanel) (id : MenuId) (index : Nat) (child : MenuId) :
    (p.follow id index child).tree.bare = p.tree.bare := by
  rw [tree_follow, MenuTree.bare_openMenu, MenuTree.bare_update _ _ fun m => m.bare_openedLink _]

/-- Following a link keeps the list and the shape of the tree, so the panel stays sound; the focus
is moved afterwards. -/
theorem Sound.follow (h : p.Sound) (id : MenuId) (index : Nat) (child : MenuId) :
    (p.follow id index child).Sound where
  rooted := h.rooted.of_bare_eq (p.bare_follow id index child)
  menus_eq := by
    rw [MenuTree.preorder_of_bare_eq (p.bare_follow id index child), ← h.menus_eq]
    unfold MenuPanel.follow
    split <;> rfl
  orderly := by
    rw [tree_follow]
    exact (h.orderly.update id (f := fun m => { m with openedLink := some index }) fun m hm =>
      ⟨hm.unique, hm.isOpen⟩).openMenu child

/-- The menu behind a link is not empty, so following a link ends with the focus on its first
option. -/
theorem Focused.openSubMenu? (h : p.Focused) (hq : p.openSubMenu? = some q) : q.Focused := by
  obtain ⟨id, m, index, o, child, _, _, _, _, _, rfl⟩ := openSubMenu?_eq_some_iff.1 hq
  have hsound := h.toSound.follow id index child
  cases hpos : p.menus.idxOf? child with
  | none =>
    have hfollow : p.follow id index child =
        { p with tree := (p.follow id index child).tree } := by
      simp only [follow, hpos]
    rw [hfollow]
    refine Focused.focus (h.with_tree (p.bare_follow id index child) hsound.orderly
      fun i k _ hk => ?_) child 0
    simp only [tree_follow, MenuTree.openMenu, MenuTree.get?_update, hk]
    split <;> split <;> exact ⟨_, rfl, rfl⟩
  | some position =>
    have hchild : (p.follow id index child).focusedMenuId? = some child := by
      simpa only [follow, hpos, focusedMenuId?] using getElem?_of_idxOf? hpos
    have hnone : (p.follow id index child).focusedOption = none := by simp only [follow, hpos]
    obtain ⟨n, hn⟩ := hsound.mem_menus_iff.1 (List.mem_of_getElem? hchild)
    exact hsound.focus_zero hchild hn hnone

/-- On the way back the focus lands on the link that is remembered, or on no option of a menu
whose highlight is cleared. -/
theorem Focused.backAt (h : p.Focused) {id parent : MenuId} {left : MenuPanel}
    (hchild : p.tree.IsChild parent id) (hl : p.BackAt parent left) :
    left.Focused ∧ left.focusedMenuId? = some parent := by
  rcases hl with hl | ⟨_, rfl⟩
  · obtain ⟨link, _, hl⟩ := Option.bind_eq_some_iff.1 hl
    exact h.toSound.focus? hl
  · obtain ⟨n, hn, _⟩ := MenuTree.exists_menu_of_isChild hchild
    obtain ⟨position, hpos⟩ := h.toSound.exists_idxOf? hn
    have hmenu : p.menus[position]? = some parent := getElem?_of_idxOf? hpos
    rw [hpos, Option.getD_some]
    refine ⟨⟨h.toSound.with_tree (MenuTree.bare_update _ _ Menu.bare_clearFocus)
      (h.orderly.update _ fun m _ => m.orderly_clearFocus) _ _, parent, n.clearFocus, hmenu,
      ?_, Menu.focused?_clearFocus n⟩, hmenu⟩
    simp [MenuTree.get?_update, hn]

/-- Going back closes the menus below the one that is focused then, which keeps the focus. -/
theorem Focused.closeSubMenu? (h : p.Focused) (hq : p.closeSubMenu? = some q) : q.Focused := by
  obtain ⟨id, m, parent, left, hid, hm, hp, hl, rfl⟩ := closeSubMenu?_eq_some_iff.1 hq
  obtain ⟨hleft, hmenu⟩ := h.backAt ((h.rooted.isChild_iff_parent hm).2 hp) hl
  exact hleft.closeChildren hmenu

/-- Selecting at most opens a menu. -/
theorem Focused.select (h : p.Focused) : p.select.2.Focused := by
  unfold MenuPanel.select
  split
  · exact h
  · split
    · exact h.openMenu _
    · exact h

end MenuPanel

/-! ## The menus of an editor -/

namespace MenuController

variable {c : MenuController}

/-! ### The focus -/

/-- The menus that there are, if there are any, are in focus. -/
def Focused (c : MenuController) : Prop := ∀ p, c.panel = some p → p.Focused

/-- Menus that are built have no highlight, and the focus is on no option. -/
theorem focused_build (c : MenuController) (entries : Entries) (rootKey : String)
    (actions : String → Option Selection) (anchor : Anchor) :
    (c.build entries rootKey actions anchor).2.Focused :=
  c.all_build fun _ ht =>
    have hrooted := MenuTree.rooted_of_build? ht
    MenuPanel.focused_ofTree hrooted.collapse (hrooted.unfocused_collapse fun _ _ hm _ ho =>
      MenuTree.unfocused_of_build? ht hm ho)

/-- Each command keeps highlight and focus together. -/
theorem focused_run (cmd : MenuCommand) (h : c.Focused) : (cmd.run c).2.Focused := by
  have h : c.All MenuPanel.Focused := h
  cases cmd with
  | build entries rootKey actions anchor => exact focused_build c entries rootKey actions anchor
  | buildFlat suggestions actions anchor =>
    exact all_buildFlat fun entries rootKey => focused_build c entries rootKey actions anchor
  | buildAvailable suggestions actions anchor => exact focused_build c _ _ actions anchor
  | remove => exact all_of_panel_eq_none rfl
  | toggleRoot => exact h.toggleRoot MenuPanel.Focused.toggleRoot
  | focusBelow => exact h.stepFocus fun hp => hp.stepFocus _
  | focusAbove => exact h.stepFocus fun hp => hp.stepFocus _
  | focus menu option => exact h.focus fun hp hq => (hp.toSound.focus? hq).1
  | openSubMenu => exact h.openSubMenu MenuPanel.Focused.openSubMenu?
  | closeSubMenu => exact h.closeSubMenu MenuPanel.Focused.closeSubMenu?
  | select => exact h.select MenuPanel.Focused.select

/-- Highlight and focus stay together, whatever is done. -/
theorem focused_runAll (cmds : List MenuCommand) (h : c.Focused) :
    (MenuCommand.runAll cmds c).Focused := by
  unfold MenuCommand.runAll
  induction cmds generalizing c with
  | nil => exact h
  | cons cmd cmds ih => exact ih (focused_run cmd h)

/-- The menus and the focus fit together: without a tree there are no menus and no
focus; with one, the menus are those of the walk through the tree from its root, the
focused menu is one of them, the focused option is the one that is highlighted in it
and none if none is, no menu has two options highlighted, and none that is closed has
any. -/
structure TracksFocus (c : MenuController) : Prop where
  no_tree : c.tree? = none → c.menus = [] ∧ c.focusedMenuId? = none ∧ c.focusedOption? = none
  menus : ∀ t, c.tree? = some t → c.menus = t.preorder ∧ t.Walks [t.root] c.menus
  focused : ∀ t, c.tree? = some t → ∃ p id m, c.panel = some p ∧ p.focusedMenu < c.menus.length ∧
    c.menus[p.focusedMenu]? = some id ∧ c.focusedMenuId? = some id ∧ t.get? id = some m ∧
    c.focusedOption? = m.focused? ∧ (c.focusedOption? = none ↔ ∀ o ∈ m.options, o.focused = false) ∧
    ∀ i, c.focusedOption? = some i → ∃ o, m.options[i]? = some o ∧ o.focused = true
  highlighted : ∀ t id m, c.tree? = some t → t.get? id = some m →
    m.options.countP (·.focused) ≤ 1 ∧ ((∃ o ∈ m.options, o.focused = true) → m.isOpen = true)

/-- What is kept of panels says of a controller what is promised of its fields. -/
theorem Focused.tracksFocus (h : c.Focused) (htidy : c.Tidy) : c.TracksFocus := by
  cases hc : c.panel with
  | none =>
    have htree : c.tree? = none := panel_eq_none_iff.1 hc
    constructor
    · intro _
      rw [htidy htree]
      exact ⟨rfl, rfl, rfl⟩
    all_goals
      intro t
      simp [htree]
  | some p =>
    have hp := h p hc
    have htree {t} (ht : c.tree? = some t) : p.tree = t :=
      Option.some.inj ((tree?_of_panel hc).symm.trans ht)
    have hmenus : c.menus = p.menus := menus_of_panel hc
    have hoption : c.focusedOption? = p.focusedOption := focusedOption?_of_panel hc
    constructor
    case no_tree => simp [tree?_of_panel hc]
    case menus =>
      intro t ht
      obtain rfl := htree ht
      rw [hmenus, hp.menus_eq]
      exact ⟨rfl, hp.rooted.walks_preorder⟩
    case focused =>
      intro t ht
      obtain rfl := htree ht
      obtain ⟨id, m, hid, hm, hf⟩ := hp.agree
      rw [hmenus, hoption, ← hf]
      refine ⟨p, id, m, hc, (List.getElem?_eq_some_iff.1 hid).1, hid, ?_, hm, rfl, ?_, ?_⟩
      · exact (focusedMenuId?_of_panel hc).trans hid
      · simp [Menu.focused?]
      · intro i hi
        obtain ⟨hlt, ho, _⟩ := List.findIdx?_eq_some_iff_getElem.1 hi
        exact ⟨m.options[i], List.getElem?_eq_getElem hlt, ho⟩
    case highlighted =>
      intro t id m ht hm
      obtain rfl := htree ht
      have ho := hp.orderly id m hm
      refine ⟨ho.unique, ?_⟩
      rintro ⟨o, hmem, hfoc⟩
      refine ho.isOpen ?_
      rw [Menu.focused?, List.findIdx?_isSome]
      exact List.any_eq_true.2 ⟨o, hmem, hfoc⟩

/-- The menus and the focus fit together after any operations on the menus of an
editor, from when there are none. -/
theorem tracksFocus_runAll (config : MenuConfig) (cmds : List MenuCommand) :
    (MenuCommand.runAll cmds { config }).TracksFocus :=
  (focused_runAll cmds fun p hp => by simp [panel] at hp).tracksFocus
    (MenuCommand.tidy_runAll config cmds)

end MenuController

end StructEdit
