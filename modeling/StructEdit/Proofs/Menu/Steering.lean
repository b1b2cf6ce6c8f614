import StructEdit.Proofs.Menu.Focus

/-!
# StructEdit.Proofs.Menu.Steering

What moving the focus leaves as it is. Keys and the mouse open, close and highlight
menus, but they keep the bare tree, and they do not close its root
(`MenuTree.Steered`). Main statements: one for each way to move the focus, from
`MenuPanel.steered_focus?` to `MenuPanel.steered_select`.
-/

namespace StructEdit

namespace MenuTree

variable {t u v : MenuTree}

/-- Trees of the same shape have the same root. -/
theorem root_of_bare_eq (hb : u.bare = t.bare) : u.root = t.root := by
  rw [← root_bare u, hb, root_bare]

/-- A tree that comes from another one by opening, closing and highlighting menus,
with its root open if it was. -/
structure Steered (t u : MenuTree) : Prop where
  bare : u.bare = t.bare
  isOpen : t.isOpen t.root = true → u.isOpen u.root = true

namespace Steered

@[simp]
theorem refl (t : MenuTree) : t.Steered t := ⟨rfl, id⟩

/-- Steering twice is steering. -/
theorem trans (h : t.Steered u) (h' : u.Steered v) : t.Steered v :=
  ⟨h'.bare.trans h.bare, fun ho => h'.isOpen (h.isOpen ho)⟩

end Steered

/-- A change of one menu that does not close it does not close the root. -/
theorem steered_update (t : MenuTree) (id : MenuId) {f : Menu → Menu}
    (hb : ∀ m, (f m).bare = m.bare) (ho : ∀ m, m.isOpen = true → (f m).isOpen = true) :
    t.Steered (t.update id f) where
  bare := bare_update t id hb
  isOpen hr := by
    obtain ⟨m, hm, hopen⟩ := isOpen_iff.1 hr
    rw [isOpen_iff, root_update, get?_update, hm]
    split
    · exact ⟨f m, rfl, ho m hopen⟩
    · exact ⟨m, rfl, hopen⟩

/-- Opening a menu steers the tree. -/
theorem steered_openMenu (t : MenuTree) (id : MenuId) : t.Steered (t.openMenu id) :=
  steered_update t id Menu.bare_opened fun _ _ => rfl

/-- Closing what is below a menu never closes the root. -/
theorem Rooted.root_not_mem_openBelow (h : t.Rooted) (id : MenuId) : t.root ∉ t.openBelow id := by
  intro hmem
  obtain ⟨p, _, hp⟩ := Relation.TransGen.tail'_iff.1 (strictlyBelow_of_mem_openBelow hmem)
  exact h.ne_root_of_isChild hp rfl

/-- Closing what is below a menu does not close the root. -/
theorem Rooted.steered_closeChildren (h : t.Rooted) (id : MenuId) :
    t.Steered (t.closeChildren id) where
  bare := bare_closeChildren t id
  isOpen hr := by
    have hroot : (t.closeChildren id).get? t.root = t.get? t.root := by
      rw [get?_closeChildren, if_neg (h.root_not_mem_openBelow id)]
    rw [isOpen_iff] at hr ⊢
    rw [root_of_bare_eq (bare_closeChildren t id), hroot]
    exact hr

/-- Moving the focus closes menus below, opens others and leaves the root open if it was. -/
theorem Rooted.steered_focusOn (h : t.Rooted) (id : MenuId) (index : Nat)
    (child? : Option MenuId) : t.Steered (t.focusOn id index child?) := by
  have hu : t.Steered ((t.closeChildren id).update id fun m =>
      (m.clearFocus.opened).highlight index) :=
    (h.steered_closeChildren id).trans
      (steered_update _ id (fun m => by simp) fun _ _ => rfl)
  cases child? with
  | none => exact hu
  | some child => exact hu.trans (steered_openMenu _ child)

end MenuTree

namespace MenuPanel

variable {p q : MenuPanel}

/-- Moving the focus of a panel steers its tree. -/
theorem steered_focus? (h : p.tree.Rooted) {id : MenuId} {index : Nat}
    (hq : p.focus? id index = some q) : p.tree.Steered q.tree := by
  obtain ⟨_, _, o, _, _, _, rfl⟩ := focus?_eq_some_iff.1 hq
  exact h.steered_focusOn id index o.child?

theorem steered_focus (h : p.tree.Rooted) (id : MenuId) (index : Nat) :
    p.tree.Steered (p.focus id index).tree := by
  unfold focus
  cases hq : p.focus? id index with
  | none => exact .refl _
  | some q => exact steered_focus? h hq

/-- A step within the focused menu steers the tree. -/
theorem steered_stepFocus (h : p.tree.Rooted) (step : Nat → Option Nat → Nat) :
    p.tree.Steered (p.stepFocus step).tree := by
  unfold stepFocus
  split
  · exact .refl _
  · split
    · exact .refl _
    · exact steered_focus h _ _

/-- Following a link steers the tree, up to the focus that is moved next. -/
theorem steered_follow (p : MenuPanel) (id : MenuId) (index : Nat) (child : MenuId) :
    p.tree.Steered (p.follow id index child).tree := by
  rw [tree_follow]
  exact (MenuTree.steered_update p.tree id (fun m => m.bare_openedLink (some index))
    fun _ ho => ho).trans (MenuTree.steered_openMenu _ child)

/-- Following a link with the focus steers the tree. -/
theorem steered_openSubMenu? (h : p.tree.Rooted) (hq : p.openSubMenu? = some q) :
    p.tree.Steered q.tree := by
  obtain ⟨id, _, index, _, child, _, _, _, _, _, rfl⟩ := openSubMenu?_eq_some_iff.1 hq
  have hf := p.steered_follow id index child
  exact hf.trans (steered_focus (h.of_bare_eq hf.bare) child 0)

/-- Coming back into a menu steers the tree. -/
theorem steered_backAt (h : p.tree.Rooted) {parent : MenuId} (hl : p.BackAt parent q) :
    p.tree.Steered q.tree := by
  rcases hl with hl | ⟨_, rfl⟩
  · obtain ⟨_, _, hl⟩ := Option.bind_eq_some_iff.1 hl
    exact steered_focus? h hl
  · exact MenuTree.steered_update p.tree parent Menu.bare_clearFocus fun _ ho => ho

/-- Going back closes menus below another one, so the root stays as it is. -/
theorem steered_closeSubMenu? (h : p.tree.Rooted) (hq : p.closeSubMenu? = some q) :
    p.tree.Steered q.tree := by
  obtain ⟨_, _, parent, left, _, _, _, hl, rfl⟩ := closeSubMenu?_eq_some_iff.1 hq
  have hleft := steered_backAt h hl
  exact hleft.trans ((h.of_bare_eq hleft.bare).steered_closeChildren parent)

/-- Selecting a link opens a menu, and selecting a leaf does nothing to the tree. -/
theorem steered_select (p : MenuPanel) : p.tree.Steered p.select.2.tree := by
  unfold select
  split
  · exact .refl _
  · split
    · exact MenuTree.steered_openMenu _ _
    · exact .refl _

/-- Closing or opening all menus keeps the shape of the tree. -/
theorem bare_toggleRoot (p : MenuPanel) : p.toggleRoot.tree.bare = p.tree.bare := by
  unfold toggleRoot
  split
  · exact MenuTree.bare_closeMenu _ _
  · exact MenuTree.bare_openMenu _ _

end MenuPanel

end StructEdit
