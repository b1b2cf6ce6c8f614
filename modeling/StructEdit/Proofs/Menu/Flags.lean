import StructEdit.Proofs.Menu.Forest

/-!
# StructEdit.Proofs.Menu.Flags

What opening, closing and highlighting leave as it is. A tree of which all menus
are closed, with nothing highlighted and no link remembered, is bare; opening,
closing and highlighting do not change the bare tree (`bare_openMenu`,
`bare_closeMenu`, `bare_closeChildren`), and what is said about options, links and
parents is a matter of the bare tree (`forest_bare`, `preorder_bare`).
-/

namespace StructEdit

/-! ## Bare menus -/

/-- The option, not highlighted. -/
def MenuOption.unfocused (o : MenuOption) : MenuOption := { o with focused := false }

/-- An option links to the same menu, highlighted or not. -/
@[simp]
theorem MenuOption.child?_unfocused (o : MenuOption) : o.unfocused.child? = o.child? := rfl

@[simp]
theorem MenuOption.unfocused_unfocused (o : MenuOption) : o.unfocused.unfocused = o.unfocused := rfl

namespace Menu

/-- The menu closed, with no option highlighted and no link remembered. -/
def bare (m : Menu) : Menu :=
  { m with options := m.options.map (·.unfocused), isOpen := false, openedLink := none }

/-- Clearing the highlight clears it on each option. -/
theorem options_clearFocus (m : Menu) : m.clearFocus.options = m.options.map (·.unfocused) := rfl

@[simp]
theorem children_bare (m : Menu) : m.bare.children = m.children := rfl

@[simp]
theorem parent_bare (m : Menu) : m.bare.parent = m.parent := rfl

@[simp]
theorem options_bare (m : Menu) : m.bare.options = m.options.map (·.unfocused) := rfl

/-- Menus that differ in open, highlighted and remembered options only are the same without these.
-/
theorem bare_eq_of_options {m n : Menu}
    (ho : n.options.map (·.unfocused) = m.options.map (·.unfocused))
    (hp : n.parent = m.parent) (hc : n.children = m.children) (ha : n.anchor = m.anchor) :
    n.bare = m.bare := by
  simp [bare, ho, hp, hc, ha]

@[simp]
theorem bare_clearFocus (m : Menu) : m.clearFocus.bare = m.bare :=
  bare_eq_of_options (by simp [options_clearFocus]) rfl rfl rfl

@[simp]
theorem bare_opened (m : Menu) : m.opened.bare = m.bare := rfl

@[simp]
theorem bare_closed (m : Menu) : m.closed.bare = m.bare := bare_clearFocus m

@[simp]
theorem bare_highlight (m : Menu) (index : Nat) : (m.highlight index).bare = m.bare := by
  refine bare_eq_of_options (List.ext_getElem? fun i => ?_) rfl rfl rfl
  by_cases hi : index = i
  · subst hi
    cases h : m.options[index]? <;> simp [highlight, h, MenuOption.unfocused]
  · simp [highlight, hi]

/-- Which link was followed last does not count. -/
@[simp]
theorem bare_openedLink (m : Menu) (link : Option Nat) :
    ({ m with openedLink := link } : Menu).bare = m.bare := rfl

end Menu

namespace MenuTree

/-! ## Bare trees -/

/-- The tree with all menus bare. -/
def bare (t : MenuTree) : MenuTree := { t with slots := t.slots.map (Option.map Menu.bare) }

@[simp]
theorem root_bare (t : MenuTree) : t.bare.root = t.root := rfl

/-- The menus of the bare tree are those of the tree, bare. -/
@[simp]
theorem get?_bare (t : MenuTree) (id : MenuId) : t.bare.get? id = (t.get? id).map Menu.bare := by
  cases h : t.slots[id]? with
  | none => simp [get?, bare, h]
  | some s => simp [get?, bare, h]

/-- Trees with the same bare tree have the same menus up to what is bare of them. -/
theorem exists_menu_of_bare_eq {t u : MenuTree} (hb : u.bare = t.bare) {id : MenuId} {m : Menu}
    (hm : u.get? id = some m) : ∃ n, t.get? id = some n ∧ n.bare = m.bare := by
  have h : (t.get? id).map Menu.bare = (u.get? id).map Menu.bare := by
    rw [← get?_bare, ← get?_bare, hb]
  rw [hm, Option.map_some] at h
  exact Option.map_eq_some_iff.1 h

/-- A property holds of every menu. -/
def Every (t : MenuTree) (Q : Menu → Prop) : Prop := ∀ id m, t.get? id = some m → Q m

/-- What is a matter of the bare menus holds of every menu if it does of those of a tree
that differs in open and highlighted menus. -/
theorem Every.of_bare_eq {t u : MenuTree} {Q : Menu → Prop} (hQ : ∀ m, Q m.bare ↔ Q m)
    (h : t.Every Q) (hb : u.bare = t.bare) : u.Every Q := by
  intro id m hm
  obtain ⟨n, hn, heq⟩ := exists_menu_of_bare_eq hb hm
  rw [← hQ, ← heq, hQ]
  exact h id n hn

/-- What holds of every menu, and is not lost when a menu is changed, holds after the
change of one menu. -/
theorem forall_update {t : MenuTree} {Q : MenuId → Menu → Prop}
    (h : ∀ i m, t.get? i = some m → Q i m) (id : MenuId) {f : Menu → Menu}
    (hf : ∀ i m, Q i m → Q i (f m)) : ∀ i m, (t.update id f).get? i = some m → Q i m := by
  intro i m hm
  rw [get?_update] at hm
  split at hm
  · obtain ⟨n, hn, rfl⟩ := Option.map_eq_some_iff.1 hm
    exact hf i n (h i n hn)
  · exact h i m hm

/-- What holds of every menu, and is not lost when a menu is changed, holds after the
change of some menus. -/
theorem forall_updateAll {t : MenuTree} {Q : MenuId → Menu → Prop}
    (h : ∀ i m, t.get? i = some m → Q i m) (ids : List MenuId) {f : Menu → Menu}
    (hf : ∀ i m, Q i m → Q i (f m)) : ∀ i m, (t.updateAll ids f).get? i = some m → Q i m := by
  intro i m hm
  rw [get?_updateAll] at hm
  split at hm
  · obtain ⟨n, hn, rfl⟩ := Option.map_eq_some_iff.1 hm
    exact hf i n (h i n hn)
  · exact h i m hm

@[simp]
theorem children_bare (t : MenuTree) (id : MenuId) : t.bare.children id = t.children id := by
  simp only [children, get?_bare]
  cases t.get? id <;> rfl

/-- What lies directly below what is told by the bare tree. -/
theorem isChild_bare (t : MenuTree) : t.bare.IsChild = t.IsChild := by
  funext p c
  simp [IsChild]

/-- What lies below what is told by the bare tree. -/
theorem below_bare (t : MenuTree) : t.bare.Below = t.Below := by
  unfold Below
  rw [isChild_bare]

theorem reach_bare (t : MenuTree) (n : Nat) (id : MenuId) :
    t.bare.reach (fun _ => true) n id = t.reach (fun _ => true) n id := by
  induction n generalizing id with
  | zero => rfl
  | succ n ih =>
    simp only [reach, get?_bare]
    cases t.get? id with
    | none => rfl
    | some m => simp [funext ih]

/-- The list of the menus is told by the bare tree. -/
@[simp]
theorem preorder_bare (t : MenuTree) : t.bare.preorder = t.preorder := by
  simp only [preorder, reach_bare, root_bare]
  simp [bare]

/-- Trees of the same shape have their menus in the same order. -/
theorem preorder_of_bare_eq {t u : MenuTree} (hb : u.bare = t.bare) : u.preorder = t.preorder := by
  rw [← preorder_bare u, hb, preorder_bare]

/-- Whether a tree is a forest is told by its shape. -/
theorem forest_bare {t : MenuTree} : t.bare.Forest ↔ t.Forest := by
  constructor
  · intro h
    constructor
    case root_live =>
      simpa using h.root_live
    case parent_root =>
      intro m hm
      simpa using h.parent_root m.bare (by simp [hm])
    case nodup_children =>
      simpa using h.nodup_children
    case parent_of_child =>
      intro p c hc
      obtain ⟨n, hn, hp⟩ := h.parent_of_child (isChild_bare t ▸ hc)
      obtain ⟨m, hm, rfl⟩ := Option.map_eq_some_iff.1 (get?_bare t c ▸ hn)
      exact ⟨m, hm, hp⟩
  · intro h
    constructor
    case root_live =>
      simpa using h.root_live
    case parent_root =>
      intro n hn
      obtain ⟨m, hm, rfl⟩ := Option.map_eq_some_iff.1 (get?_bare t _ ▸ hn)
      exact h.parent_root m hm
    case nodup_children =>
      simpa using h.nodup_children
    case parent_of_child =>
      intro p c hc
      obtain ⟨m, hm, hp⟩ := h.parent_of_child (isChild_bare t ▸ hc)
      exact ⟨m.bare, by simp [hm], hp⟩

/-! ## Changes that keep the bare tree -/

/-- A change of a menu that leaves it bare the same leaves the tree bare the same. -/
theorem bare_update (t : MenuTree) (id : MenuId) {f : Menu → Menu} (hf : ∀ m, (f m).bare = m.bare) :
    (t.update id f).bare = t.bare := by
  have hcomp : Menu.bare ∘ f = Menu.bare := funext hf
  simp only [bare, update, MenuTree.mk.injEq, and_true]
  refine List.ext_getElem? fun i => ?_
  by_cases hi : id = i
  · subst hi
    simp [hcomp]
  · simp [hi]

theorem bare_updateAll (t : MenuTree) (ids : List MenuId) {f : Menu → Menu}
    (hf : ∀ m, (f m).bare = m.bare) : (t.updateAll ids f).bare = t.bare := by
  have hcomp : Menu.bare ∘ f = Menu.bare := funext hf
  simp only [bare, updateAll, MenuTree.mk.injEq, and_true]
  refine List.ext_getElem? fun i => ?_
  by_cases hi : i ∈ ids
  · simp [hi, hcomp]
  · simp [hi]

/-- Opening a menu keeps the shape of a tree. -/
@[simp]
theorem bare_openMenu (t : MenuTree) (id : MenuId) : (t.openMenu id).bare = t.bare :=
  bare_update t id Menu.bare_opened

@[simp]
theorem bare_closeChildren (t : MenuTree) (id : MenuId) : (t.closeChildren id).bare = t.bare :=
  bare_updateAll t _ Menu.bare_closed

/-- Closing a menu keeps the shape of a tree. -/
@[simp]
theorem bare_closeMenu (t : MenuTree) (id : MenuId) : (t.closeMenu id).bare = t.bare :=
  bare_updateAll t _ Menu.bare_closed

end MenuTree

end StructEdit
