import StructEdit.Proofs.Menu.Trail

/-!
# StructEdit.Proofs.Menu.Answers

When the focus can be moved. An option can be focused just when it is there, a link followed just
when one is in focus, and a menu left just when it is not the root; where an operation answers
that it was not done, it changed nothing (`MenuController.FailsIdly`). Main statement:
`MenuController.Focused.failsIdly`.
-/

namespace StructEdit

namespace MenuController

variable {c : MenuController} {id : MenuId} {index : Nat}

/-- An option can be focused just when it is there. -/
theorem Focused.focus_eq_true_iff (h : c.Focused) :
    (c.focus id index).1 = true ↔ ∃ m, c.menu? id = some m ∧ index < m.options.length := by
  rw [focus_eq_mapPanel, isSome_panel_bind_iff]
  constructor
  · rintro ⟨p, q, hp, hq⟩
    obtain ⟨_, m, o, _, hm, ho, _⟩ := MenuPanel.focus?_eq_some_iff.1 hq
    exact ⟨m, (menu?_of_panel hp id).trans hm, (List.getElem?_eq_some_iff.1 ho).1⟩
  · rintro ⟨m, hm, hi⟩
    obtain ⟨p, hp, hm⟩ := exists_panel_of_menu? hm
    obtain ⟨q, hq⟩ := (h p hp).toSound.exists_focus? hm (List.getElem?_eq_getElem hi)
    exact ⟨p, q, hp, hq⟩

theorem focusedOption?_of_get? {m : Menu} {o : MenuOption} (hm : c.menu? id = some m)
    (ho : m.options[index]? = some o) (hid : c.focusedMenuId? = some id)
    (hi : c.focusedOption? = some index) : c.panel.bind (·.focusedOption?) = some o := by
  obtain ⟨p, hp, hm⟩ := exists_panel_of_menu? hm
  rw [focusedMenuId?_of_panel hp] at hid
  rw [focusedOption?_of_panel hp] at hi
  rw [hp, Option.bind_some]
  exact MenuPanel.focusedOption?_eq_some_iff.2 ⟨id, m, index, hid, hm, hi, ho⟩

/-- The focus can be moved to an option that is there. It is the same option then, but for being
highlighted, and menus that are open stay so. -/
theorem Focused.focus_option (h : c.Focused) {m : Menu} {o : MenuOption}
    (hm : c.menu? id = some m) (ho : m.options[index]? = some o) :
    ∃ d, c.focus id index = (true, d) ∧ (c.isOpen = true → d.isOpen = true) ∧
      (d.menu? id).bind (·.options[index]?) = some { o with focused := true } ∧
      d.panel.bind (·.focusedOption?) = some { o with focused := true } := by
  obtain ⟨p, hp, hget⟩ := exists_panel_of_menu? hm
  obtain ⟨q, hq⟩ := (h p hp).toSound.exists_focus? hget ho
  have hopen : c.isOpen = true → q.isOpen = true := by
    rw [isOpen_of_panel hp]
    exact (MenuPanel.steered_focus? (h p hp).rooted hq).isOpen
  have hfocus := focus_of_focus? hp hq
  have hid := ((h p hp).toSound.focus? hq).2
  obtain ⟨_, m', o', _, hm', ho', rfl⟩ := MenuPanel.focus?_eq_some_iff.1 hq
  obtain ⟨k, hk, _, hoptions⟩ := MenuTree.exists_menu_focusOn hget index o'.child?
  have hoption : k.options[index]? = some { o with focused := true } := by
    rw [hoptions]
    simp [Menu.highlight, Menu.opened, Menu.clearFocus, ho]
  exact ⟨_, hfocus, hopen, Option.bind_eq_some_iff.2 ⟨k, hk, hoption⟩,
    focusedOption?_of_get? hk hoption hid rfl⟩

/-- A link can be followed just when the focused option is one. -/
theorem openSubMenu_eq_true_iff :
    c.openSubMenu.1 = true ↔ ∃ o, c.panel.bind (·.focusedOption?) = some o ∧ o.isLink = true := by
  rw [openSubMenu_eq_mapPanel, isSome_panel_bind_iff]
  constructor
  · rintro ⟨p, q, hp, hq⟩
    obtain ⟨id, m, i, o, child, hid, hm, hi, ho, hc, _⟩ := MenuPanel.openSubMenu?_eq_some_iff.1 hq
    refine ⟨o, ?_, by rw [MenuOption.isLink, hc, Option.isSome_some]⟩
    rw [hp, Option.bind_some]
    exact MenuPanel.focusedOption?_eq_some_iff.2 ⟨id, m, i, hid, hm, hi, ho⟩
  · rintro ⟨o, ho, hlink⟩
    obtain ⟨p, hp, ho⟩ := Option.bind_eq_some_iff.1 ho
    obtain ⟨id, m, i, hid, hm, hi, ho⟩ := MenuPanel.focusedOption?_eq_some_iff.1 ho
    obtain ⟨child, hc⟩ := Option.isSome_iff_exists.1 hlink
    exact ⟨p, _, hp, MenuPanel.openSubMenu?_eq_some_iff.2 ⟨id, m, i, o, child, hid, hm, hi, ho, hc,
      rfl⟩⟩

/-- A menu can be left just when there is one in focus that is not the root. -/
theorem Focused.closeSubMenu_eq_true_iff (h : c.Focused) :
    c.closeSubMenu.1 = true ↔
      ∃ t, c.tree? = some t ∧ c.focusedMenuId? ≠ some t.root := by
  rw [closeSubMenu_eq_mapPanel, isSome_panel_bind_iff]
  constructor
  · rintro ⟨p, q, hp, hq⟩
    obtain ⟨id, m, parent, _, hid, hm, hparent, _⟩ := MenuPanel.closeSubMenu?_eq_some_iff.1 hq
    refine ⟨p.tree, tree?_of_panel hp, fun hroot => ?_⟩
    rw [focusedMenuId?_of_panel hp, hid, Option.some.injEq] at hroot
    subst hroot
    rw [(h p hp).rooted.parent_root m hm] at hparent
    contradiction
  · rintro ⟨t, ht, hroot⟩
    obtain ⟨p, hp, rfl⟩ := exists_panel_of_tree? ht
    obtain ⟨id, m, hid, hm, _⟩ := (h p hp).agree
    rw [focusedMenuId?_of_panel hp, hid, ne_eq, Option.some.injEq] at hroot
    obtain ⟨parent, hparent⟩ := (h p hp).rooted.exists_parent hm hroot
    have hmenu : p.focusedMenu? = some (id, m) := MenuPanel.focusedMenu?_eq_some_iff.2 ⟨hid, hm⟩
    have hleft : p.closeSubMenu? ≠ none := by simp [MenuPanel.closeSubMenu?, hmenu, hparent]
    obtain ⟨q, hq⟩ := Option.ne_none_iff_exists'.1 hleft
    exact ⟨p, q, hp, hq⟩

/-- Where the focus cannot be moved nothing changes, and it is clear when that is so. -/
structure FailsIdly (c : MenuController) : Prop where
  focus_eq : ∀ id index, (c.focus id index).1 = false → (c.focus id index).2 = c
  focus_iff : ∀ id index, (c.focus id index).1 = false ↔
    c.menu? id = none ∨ ∃ m, c.menu? id = some m ∧ m.options.length ≤ index
  openSubMenu_eq : c.openSubMenu.1 = false → c.openSubMenu.2 = c
  openSubMenu_iff : c.openSubMenu.1 = false ↔
    ∀ o, c.panel.bind (·.focusedOption?) = some o → o.isLink = false
  closeSubMenu_eq : c.closeSubMenu.1 = false → c.closeSubMenu.2 = c
  closeSubMenu_iff : c.closeSubMenu.1 = false ↔
    c.tree? = none ∨ ∃ t, c.tree? = some t ∧ c.focusedMenuId? = some t.root

theorem Focused.failsIdly (h : c.Focused) : c.FailsIdly where
  focus_eq id index := idle_setFocus id index c
  focus_iff id index := by
    rw [← Bool.not_eq_true, h.focus_eq_true_iff]
    cases hm : c.menu? id <;> simp
  openSubMenu_eq := idle_followLink c
  openSubMenu_iff := by
    rw [← Bool.not_eq_true, openSubMenu_eq_true_iff]
    simp
  closeSubMenu_eq := idle_goBack c
  closeSubMenu_iff := by
    rw [← Bool.not_eq_true, h.closeSubMenu_eq_true_iff]
    cases ht : c.tree? <;> simp

end MenuController

end StructEdit
