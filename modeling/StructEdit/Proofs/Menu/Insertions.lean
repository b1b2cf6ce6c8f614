import StructEdit.Proofs.Menu.Steering

/-!
# StructEdit.Proofs.Menu.Insertions

Menus of insertions. They are what suggestions and the menu of all insertions are built
as: no option takes an action as it is, and the root stays open for as long as the menus
are there (`MenuController.Offering`). Main statements: one for each thing that a session
does to its menus, from `MenuController.offering_build` to
`MenuController.Offering.select`.
-/

namespace StructEdit

/-! ## Options that insert -/

/-- No option of the menu takes an action as it is. -/
def Menu.Inserts (m : Menu) : Prop := ∀ o ∈ m.options, ∀ a, o.selection? ≠ some (.edit a)

/-- What options insert does not depend on what is open or highlighted. -/
theorem Menu.inserts_bare (m : Menu) : m.bare.Inserts ↔ m.Inserts := by
  simp [Inserts, MenuOption.unfocused, MenuOption.selection?]

/-- A menu that takes over another one inserts what the other one did. -/
theorem Menu.inserts_takeOver (m : Menu) {n : Menu} (h : n.Inserts) : (m.takeOver n).Inserts :=
  n.inserts_bare.2 h

/-- A link put in place of a leaf inserts nothing, so there is only less to insert. -/
theorem Menu.Inserts.withLink {m : Menu} (h : m.Inserts) (index : Nat) (c : MenuId) :
    (m.withLink index c).Inserts := by
  intro o ho a
  rcases Menu.mem_options_withLink ho with ho | ⟨htarget, _⟩
  · exact h o ho a
  · simp [MenuOption.selection?, htarget]

/-- Where no action on offer is an edit, no option of a tree that is built has one bound to it. -/
theorem MenuTree.inserts_of_build? {entries : List (String × List String)} {rootKey : String}
    {actions : String → Option Selection} {docs : String → Option String} {anchor : Anchor}
    {t : MenuTree} (ha : ∀ text a, actions text ≠ some (.edit a))
    (h : build? entries rootKey actions docs anchor = some t) : t.Every Menu.Inserts := by
  refine every_of_build? (fun _ _ hm => hm) (fun _ i c hm => hm.withLink i c) ?_ h
  intro texts _ o ho a
  obtain ⟨text, _, rfl⟩ := List.mem_map.1 ho
  cases hs : actions text with
  | none => simp [MenuOption.selection?]
  | some selection =>
    have hne := ha text a
    rw [hs] at hne
    simpa [MenuOption.selection?] using hne

/-! ## Panels -/

/-- Menus of insertions with their root open. -/
structure MenuPanel.Offering (p : MenuPanel) : Prop where
  rooted : p.tree.Rooted
  isOpen : p.isOpen = true
  inserts : p.tree.Every Menu.Inserts

namespace MenuPanel

variable {p q : MenuPanel}

/-- Steering changes neither what options do nor closes the root. -/
theorem Offering.of_steered (h : p.Offering) (hs : p.tree.Steered q.tree) : q.Offering where
  rooted := h.rooted.of_bare_eq hs.bare
  isOpen := hs.isOpen h.isOpen
  inserts := h.inserts.of_bare_eq Menu.inserts_bare hs.bare

/-- A tree whose options insert offers them when it is shown. -/
theorem offering_ofTree {t : MenuTree} (h : t.Rooted) (hi : t.Every Menu.Inserts) :
    (ofTree t).Offering where
  rooted := h.of_bare_eq (MenuTree.bare_openMenu t t.root)
  isOpen := by
    obtain ⟨m, hm⟩ := h.root_live
    refine MenuTree.isOpen_iff.2 ⟨m.opened, ?_, rfl⟩
    simp [ofTree, MenuTree.openMenu, MenuTree.get?_update, hm]
  inserts := hi.of_bare_eq Menu.inserts_bare (MenuTree.bare_openMenu t t.root)

/-- An edit is never what is selected. -/
theorem Offering.select_ne_edit (h : p.Offering) (a : Action) : p.select.1 ≠ some (.edit a) := by
  unfold MenuPanel.select
  split
  · simp
  · next o ho =>
    split
    · simp
    · next selection htarget =>
      intro heq
      rw [Option.some.injEq] at heq
      subst heq
      obtain ⟨⟨id, m⟩, hf, ho⟩ := Option.bind_eq_some_iff.1 ho
      obtain ⟨i, _, ho⟩ := Option.bind_eq_some_iff.1 ho
      have hm := (focusedMenu?_eq_some_iff.1 hf).2
      refine h.inserts id m hm o (List.mem_of_getElem? ho) a ?_
      simp [MenuOption.selection?, htarget]

end MenuPanel

/-! ## The menus of an editor -/

namespace MenuController

variable {c : MenuController}

/-- The menus that there are, if there are any, are menus of insertions with their root
open. -/
def Offering (c : MenuController) : Prop := c.All MenuPanel.Offering

/-- Menus built of insertions offer insertions. -/
theorem offering_build {actions : String → Option Selection}
    (ha : ∀ text a, actions text ≠ some (.edit a)) (entries : Entries) (rootKey : String)
    (anchor : Anchor) : (c.build entries rootKey actions anchor).2.Offering :=
  c.all_build fun t ht => by
    have hrooted := MenuTree.rooted_of_build? ht
    refine MenuPanel.offering_ofTree hrooted.collapse ?_
    exact hrooted.every_collapse (fun _ _ hm => hm) (fun m _ _ hn => m.inserts_takeOver hn)
      (MenuTree.inserts_of_build? ha ht)

theorem offering_buildFlat {actions : String → Option Selection}
    (ha : ∀ text a, actions text ≠ some (.edit a)) (suggestions : List String)
    (anchor : Anchor) : (c.buildFlat suggestions actions anchor).2.Offering :=
  all_buildFlat fun entries rootKey => offering_build ha entries rootKey anchor

/-- Moving the focus keeps menus of insertions, and so do the operations below. -/
theorem Offering.stepFocus (h : c.Offering) (step : Nat → Option Nat → Nat) :
    (c.stepFocus step).Offering :=
  All.stepFocus h fun hp => hp.of_steered (MenuPanel.steered_stepFocus hp.rooted step)

theorem Offering.focus (h : c.Offering) (id : MenuId) (index : Nat) :
    (c.focus id index).2.Offering :=
  All.focus h fun hp hq => hp.of_steered (MenuPanel.steered_focus? hp.rooted hq)

theorem Offering.openSubMenu (h : c.Offering) : c.openSubMenu.2.Offering :=
  All.openSubMenu h fun hp hq => hp.of_steered (MenuPanel.steered_openSubMenu? hp.rooted hq)

theorem Offering.closeSubMenu (h : c.Offering) : c.closeSubMenu.2.Offering :=
  All.closeSubMenu h fun hp hq => hp.of_steered (MenuPanel.steered_closeSubMenu? hp.rooted hq)

theorem Offering.select (h : c.Offering) : c.select.2.Offering :=
  All.select h fun hp => hp.of_steered (MenuPanel.steered_select _)

/-- What is selected in menus of insertions is not an action as it is. -/
theorem Offering.select_ne_edit (h : c.Offering) (a : Action) : c.select.1 ≠ some (.edit a) := by
  rw [select_eq_mapPanel]
  cases hp : c.panel with
  | none => simp
  | some p => exact (h p hp).select_ne_edit a

/-- There are such menus just when their root is open. -/
theorem Offering.isSome_tree?_iff (h : c.Offering) : c.tree?.isSome = true ↔ c.isOpen = true := by
  cases hp : c.panel with
  | none => simp [isOpen, panel_eq_none_iff.1 hp]
  | some p => rw [tree?_of_panel hp, isOpen_of_panel hp, (h p hp).isOpen, Option.isSome_some]

end MenuController

end StructEdit
