import StructEdit.Proofs.Menu.Chain

/-!
# StructEdit.Proofs.Menu.Superseding

Building menus anew. What was there before, and where the focus was in it, counts for
nothing: menus that are built are shown for the first time (`MenuController.ShowsAnew`), and
where none are built none are left (`MenuController.IsCleared`). Main statement:
`MenuController.supersedes_of_builder`, for whatever was done to the menus before.
-/

namespace StructEdit

/-! ## Trees and panels -/

namespace MenuTree

variable {t : MenuTree}

/-- Opening the root of a closed tree opens nothing else. -/
theorem Rooted.isOpen_openRoot (h : t.Rooted) (hc : t.Every (·.isOpen = false)) {id : MenuId} :
    (t.openMenu t.root).isOpen id = true ↔ id = t.root := by
  rw [isOpen_iff, openMenu, get?_update]
  constructor
  · rintro ⟨m, hm, hopen⟩
    by_contra hne
    rw [if_neg hne] at hm
    rw [hc id m hm] at hopen
    contradiction
  · rintro rfl
    obtain ⟨m, hm⟩ := h.root_live
    exact ⟨m.opened, by rw [if_pos rfl, hm, Option.map_some], rfl⟩

theorem Every.openMenu_unfocused (h : t.Every fun m => ∀ o ∈ m.options, o.focused = false)
    (id : MenuId) : (t.openMenu id).Every fun m => ∀ o ∈ m.options, o.focused = false :=
  forall_update h id fun _ _ hm => hm

end MenuTree

/-! ## The menus of an editor -/

namespace MenuController

variable {c d : MenuController}

/-- The menus of a tree are there as they are shown for the first time: the focus is on the
root, which alone is open, and on no option. -/
structure ShowsAnew (c : MenuController) (t : MenuTree) : Prop where
  tree : c.tree? = some t
  menus : c.menus = t.preorder
  isOpen : c.isOpen = true
  open_iff : ∀ id, t.isOpen id = true ↔ id = t.root
  focusedMenu : c.focusedMenuId? = some t.root
  focusedOption : c.focusedOption? = none
  unfocused : ∀ id m, t.get? id = some m → ∀ o ∈ m.options, o.focused = false

/-- There are no menus, and there is no focus. -/
structure IsCleared (c : MenuController) : Prop where
  tree : c.tree? = none
  menus : c.menus = []
  isOpen : c.isOpen = false
  focusedMenu : c.focusedMenuId? = none
  focusedOption : c.focusedOption? = none

theorem isCleared_remove (c : MenuController) : c.remove.IsCleared := by constructor <;> rfl

theorem Tidy.isCleared (h : c.Tidy) (hp : c.panel = none) : c.IsCleared := by
  rw [h (panel_eq_none_iff.1 hp)]
  exact c.isCleared_remove

theorem showsAnew_ofTree {t : MenuTree} (h : t.Rooted) (hc : t.Every (·.isOpen = false))
    (hf : t.Every fun m => ∀ o ∈ m.options, o.focused = false)
    (hp : c.panel = some (.ofTree t)) : c.ShowsAnew (t.openMenu t.root) := by
  have hbare : (t.openMenu t.root).bare = t.bare := MenuTree.bare_openMenu t t.root
  have hfirst : t.preorder[0]? = some t.root := by
    rw [← List.head?_eq_getElem?, h.head?_preorder]
  constructor
  case tree => rw [tree?_of_panel hp, MenuPanel.ofTree]
  case menus =>
    rw [MenuTree.preorder_of_bare_eq hbare, menus_of_panel hp]
    rfl
  case isOpen =>
    rw [isOpen_of_panel hp]
    exact (h.isOpen_openRoot hc).2 rfl
  case open_iff => exact fun id => h.isOpen_openRoot hc
  case focusedMenu =>
    rw [focusedMenuId?_of_panel hp]
    exact hfirst
  case focusedOption => rw [focusedOption?_of_panel hp, MenuPanel.ofTree]
  case unfocused => exact hf.openMenu_unfocused t.root

/-- Menus that are built are shown anew, and where none are built none are left. -/
theorem shows_build (h : c.Tidy) (entries : Entries) (rootKey : String)
    (actions : String → Option Selection) (anchor : Anchor) :
    let r := (MenuCommand.build entries rootKey actions anchor).run c
    (r.1 = .flag true ∧ ∃ t, r.2.ShowsAnew t) ∨ (r.1 = .flag false ∧ r.2.IsCleared) := by
  have hpanel := c.panel_build entries rootKey actions anchor
  simp only [MenuCommand.run, build_fst]
  cases ht : MenuTree.build? entries rootKey actions c.config.docs.find? anchor with
  | none =>
    rw [ht, Option.map_none] at hpanel
    exact .inr ⟨rfl, (h.build entries rootKey actions anchor).isCleared hpanel⟩
  | some t =>
    rw [ht, Option.map_some] at hpanel
    have hrooted := MenuTree.rooted_of_build? ht
    refine .inl ⟨rfl, _, showsAnew_ofTree hrooted.collapse ?_ ?_ hpanel⟩
    · exact hrooted.closed_collapse (MenuTree.closed_of_build? ht)
    · exact hrooted.unfocused_collapse fun id m hm o ho => MenuTree.unfocused_of_build? ht hm ho

theorem shows_of_builder (h : c.Tidy) {builder : MenuCommand} (hb : builder.isBuilder = true) :
    ((builder.run c).1 = .flag true ∧ ∃ t, (builder.run c).2.ShowsAnew t) ∨
      ((builder.run c).1 = .flag false ∧ (builder.run c).2.IsCleared) := by
  cases builder with
  | build entries rootKey actions anchor => exact shows_build h entries rootKey actions anchor
  | buildFlat suggestions actions anchor =>
    simp only [MenuCommand.run, buildFlat]
    split
    · exact .inr ⟨rfl, c.isCleared_remove⟩
    · exact shows_build h _ _ actions anchor
  | buildAvailable suggestions actions anchor => exact shows_build h _ _ actions anchor
  | _ => contradiction

/-- What is built does not depend on the panel that was there. -/
theorem onPanel_of_builder {builder : MenuCommand} (hb : builder.isBuilder = true)
    (config : MenuConfig) (p q : Option MenuPanel) :
    builder.onPanel config p = builder.onPanel config q := by
  cases builder with
  | build | buildFlat | buildAvailable => rfl
  | _ => contradiction

/-- What is built does not depend on the menus that were there. -/
theorem run_eq_of_builder (hc : c.Tidy) (hd : d.Tidy) (h : c.config = d.config)
    {builder : MenuCommand} (hb : builder.isBuilder = true) : builder.run c = builder.run d := by
  have hsame : ((builder.run c).1, (builder.run c).2.panel) =
      ((builder.run d).1, (builder.run d).2.panel) := by
    rw [MenuCommand.run_eq_onPanel, MenuCommand.run_eq_onPanel, h,
      onPanel_of_builder hb d.config c.panel d.panel]
  obtain ⟨hreply, hpanel⟩ := Prod.mk.injEq .. ▸ hsame
  refine Prod.ext hreply ?_
  refine (MenuCommand.tidy_run builder hc).eq_of_panel_eq (MenuCommand.tidy_run builder hd) ?_ hpanel
  rw [MenuCommand.config_run, MenuCommand.config_run, h]

/-- Whatever was done to the menus before, a builder answers the same and leads to the same
menus. They are shown anew if there are any, and if there are none, no menu that was there
before is left, nor any focus. -/
theorem supersedes_of_builder (config : MenuConfig) (before other : List MenuCommand)
    {builder : MenuCommand} (hb : builder.isBuilder = true) :
    let r := builder.run (MenuCommand.runAll before { config })
    r = builder.run (MenuCommand.runAll other { config }) ∧
      ((r.1 = .flag true ∧ ∃ t, r.2.ShowsAnew t) ∨ (r.1 = .flag false ∧ r.2.IsCleared)) := by
  intro r
  have hconfig : (MenuCommand.runAll before { config }).config =
      (MenuCommand.runAll other { config }).config := by
    rw [MenuCommand.config_runAll, MenuCommand.config_runAll]
  have htidy := MenuCommand.tidy_runAll config
  exact ⟨run_eq_of_builder (htidy before) (htidy other) hconfig hb, shows_of_builder (htidy before) hb⟩

/-- A list of one word in place of categories that were walked through, and in place of
nothing. -/
theorem supersedes_of_words :
    let before : List MenuCommand := [.build [("Top", ["Operators", "print()"]),
      ("Operators", ["and", "or"])] "Top" (fun _ => none) ⟨0, 0⟩, .focusBelow, .openSubMenu]
    let builder : MenuCommand := .buildFlat ["while"] (fun _ => none) ⟨3, 1⟩
    let r := builder.run (MenuCommand.runAll before { config := {} })
    builder.isBuilder = true ∧ r = builder.run { config := {} } ∧ r.1 = .flag true ∧
      ∃ t, r.2.ShowsAnew t := by
  intro before builder r
  obtain ⟨hr, hshown⟩ := @supersedes_of_builder {} before [] builder rfl
  have hbuilt : r.1 = .flag true := (congrArg Prod.fst hr).trans (by decide)
  rcases hshown with ⟨_, hanew⟩ | ⟨hrefused, _⟩
  · exact ⟨rfl, hr, hbuilt, hanew⟩
  · rw [hrefused] at hbuilt
    contradiction

end MenuController

end StructEdit
