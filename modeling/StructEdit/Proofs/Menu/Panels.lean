import StructEdit.Menu.Command
import StructEdit.Proofs.Menu.Building
import StructEdit.Proofs.Menu.Collapsing

/-!
# StructEdit.Proofs.Menu.Panels

The menus of an editor as one value. Where there is a tree, the fields of a controller make
a panel (`MenuController.panel`), and each operation on the menus does to the panel what the
operation of the same name on panels does: `MenuCommand.run_eq_onPanel` for one operation and
`MenuCommand.panel_runAll` for all of them. Where there is no tree there are no menus and no
focus left over (`MenuCommand.tidy_runAll`), so the panel and the configuration tell all
(`MenuController.Tidy.eq_of_panel_eq`).

The programs that can be refused look first and change afterwards: one that answers that it
was not done has changed nothing (`MenuController.idle_setFocus`, `MenuController.idle_followLink`,
`MenuController.idle_goBack`).
-/

namespace StructEdit

/-! ## Trees that are shown for the first time -/

namespace MenuTree

variable {t : MenuTree}

/-- All menus of a tree that is built are closed. -/
theorem closed_of_build? {entries : List (String × List String)} {rootKey : String}
    {actions : String → Option Selection} {docs : String → Option String} {anchor : Anchor}
    (h : build? entries rootKey actions docs anchor = some t) : t.Every (·.isOpen = false) :=
  every_of_build? (fun _ _ hm => hm) (fun m i c hm => (m.isOpen_withLink i c).trans hm)
    (fun _ _ => rfl) h

/-- A menu that takes over another one stays closed. -/
theorem Rooted.closed_collapse (h : t.Rooted) (hc : t.Every (·.isOpen = false)) :
    t.collapse.Every (·.isOpen = false) :=
  h.every_collapse (fun _ _ hm => hm) (fun _ _ hm _ => hm) hc

/-- A closed tree is closed at its root. -/
theorem Every.isOpen_eq_false (hc : t.Every (·.isOpen = false)) (id : MenuId) :
    t.isOpen id = false := by
  unfold isOpen
  cases hm : t.get? id with
  | none => rfl
  | some m => exact hc id m hm

end MenuTree

/-- No option of a menu without options can be focused. -/
theorem MenuPanel.focus_of_isEmpty {p : MenuPanel} {id : MenuId}
    (h : (p.tree.get? id).any (!·.options.isEmpty) = false) (index : Nat) :
    p.focus id index = p := by
  unfold focus focus?
  cases hm : p.tree.get? id with
  | none => simp
  | some m =>
    have hempty : m.options = [] := by simpa [hm] using h
    simp [hempty]

namespace MenuController

variable {c d : MenuController}

/-! ## Programs that give up -/

section Programs

/-- A program that is never refused. -/
def Succeeds (x : StateM MenuController Bool) : Prop := ∀ c, (x.run c).run.1 = true

/-- A program that, where it is refused, has changed nothing. -/
def Idle (x : StateM MenuController Bool) : Prop :=
  ∀ c, (x.run c).run.1 = false → (x.run c).run.2 = c

variable {α : Type} {x : StateM MenuController Bool} {y : StateM MenuController α}
  {f : α → StateM MenuController Bool} {g : MenuController → StateM MenuController Bool}

theorem Succeeds.done : Succeeds (pure true) := fun _ => rfl

/-- What comes before does not count, whatever it changes. -/
theorem Succeeds.after (h : ∀ a, Succeeds (f a)) : Succeeds (y >>= f) := fun _ => h _ _

/-- A program that is never refused has nothing to leave unchanged. -/
theorem Succeeds.idle (h : Succeeds x) : Idle x := by
  intro c hc
  rw [h c] at hc
  contradiction

/-- To give up at once changes nothing. -/
theorem Idle.giveUp : Idle (pure false) := fun _ _ => rfl

/-- Looking changes nothing. -/
theorem Idle.look (h : ∀ c, Idle (g c)) : Idle (get >>= g) := fun c => h c c

-- In each of the three programs the branches that give up come before the first change, which
-- is where `Succeeds` takes over.

/-- Where the focus cannot be moved to an option nothing was changed. -/
theorem idle_setFocus (id : MenuId) (index : Nat) : Idle (setFocus id index) := by
  unfold setFocus
  refine .look fun c => ?_
  split
  · refine .look fun c => ?_
    split
    · split
      · refine Succeeds.idle (.after fun _ => .after fun _ => ?_)
        dsimp only
        split
        · exact .after fun _ => .after fun _ => .done
        · exact .after fun _ => .done
      · exact .giveUp
    · exact .giveUp
  · exact .giveUp

/-- Where there is no link to follow nothing was changed. -/
theorem idle_followLink : Idle followLink := by
  unfold followLink
  refine .look fun c => ?_
  split
  · refine .look fun c => ?_
    split
    · refine .look fun c => ?_
      split
      · split
        · exact Succeeds.idle (.after fun _ => .after fun _ => .after fun _ => .done)
        · exact .giveUp
      · exact .giveUp
    · exact .giveUp
  · exact .giveUp

/-- Where there is no menu to go back to nothing was changed. -/
theorem idle_goBack : Idle goBack := by
  unfold goBack
  refine .look fun c => ?_
  split
  · refine .look fun c => ?_
    split
    · exact Succeeds.idle (.after fun _ => .after fun _ => .done)
    · exact .giveUp
  · exact .giveUp

end Programs

/-! ## The panel -/

/-- The tree with the focus in it, if there is a tree. -/
def panel (c : MenuController) : Option MenuPanel :=
  c.tree?.map fun tree =>
    { tree, menus := c.menus, focusedMenu := c.focusedMenu, focusedOption := c.focusedOption? }

/-- The controller whose tree and focus are those of a panel. -/
def withPanel (c : MenuController) (p : MenuPanel) : MenuController where
  config := c.config
  tree? := p.tree
  menus := p.menus
  focusedMenu := p.focusedMenu
  focusedOption? := p.focusedOption

/-- The controller with its panel changed, if there is one. -/
def mapPanel (f : MenuPanel → MenuPanel) (c : MenuController) : MenuController :=
  match c.panel with
  | none => c
  | some p => c.withPanel (f p)

/-- There is no panel just when there is no tree. -/
theorem panel_eq_none_iff : c.panel = none ↔ c.tree? = none := Option.map_eq_none_iff

theorem isSome_panel (c : MenuController) : c.panel.isSome = c.tree?.isSome := Option.isSome_map

@[simp]
theorem panel_remove (c : MenuController) : c.remove.panel = none := rfl

@[simp]
theorem panel_withPanel (c : MenuController) (p : MenuPanel) :
    (c.withPanel p).panel = some p := rfl

/-- A controller is made of its own panel. -/
theorem withPanel_eq_self {p : MenuPanel} (h : c.panel = some p) : c.withPanel p = c := by
  obtain ⟨t, ht, rfl⟩ := Option.map_eq_some_iff.1 h
  unfold withPanel
  rw [← ht]

/-- To change the panel is to change it where there is one. -/
@[simp]
theorem panel_mapPanel (f : MenuPanel → MenuPanel) (c : MenuController) :
    (c.mapPanel f).panel = c.panel.map f := by
  unfold mapPanel
  cases h : c.panel with
  | none => exact h
  | some p => rfl

/-- The configuration is not part of the panel. -/
@[simp]
theorem config_mapPanel (f : MenuPanel → MenuPanel) (c : MenuController) :
    (c.mapPanel f).config = c.config := by
  unfold mapPanel
  split <;> rfl

/-- Where there is no tree, there is nothing to change. -/
theorem mapPanel_of_tree?_eq_none (h : c.tree? = none) (f : MenuPanel → MenuPanel) :
    c.mapPanel f = c := by
  rw [mapPanel, panel_eq_none_iff.2 h]

@[simp]
theorem mapPanel_withPanel (c : MenuController) (p : MenuPanel) (f : MenuPanel → MenuPanel) :
    (c.withPanel p).mapPanel f = c.withPanel (f p) := rfl

/-- What holds of the menus of an editor when there is no tree, and when there is a panel, holds
of them. -/
@[elab_as_elim]
theorem panel_cases {motive : MenuController → Prop} (c : MenuController)
    (none : c.tree? = none → motive c) (some : ∀ p, motive (c.withPanel p)) : motive c := by
  cases h : c.panel with
  | none => exact none (panel_eq_none_iff.1 h)
  | some p => exact withPanel_eq_self h ▸ some p

/-! ## What the operations do to it -/

/-! ### Moving the focus -/

/-- The program that moves the focus looks for the menu and the option in the same places, and
comes to the same panel. -/
theorem focus_withPanel (c : MenuController) (p : MenuPanel) (id : MenuId) (index : Nat) :
    (c.withPanel p).focus id index =
      ((p.focus? id index).isSome, c.withPanel (p.focus id index)) := by
  unfold focus setFocus MenuPanel.focus MenuPanel.focus?
  cases hp : p.menus.idxOf? id with
  | none => simp [withPanel, hp]
  | some position =>
    cases hm : p.tree.get? id with
    | none => simp [withPanel, hp, hm]
    | some m =>
      cases ho : m.options[index]? with
      | none => simp [withPanel, hp, hm, ho]
      | some o => cases hc : o.child? <;> simp [withPanel, modifyTree, hp, hm, ho, hc]

/-- To move the focus is to move it in the panel; it can be refused there only. -/
theorem focus_eq_mapPanel (c : MenuController) (id : MenuId) (index : Nat) :
    c.focus id index =
      ((c.panel.bind (·.focus? id index)).isSome, c.mapPanel (·.focus id index)) := by
  refine panel_cases c (fun h => ?_) fun p => c.focus_withPanel p id index
  rw [panel_eq_none_iff.2 h, mapPanel_of_tree?_eq_none h]
  cases hp : c.menus.idxOf? id <;> simp [focus, setFocus, hp, h]

/-- Where the focused menu has no options, neither the fields nor the panel change. -/
theorem stepFocus_withPanel (c : MenuController) (p : MenuPanel)
    (step : Nat → Option Nat → Nat) :
    (c.withPanel p).stepFocus step = c.withPanel (p.stepFocus step) := by
  have hid : (c.withPanel p).focusedMenuId? = p.focusedMenuId? := rfl
  have hindex : (c.withPanel p).focusedOption? = p.focusedOption := rfl
  have hmenu (id : MenuId) : (c.withPanel p).menu? id = p.tree.get? id := rfl
  unfold stepFocus focusedLength? MenuPanel.stepFocus MenuPanel.focusedMenu?
  rw [hid]
  cases hid : p.focusedMenuId? with
  | none => rfl
  | some id =>
    cases hm : p.tree.get? id with
    | none => simp [hmenu, hm]
    | some m =>
      rcases Nat.eq_zero_or_pos m.options.length with hlength | hlength
      · simp [hmenu, hm, hlength]
      · have hne : m.options ≠ [] := List.ne_nil_of_length_pos hlength
        simp [hmenu, hindex, hm, hlength, hne, focus_withPanel]

theorem stepFocus_eq_mapPanel (c : MenuController) (step : Nat → Option Nat → Nat) :
    c.stepFocus step = c.mapPanel (·.stepFocus step) := by
  refine panel_cases c (fun h => ?_) fun p => c.stepFocus_withPanel p step
  have hlength : c.focusedLength? = none := by
    unfold focusedLength? menu?
    rw [h]
    cases c.focusedMenuId? <;> rfl
  rw [mapPanel_of_tree?_eq_none h, stepFocus, hlength]

/-! ### Going down and up -/

/-- To change the tree is to change that of the panel. -/
theorem run_modifyTree (c : MenuController) (p : MenuPanel) (f : MenuTree → MenuTree) :
    (modifyTree f).run (c.withPanel p) = pure ((), c.withPanel { p with tree := f p.tree }) := rfl

/-- The program that enters a menu enters it in the panel. -/
theorem run_enter (c : MenuController) (p : MenuPanel) (id : MenuId) :
    (enter id).run (c.withPanel p) = pure ((), c.withPanel (p.enter id)) := by
  -- Whether there are options is looked up before the focus is moved; it is the same tree.
  have hmoved (q : MenuPanel) (hq : q.tree = p.tree) :
      ((if (p.tree.get? id).any (!·.options.isEmpty) then discard (setFocus id 0) else pure ()) :
        StateM MenuController Unit).run (c.withPanel q) = pure ((), c.withPanel (q.focus id 0)) := by
    split
    · exact congrArg (fun r : Bool × MenuController => (pure ((), r.2) : Id _))
        (c.focus_withPanel q id 0)
    · next h =>
      rw [q.focus_of_isEmpty (by simpa [hq] using h)]
      rfl
  have hmenus : (c.withPanel p).menus = p.menus := rfl
  have hmenu : (c.withPanel p).menu? id = p.tree.get? id := rfl
  unfold enter MenuPanel.enter
  cases hid : p.menus.idxOf? id with
  | none =>
    simp only [hmenus, hmenu, hid, StateT.run_bind, StateT.run_get, pure_bind]
    exact hmoved p rfl
  | some position =>
    simp only [hmenus, hmenu, hid, StateT.run_bind, StateT.run_get, pure_bind, StateT.run_modify]
    exact hmoved { p with focusedMenu := position, focusedOption := none } rfl

/-- The program that follows a link is refused where the panel has no link to follow. -/
theorem openSubMenu_withPanel (c : MenuController) (p : MenuPanel) :
    (c.withPanel p).openSubMenu = (p.openSubMenu?.isSome, c.withPanel (p.openSubMenu?.getD p)) := by
  have hid : (c.withPanel p).focusedMenuId? = p.focusedMenuId? := rfl
  have hindex : (c.withPanel p).focusedOption? = p.focusedOption := rfl
  have htree : (c.withPanel p).tree? = some p.tree := rfl
  unfold openSubMenu followLink MenuPanel.openSubMenu? MenuPanel.focusedMenu?
  cases hi : p.focusedMenuId? with
  | none => simp [hid, hi]
  | some id =>
    cases hj : p.focusedOption with
    | none => simp [hid, hi, hindex, hj]
    | some index =>
      cases hm : p.tree.get? id with
      | none => simp [hid, hi, hindex, hj, htree, hm]
      | some m =>
        cases ho : m.options[index]? with
        | none => simp [hid, hi, hindex, hj, htree, hm, ho]
        | some o =>
          cases hc : o.child? with
          | none => simp [hid, hi, hindex, hj, htree, hm, ho, hc]
          | some child =>
            simp [hid, hi, hindex, hj, htree, hm, ho, hc, run_modifyTree, run_enter]

/-- To follow the focused link is to follow that of the panel. -/
theorem openSubMenu_eq_mapPanel (c : MenuController) :
    c.openSubMenu =
      ((c.panel.bind (·.openSubMenu?)).isSome, c.mapPanel fun p => p.openSubMenu?.getD p) := by
  refine panel_cases c (fun h => ?_) c.openSubMenu_withPanel
  rw [panel_eq_none_iff.2 h, mapPanel_of_tree?_eq_none h]
  cases hid : c.focusedMenuId? <;> cases hi : c.focusedOption? <;>
    simp [openSubMenu, followLink, hid, hi, h]

/-- The program that goes back into a menu goes back into it in the panel. -/
theorem run_reenter (c : MenuController) (p : MenuPanel) (id : MenuId) :
    (reenter id).run (c.withPanel p) = pure ((), c.withPanel (p.reenter id)) := by
  have hmenu : (c.withPanel p).menu? id = p.tree.get? id := rfl
  have hfocus (index : Nat) : (setFocus id index).run (c.withPanel p) =
      pure ((p.focus? id index).isSome, c.withPanel (p.focus id index)) :=
    congrArg (pure : _ → Id _) (c.focus_withPanel p id index)
  have hclear : (do
        modifyTree (·.update id Menu.clearFocus)
        modify fun c => { c with focusedMenu := (c.menus.idxOf? id).getD 0, focusedOption? := none }
      : StateM MenuController Unit).run (c.withPanel p) = pure ((), c.withPanel { p with
        tree := p.tree.update id Menu.clearFocus
        focusedMenu := (p.menus.idxOf? id).getD 0
        focusedOption := none }) := rfl
  unfold reenter MenuPanel.reenter
  cases hl : (p.tree.get? id).bind (·.openedLink) with
  | none => simpa [hmenu, hl] using hclear
  | some index =>
    cases hf : p.focus? id index with
    | none =>
      have hstay : p.focus id index = p := by rw [MenuPanel.focus, hf, Option.getD_none]
      simpa [hmenu, hl, hfocus, hf, hstay] using hclear
    | some q => simp [hmenu, hl, hfocus, hf, MenuPanel.focus]

/-- The program that goes back is refused where the focused menu of the panel has no menu above
it. -/
theorem closeSubMenu_withPanel (c : MenuController) (p : MenuPanel) :
    (c.withPanel p).closeSubMenu =
      (p.closeSubMenu?.isSome, c.withPanel (p.closeSubMenu?.getD p)) := by
  have hid : (c.withPanel p).focusedMenuId? = p.focusedMenuId? := rfl
  have hmenu (id : MenuId) : (c.withPanel p).menu? id = p.tree.get? id := rfl
  unfold closeSubMenu goBack MenuPanel.closeSubMenu? MenuPanel.focusedMenu?
  cases hi : p.focusedMenuId? with
  | none => simp [hid, hi]
  | some id =>
    cases hm : p.tree.get? id with
    | none => simp [hid, hi, hmenu, hm]
    | some m =>
      cases hparent : m.parent with
      | none => simp [hid, hi, hmenu, hm, hparent]
      | some parent => simp [hid, hi, hmenu, hm, hparent, run_modifyTree, run_reenter]

/-- To go back is to go back in the panel. -/
theorem closeSubMenu_eq_mapPanel (c : MenuController) :
    c.closeSubMenu =
      ((c.panel.bind (·.closeSubMenu?)).isSome, c.mapPanel fun p => p.closeSubMenu?.getD p) := by
  refine panel_cases c (fun h => ?_) c.closeSubMenu_withPanel
  rw [panel_eq_none_iff.2 h, mapPanel_of_tree?_eq_none h]
  cases hid : c.focusedMenuId? <;> simp [closeSubMenu, goBack, menu?, hid, h]

/-! ### Opening, closing and selecting -/

/-- To close or open all menus is to do it in the panel. -/
theorem toggleRoot_withPanel (c : MenuController) (p : MenuPanel) :
    (c.withPanel p).toggleRoot = c.withPanel p.toggleRoot := by
  unfold MenuPanel.toggleRoot
  split
  · next hopen => exact if_pos hopen
  · next hclosed => exact if_neg hclosed

theorem toggleRoot_eq_mapPanel (c : MenuController) :
    c.toggleRoot = c.mapPanel (·.toggleRoot) := by
  refine panel_cases c (fun h => ?_) c.toggleRoot_withPanel
  rw [mapPanel_of_tree?_eq_none h, toggleRoot, h]

/-- What the focused option does is what that of the panel does. -/
theorem select_withPanel (c : MenuController) (p : MenuPanel) :
    (c.withPanel p).select = (p.select.1, c.withPanel p.select.2) := by
  have hid : (c.withPanel p).focusedMenuId? = p.focusedMenuId? := rfl
  have hindex : (c.withPanel p).focusedOption? = p.focusedOption := rfl
  have htree : (c.withPanel p).tree? = some p.tree := rfl
  unfold select selectFocused MenuPanel.select MenuPanel.focusedOption? MenuPanel.focusedMenu?
  cases hi : p.focusedMenuId? with
  | none => simp [hid, hi]
  | some id =>
    cases hj : p.focusedOption with
    | none => cases hm : p.tree.get? id <;> simp [hid, hi, hindex, hj, hm]
    | some index =>
      cases hm : p.tree.get? id with
      | none => simp [hid, hi, hindex, hj, htree, hm]
      | some m =>
        cases ho : m.options[index]? with
        | none => simp [hid, hi, hindex, hj, htree, hm, ho]
        | some o =>
          cases htarget : o.target <;>
            simp [hid, hi, hindex, hj, htree, hm, ho, htarget, run_modifyTree]

theorem select_eq_mapPanel (c : MenuController) :
    c.select = (c.panel.bind (·.select.1), c.mapPanel (·.select.2)) := by
  refine panel_cases c (fun h => ?_) c.select_withPanel
  rw [panel_eq_none_iff.2 h, mapPanel_of_tree?_eq_none h]
  cases hid : c.focusedMenuId? <;> cases hi : c.focusedOption? <;>
    simp [select, selectFocused, hid, hi, h]

/-! ### Building -/

/-- The list of menus that is made for a tree that is closed, and the root that is opened, are
what the tree is shown with for the first time. -/
theorem panel_build (c : MenuController) (entries : Entries) (rootKey : String)
    (actions : String → Option Selection) (anchor : Anchor) :
    (c.build entries rootKey actions anchor).2.panel =
      (MenuTree.build? entries rootKey actions c.config.docs.find? anchor).map
        fun t => .ofTree t.collapse := by
  unfold build
  cases ht : MenuTree.build? entries rootKey actions c.config.docs.find? anchor with
  | none =>
    dsimp only
    split
    · rfl
    · next hno => exact panel_eq_none_iff.2 (by simpa using hno)
  | some t =>
    have hrooted := MenuTree.rooted_of_build? ht
    have hclosed : t.collapse.isOpen t.collapse.root = false :=
      (hrooted.closed_collapse (MenuTree.closed_of_build? ht)).isOpen_eq_false _
    simp only [listMenus, toggleRoot, Option.map_some, Option.getD_some, hclosed,
      Bool.false_eq_true, if_false]
    rfl

/-- The answer of building is whether there is a tree to show. -/
theorem build_fst (c : MenuController) (entries : Entries) (rootKey : String)
    (actions : String → Option Selection) (anchor : Anchor) :
    (c.build entries rootKey actions anchor).1 =
      (MenuTree.build? entries rootKey actions c.config.docs.find? anchor).isSome := by
  unfold build
  dsimp only
  split <;> simp [*]

/-- Building keeps the configuration. -/
theorem config_build (c : MenuController) (entries : Entries) (rootKey : String)
    (actions : String → Option Selection) (anchor : Anchor) :
    (c.build entries rootKey actions anchor).2.config = c.config := by
  have hbare : (if c.tree?.isSome then c.remove else c).config = c.config := by split <;> rfl
  unfold build
  dsimp only
  split
  · exact hbare
  · rwa [toggleRoot_eq_mapPanel, config_mapPanel]

/-- One menu is built of one entry under the name of the root, if there are suggestions. -/
theorem panel_buildFlat (c : MenuController) (suggestions : List String)
    (actions : String → Option Selection) (anchor : Anchor) :
    (c.buildFlat suggestions actions anchor).2.panel =
      if suggestions.isEmpty then none
      else (MenuTree.build? [(c.config.root, suggestions)] c.config.root actions
        c.config.docs.find? anchor).map fun t => .ofTree t.collapse := by
  unfold buildFlat
  split
  · rfl
  · exact c.panel_build ..

theorem panel_focus (c : MenuController) (id : MenuId) (index : Nat) :
    (c.focus id index).2.panel = c.panel.map (·.focus id index) := by
  rw [focus_eq_mapPanel, panel_mapPanel]

theorem panel_stepFocus (c : MenuController) (step : Nat → Option Nat → Nat) :
    (c.stepFocus step).panel = c.panel.map (·.stepFocus step) := by
  rw [stepFocus_eq_mapPanel, panel_mapPanel]

theorem panel_focusBelow (c : MenuController) :
    c.focusBelow.panel = c.panel.map (·.focusBelow) := c.panel_stepFocus _

theorem panel_focusAbove (c : MenuController) :
    c.focusAbove.panel = c.panel.map (·.focusAbove) := c.panel_stepFocus _

theorem panel_openSubMenu (c : MenuController) :
    c.openSubMenu.2.panel = c.panel.map fun p => p.openSubMenu?.getD p := by
  rw [openSubMenu_eq_mapPanel, panel_mapPanel]

theorem panel_closeSubMenu (c : MenuController) :
    c.closeSubMenu.2.panel = c.panel.map fun p => p.closeSubMenu?.getD p := by
  rw [closeSubMenu_eq_mapPanel, panel_mapPanel]

theorem panel_toggleRoot (c : MenuController) :
    c.toggleRoot.panel = c.panel.map (·.toggleRoot) := by
  rw [toggleRoot_eq_mapPanel, panel_mapPanel]

theorem panel_select (c : MenuController) :
    c.select.2.panel = c.panel.map (·.select.2) := by
  rw [select_eq_mapPanel, panel_mapPanel]

/-! ## What there is, read off the panel -/

section Panel

variable {p : MenuPanel} (h : c.panel = some p)

include h

/-- The fields of a controller are those of its panel. -/
theorem tree?_of_panel : c.tree? = some p.tree := by
  rw [← withPanel_eq_self h]
  rfl

theorem menus_of_panel : c.menus = p.menus := by
  rw [← withPanel_eq_self h]
  rfl

theorem menu?_of_panel (id : MenuId) : c.menu? id = p.tree.get? id := by
  rw [← withPanel_eq_self h]
  rfl

theorem focusedMenuId?_of_panel : c.focusedMenuId? = p.focusedMenuId? := by
  rw [← withPanel_eq_self h]
  rfl

theorem focusedOption?_of_panel : c.focusedOption? = p.focusedOption := by
  rw [← withPanel_eq_self h]
  rfl

theorem isOpen_of_panel : c.isOpen = p.isOpen := by
  rw [← withPanel_eq_self h]
  rfl

/-- Where the panel can move its focus, so can the controller. -/
theorem focus_of_focus? {q : MenuPanel} {id : MenuId} {index : Nat}
    (hq : p.focus? id index = some q) : c.focus id index = (true, c.withPanel q) := by
  rw [← withPanel_eq_self h, focus_withPanel, MenuPanel.focus, hq]
  rfl

end Panel

/-- Something can be done to the panel just when there is one in which it can be done. -/
theorem isSome_panel_bind_iff {f : MenuPanel → Option MenuPanel} :
    (c.panel.bind f).isSome = true ↔ ∃ p q, c.panel = some p ∧ f p = some q := by
  rw [Option.isSome_iff_exists]
  constructor
  · rintro ⟨q, hq⟩
    obtain ⟨p, hp, hpq⟩ := Option.bind_eq_some_iff.1 hq
    exact ⟨p, q, hp, hpq⟩
  · rintro ⟨p, q, hp, hpq⟩
    exact ⟨q, Option.bind_eq_some_iff.2 ⟨p, hp, hpq⟩⟩

/-- Where there is a menu, there is a panel that it belongs to. -/
theorem exists_panel_of_menu? {id : MenuId} {m : Menu} (hm : c.menu? id = some m) :
    ∃ p, c.panel = some p ∧ p.tree.get? id = some m := by
  obtain ⟨t, ht, hm⟩ := Option.bind_eq_some_iff.1 hm
  exact ⟨_, by rw [panel, ht, Option.map_some], hm⟩

/-- Where there is a tree, there is a panel of it. -/
theorem exists_panel_of_tree? {t : MenuTree} (ht : c.tree? = some t) :
    ∃ p, c.panel = some p ∧ p.tree = t :=
  ⟨_, by rw [panel, ht, Option.map_some], rfl⟩

/-! ## Nothing is left over -/

/-- Where there is no tree there are no menus and there is no focus. -/
def Tidy (c : MenuController) : Prop := c.tree? = none → c = c.remove

theorem tidy_remove (c : MenuController) : c.remove.Tidy := fun _ => rfl

/-- Where there is a tree, nothing is left over from an earlier one. -/
theorem tidy_of_isSome (h : c.panel.isSome = true) : c.Tidy := by
  intro hnone
  rw [panel_eq_none_iff.2 hnone] at h
  contradiction

/-- What changes the panel leaves nothing over. -/
theorem Tidy.mapPanel (h : c.Tidy) (f : MenuPanel → MenuPanel) : (c.mapPanel f).Tidy := by
  cases hp : c.panel with
  | none => rwa [mapPanel_of_tree?_eq_none (panel_eq_none_iff.1 hp)]
  | some p => exact tidy_of_isSome (by rw [panel_mapPanel, hp]; rfl)

/-- Building drops the old menus with their focus before it knows whether there are new ones. -/
theorem Tidy.build (h : c.Tidy) (entries : Entries) (rootKey : String)
    (actions : String → Option Selection) (anchor : Anchor) :
    (c.build entries rootKey actions anchor).2.Tidy := by
  cases ht : MenuTree.build? entries rootKey actions c.config.docs.find? anchor with
  | none =>
    unfold MenuController.build
    rw [ht]
    dsimp only
    split
    · exact c.tidy_remove
    · exact h
  | some t => exact tidy_of_isSome (by rw [panel_build, ht]; rfl)

/-- The panel and the configuration tell all. -/
theorem Tidy.eq_of_panel_eq (hc : c.Tidy) (hd : d.Tidy) (hconfig : c.config = d.config)
    (hpanel : c.panel = d.panel) : c = d := by
  cases hp : c.panel with
  | none =>
    rw [hc (panel_eq_none_iff.1 hp), hd (panel_eq_none_iff.1 (hpanel.symm.trans hp)), remove,
      hconfig, ← remove]
  | some p =>
    rw [← withPanel_eq_self hp, ← withPanel_eq_self (hpanel.symm.trans hp), withPanel, hconfig,
      ← withPanel]

/-! ## What holds of the menus that there are -/

/-- Something holds of the menus that there are, if there are any. -/
def All (P : MenuPanel → Prop) (c : MenuController) : Prop := ∀ p, c.panel = some p → P p

section All

variable {P : MenuPanel → Prop}

/-- Where there is no panel, anything holds of it. -/
theorem all_of_panel_eq_none (h : c.panel = none) : c.All P := by
  intro p hp
  rw [h] at hp
  contradiction

/-- What an operation on panels keeps holds of the panel that it leads to. -/
theorem All.of_panel_eq_map (h : c.All P) {f : MenuPanel → MenuPanel}
    (hd : d.panel = c.panel.map f) (hf : ∀ {p}, P p → P (f p)) : d.All P := by
  intro p hp
  obtain ⟨q, hq, rfl⟩ := Option.map_eq_some_iff.1 (hd.symm.trans hp)
  exact hf (h q hq)

/-- The same for an operation that may be refused. -/
theorem All.of_panel_eq_getD (h : c.All P) {f : MenuPanel → Option MenuPanel}
    (hd : d.panel = c.panel.map fun p => (f p).getD p) (hf : ∀ {p q}, P p → f p = some q → P q) :
    d.All P := by
  refine h.of_panel_eq_map hd fun {p} hp => ?_
  cases hfp : f p with
  | none => exact hp
  | some q => exact hf hp hfp

theorem All.toggleRoot (h : c.All P) (hf : ∀ {p : MenuPanel}, P p → P p.toggleRoot) :
    c.toggleRoot.All P :=
  h.of_panel_eq_map c.panel_toggleRoot hf

theorem All.stepFocus (h : c.All P) {step : Nat → Option Nat → Nat}
    (hf : ∀ {p : MenuPanel}, P p → P (p.stepFocus step)) : (c.stepFocus step).All P :=
  h.of_panel_eq_map (c.panel_stepFocus step) hf

theorem All.focus (h : c.All P) {id : MenuId} {index : Nat}
    (hf : ∀ {p q : MenuPanel}, P p → p.focus? id index = some q → P q) :
    (c.focus id index).2.All P :=
  h.of_panel_eq_getD (c.panel_focus id index) hf

theorem All.openSubMenu (h : c.All P)
    (hf : ∀ {p q : MenuPanel}, P p → p.openSubMenu? = some q → P q) : c.openSubMenu.2.All P :=
  h.of_panel_eq_getD c.panel_openSubMenu hf

theorem All.closeSubMenu (h : c.All P)
    (hf : ∀ {p q : MenuPanel}, P p → p.closeSubMenu? = some q → P q) : c.closeSubMenu.2.All P :=
  h.of_panel_eq_getD c.panel_closeSubMenu hf

theorem All.select (h : c.All P) (hf : ∀ {p : MenuPanel}, P p → P p.select.2) :
    c.select.2.All P :=
  h.of_panel_eq_map c.panel_select hf

/-- What holds of every tree of menus that is shown for the first time holds of what is built. -/
theorem all_build (c : MenuController) {entries : Entries} {rootKey : String}
    {actions : String → Option Selection} {anchor : Anchor}
    (h : ∀ t, MenuTree.build? entries rootKey actions c.config.docs.find? anchor = some t →
      P (.ofTree t.collapse)) : (c.build entries rootKey actions anchor).2.All P := by
  intro p hp
  rw [panel_build] at hp
  obtain ⟨t, ht, rfl⟩ := Option.map_eq_some_iff.1 hp
  exact h t ht

/-- What holds of all menus that are built for the suggestions holds of a list of them. -/
theorem all_buildFlat {suggestions : List String} {actions : String → Option Selection}
    {anchor : Anchor} (h : ∀ entries rootKey, (c.build entries rootKey actions anchor).2.All P) :
    (c.buildFlat suggestions actions anchor).2.All P := by
  unfold buildFlat
  split
  · exact all_of_panel_eq_none rfl
  · exact h _ _

end All

end MenuController

/-! ## Operations on panels -/

namespace MenuCommand

open MenuController

/-- The answer of building, with the panel that shows the tree. -/
def shown (t : Option MenuTree) : MenuReply × Option MenuPanel :=
  (.flag t.isSome, t.map fun t => .ofTree t.collapse)

/-- What an operation answers, and what it does to the panel that is there, if one is. -/
def onPanel (config : MenuConfig) (cmd : MenuCommand) (p : Option MenuPanel) :
    MenuReply × Option MenuPanel :=
  match cmd with
  | build entries rootKey actions anchor =>
    shown (MenuTree.build? entries rootKey actions config.docs.find? anchor)
  | buildFlat suggestions actions anchor =>
    if suggestions.isEmpty then shown none
    else shown (MenuTree.build? [(config.root, suggestions)] config.root actions
      config.docs.find? anchor)
  | buildAvailable suggestions actions anchor =>
    shown (MenuTree.build? (config.available suggestions) config.root actions
      config.docs.find? anchor)
  | remove => (.done, none)
  | toggleRoot => (.done, p.map (·.toggleRoot))
  | focusBelow => (.done, p.map (·.focusBelow))
  | focusAbove => (.done, p.map (·.focusAbove))
  | focus menu option =>
    (.flag (p.bind (·.focus? menu option)).isSome, p.map (·.focus menu option))
  | openSubMenu =>
    (.flag (p.bind (·.openSubMenu?)).isSome, p.map fun p => p.openSubMenu?.getD p)
  | closeSubMenu =>
    (.flag (p.bind (·.closeSubMenu?)).isSome, p.map fun p => p.closeSubMenu?.getD p)
  | select => (.selection (p.bind (·.select.1)), p.map (·.select.2))

variable {c : MenuController}

/-- An operation does to the panel what it does to the menus of an editor. -/
theorem run_eq_onPanel (cmd : MenuCommand) (c : MenuController) :
    ((cmd.run c).1, (cmd.run c).2.panel) = cmd.onPanel c.config c.panel := by
  have hbuild (entries : Entries) (rootKey : String) (actions : String → Option Selection)
      (anchor : Anchor) :
      (MenuReply.flag (c.build entries rootKey actions anchor).1,
        (c.build entries rootKey actions anchor).2.panel) =
        shown (MenuTree.build? entries rootKey actions c.config.docs.find? anchor) := by
    rw [build_fst, panel_build, shown]
  cases cmd with
  | build entries rootKey actions anchor => exact hbuild entries rootKey actions anchor
  | buildFlat suggestions actions anchor =>
    simp only [run, onPanel, MenuController.buildFlat]
    split
    · rfl
    · exact hbuild _ _ actions anchor
  | buildAvailable suggestions actions anchor => exact hbuild _ _ actions anchor
  | remove => rfl
  | toggleRoot => exact congrArg (MenuReply.done, ·) c.panel_toggleRoot
  | focusBelow => exact congrArg (MenuReply.done, ·) c.panel_focusBelow
  | focusAbove => exact congrArg (MenuReply.done, ·) c.panel_focusAbove
  | focus menu option => rw [run, focus_eq_mapPanel, onPanel, panel_mapPanel]
  | openSubMenu => rw [run, openSubMenu_eq_mapPanel, onPanel, panel_mapPanel]
  | closeSubMenu => rw [run, closeSubMenu_eq_mapPanel, onPanel, panel_mapPanel]
  | select => rw [run, select_eq_mapPanel, onPanel, panel_mapPanel]

/-- What a command does to the panel depends on the panel and the configuration only. -/
theorem panel_run (cmd : MenuCommand) (c : MenuController) :
    (cmd.run c).2.panel = (cmd.onPanel c.config c.panel).2 :=
  congrArg Prod.snd (cmd.run_eq_onPanel c)

/-- What an operation can do: it changes the panel that is there, drops the menus or builds
them anew. -/
theorem run_cases (cmd : MenuCommand) (c : MenuController) :
    (∃ f, (cmd.run c).2 = c.mapPanel f) ∨ (cmd.run c).2 = c.remove ∨
      ∃ entries rootKey actions anchor,
        (cmd.run c).2 = (c.build entries rootKey actions anchor).2 := by
  cases cmd with
  | build entries rootKey actions anchor => exact .inr (.inr ⟨_, _, _, _, rfl⟩)
  | buildFlat suggestions actions anchor =>
    simp only [run, MenuController.buildFlat]
    split
    · exact .inr (.inl rfl)
    · exact .inr (.inr ⟨_, _, _, _, rfl⟩)
  | buildAvailable suggestions actions anchor => exact .inr (.inr ⟨_, _, _, _, rfl⟩)
  | remove => exact .inr (.inl rfl)
  | toggleRoot => exact .inl ⟨_, c.toggleRoot_eq_mapPanel⟩
  | focusBelow => exact .inl ⟨_, c.stepFocus_eq_mapPanel _⟩
  | focusAbove => exact .inl ⟨_, c.stepFocus_eq_mapPanel _⟩
  | focus menu option => exact .inl ⟨_, congrArg Prod.snd (c.focus_eq_mapPanel menu option)⟩
  | openSubMenu => exact .inl ⟨_, congrArg Prod.snd c.openSubMenu_eq_mapPanel⟩
  | closeSubMenu => exact .inl ⟨_, congrArg Prod.snd c.closeSubMenu_eq_mapPanel⟩
  | select => exact .inl ⟨_, congrArg Prod.snd c.select_eq_mapPanel⟩

/-- No operation changes the configuration. -/
theorem config_run (cmd : MenuCommand) (c : MenuController) : (cmd.run c).2.config = c.config := by
  obtain ⟨f, h⟩ | h | ⟨entries, rootKey, actions, anchor, h⟩ := cmd.run_cases c
  · rw [h, config_mapPanel]
  · rw [h, config_remove]
  · rw [h, config_build]

/-- No command changes the configuration. -/
theorem config_runAll (cmds : List MenuCommand) (c : MenuController) :
    (runAll cmds c).config = c.config := by
  unfold runAll
  induction cmds generalizing c with
  | nil => rfl
  | cons cmd cmds ih => rw [List.foldl_cons, ih, config_run]

/-- Operations on the menus of an editor, one after the other, are operations on the panel. -/
theorem panel_runAll (cmds : List MenuCommand) (c : MenuController) :
    (runAll cmds c).panel = cmds.foldl (fun p cmd => (cmd.onPanel c.config p).2) c.panel := by
  unfold runAll
  induction cmds generalizing c with
  | nil => rfl
  | cons cmd cmds ih => rw [List.foldl_cons, ih, config_run, panel_run, List.foldl_cons]

/-- Every operation leaves nothing over. -/
theorem tidy_run (cmd : MenuCommand) (h : c.Tidy) : (cmd.run c).2.Tidy := by
  obtain ⟨f, hrun⟩ | hrun | ⟨entries, rootKey, actions, anchor, hrun⟩ := cmd.run_cases c
  · exact hrun ▸ h.mapPanel f
  · exact hrun ▸ c.tidy_remove
  · exact hrun ▸ h.build entries rootKey actions anchor

/-- Whatever is done to the menus of an editor, nothing is left over when there is no tree. -/
theorem tidy_runAll (config : MenuConfig) (cmds : List MenuCommand) :
    (runAll cmds { config }).Tidy := by
  have hall (c : MenuController) (h : c.Tidy) : (runAll cmds c).Tidy := by
    unfold runAll
    induction cmds generalizing c with
    | nil => exact h
    | cons cmd cmds ih => exact ih _ (tidy_run cmd h)
  exact hall _ fun _ => rfl

end MenuCommand

end StructEdit
