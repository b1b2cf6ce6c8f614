import StructEdit.Proofs.Menu.Trail

/-!
# StructEdit.Proofs.Menu.Returning

Where going back from a menu lands. A menu remembers the link that was followed last from
it, and what it remembers does not change until another link is followed from it or new
menus are built (`MenuPanel.Recalls`); a menu below it that is left again may have been come
to in another way. Main statement: `MenuController.closeSubMenu_runAll`, going back lands on
the link to the menu that was entered last by following one.
-/

namespace StructEdit

/-! ## What is remembered -/

namespace Menu

variable {m n : Menu} {entered : Option MenuId}

/-- The link that the menu remembers leads to the menu that was entered from it, if one
was; otherwise it remembers none. -/
def Recalls (m : Menu) : Option MenuId → Prop
  | none => m.openedLink = none
  | some child => ∃ i o, m.openedLink = some i ∧ m.options[i]? = some o ∧ o.child? = some child

/-- Menus of the same shape have the same links. -/
theorem exists_option_of_bare_eq (hb : n.bare = m.bare) {i : Nat} {o : MenuOption}
    (ho : m.options[i]? = some o) : ∃ o', n.options[i]? = some o' ∧ o'.child? = o.child? := by
  have hoptions := congrArg (fun k : Menu => k.options[i]?) hb
  simp only [options_bare, List.getElem?_map, ho, Option.map_some] at hoptions
  obtain ⟨o', ho', heq⟩ := Option.map_eq_some_iff.1 hoptions
  exact ⟨o', ho', by rw [← o'.child?_unfocused, heq, o.child?_unfocused]⟩

/-- What a menu remembers is a matter of the bare menu and the link. -/
theorem Recalls.of_bare_eq (h : m.Recalls entered) (hb : n.bare = m.bare)
    (hl : n.openedLink = m.openedLink) : n.Recalls entered := by
  cases entered with
  | none => exact hl.trans h
  | some child =>
    obtain ⟨i, o, hi, ho, hc⟩ := h
    obtain ⟨o', ho', hc'⟩ := exists_option_of_bare_eq hb ho
    exact ⟨i, o', hl.trans hi, ho', hc'.trans hc⟩

end Menu

namespace MenuTree

variable {t : MenuTree} {entered : MenuId → Option MenuId}

/-- Every menu remembers the link to the menu that was entered last from it. -/
def Recalls (t : MenuTree) (entered : MenuId → Option MenuId) : Prop :=
  ∀ id m, t.get? id = some m → m.Recalls (entered id)

/-- Opening a menu forgets no link. -/
theorem Recalls.openMenu (h : t.Recalls entered) (id : MenuId) : (t.openMenu id).Recalls entered :=
  forall_update h id fun _ _ hm => hm.of_bare_eq (Menu.bare_opened _) rfl

theorem Recalls.closeChildren (h : t.Recalls entered) (id : MenuId) :
    (t.closeChildren id).Recalls entered :=
  forall_updateAll h _ fun _ _ hm => hm.of_bare_eq (Menu.bare_closed _) rfl

/-- Closing a menu forgets no link. -/
theorem Recalls.closeMenu (h : t.Recalls entered) (id : MenuId) :
    (t.closeMenu id).Recalls entered :=
  forall_updateAll h _ fun _ _ hm => hm.of_bare_eq (Menu.bare_closed _) rfl

/-- Moving the focus forgets no link and remembers none. -/
theorem Recalls.focusOn (h : t.Recalls entered) (id : MenuId) (index : Nat)
    (child? : Option MenuId) : (t.focusOn id index child?).Recalls entered := by
  have hu : ((t.closeChildren id).update id fun m =>
      (m.clearFocus.opened).highlight index).Recalls entered :=
    forall_update (h.closeChildren id) id fun _ _ hm => hm.of_bare_eq (by simp) rfl
  cases child? with
  | none => exact hu
  | some child => exact hu.openMenu child

end MenuTree

namespace MenuPanel

variable {p q : MenuPanel} {entered : MenuId → Option MenuId}

/-- A panel with the focus in it whose menus remember the links to the menus that were
entered last. -/
structure Recalls (p : MenuPanel) (entered : MenuId → Option MenuId) : Prop where
  focused : p.Focused
  navigable : p.tree.Navigable
  recalls : p.tree.Recalls entered

/-! ## Each operation -/

/-- A tree that is shown for the first time remembers no link. -/
theorem recalls_ofTree {t : MenuTree} (h : t.Navigable)
    (hf : t.Every fun m => ∀ o ∈ m.options, o.focused = false)
    (hl : t.Every (·.openedLink = none)) : (ofTree t).Recalls fun _ => none where
  focused := focused_ofTree h.toRooted hf
  navigable := h.of_bare_eq (MenuTree.bare_openMenu t t.root)
  recalls := by
    have hnone : t.Recalls fun _ => none := hl
    exact hnone.openMenu t.root

theorem recalls_tree_focus? (h : p.tree.Recalls entered) {id : MenuId} {index : Nat}
    (hq : p.focus? id index = some q) : q.tree.Recalls entered := by
  obtain ⟨_, _, o, _, _, _, rfl⟩ := focus?_eq_some_iff.1 hq
  exact h.focusOn id index o.child?

/-- Moving the focus of a panel keeps what is remembered. -/
theorem Recalls.focus? (h : p.Recalls entered) {id : MenuId} {index : Nat}
    (hq : p.focus? id index = some q) : q.Recalls entered where
  focused := (h.focused.toSound.focus? hq).1
  navigable := h.navigable.of_bare_eq (steered_focus? h.navigable.toRooted hq).bare
  recalls := recalls_tree_focus? h.recalls hq

/-- A step within the focused menu keeps what is remembered. -/
theorem Recalls.stepFocus (h : p.Recalls entered) (step : Nat → Option Nat → Nat) :
    (p.stepFocus step).Recalls entered := by
  unfold MenuPanel.stepFocus
  split
  · exact h
  · split
    · exact h
    · unfold focus
      cases hq : p.focus? _ _ with
      | none => exact h
      | some q => exact h.focus? hq

/-- Closing all menus forgets no link. -/
theorem Recalls.toggleRoot (h : p.Recalls entered) : p.toggleRoot.Recalls entered where
  focused := h.focused.toggleRoot
  navigable := h.navigable.of_bare_eq p.bare_toggleRoot
  recalls := by
    unfold MenuPanel.toggleRoot
    split
    · exact h.recalls.closeMenu _
    · exact h.recalls.openMenu _

/-- Selecting remembers no link, though it may open a menu. -/
theorem Recalls.select (h : p.Recalls entered) : p.select.2.Recalls entered where
  focused := h.focused.select
  navigable := h.navigable.of_bare_eq p.steered_select.bare
  recalls := by
    unfold MenuPanel.select
    split
    · exact h.recalls
    · split
      · exact h.recalls.openMenu _
      · exact h.recalls

/-- Following a link is what the menu it was followed from remembers then. -/
theorem Recalls.openSubMenu? (h : p.Recalls entered) (hq : p.openSubMenu? = some q) :
    ∃ id child, p.focusedMenuId? = some id ∧ q.focusedMenuId? = some child ∧
      q.Recalls (Function.update entered id (some child)) := by
  have hfocused := h.focused.openSubMenu? hq
  have hnavigable := h.navigable.of_bare_eq (steered_openSubMenu? h.navigable.toRooted hq).bare
  obtain ⟨id, m, index, o, child, hid, hm, hi, ho, hc, rfl⟩ := openSubMenu?_eq_some_iff.1 hq
  have hset : (p.tree.update id fun m => { m with openedLink := some index }).Recalls
      (Function.update entered id (some child)) := by
    intro i k hk
    rw [MenuTree.get?_update] at hk
    by_cases heq : i = id
    · subst heq
      rw [if_pos rfl, hm, Option.map_some, Option.some.injEq] at hk
      rw [Function.update_self, ← hk]
      exact ⟨index, o, rfl, ho, hc⟩
    · rw [if_neg heq] at hk
      rw [Function.update_of_ne heq]
      exact h.recalls i k hk
  have hfollow := hset.openMenu child
  rw [← tree_follow] at hfollow
  obtain ⟨_, _, r, _, _, hr⟩ := h.focused.toSound.exists_entered h.navigable hm ho hc
  rw [focus, hr, Option.getD_some] at hfocused hnavigable ⊢
  have hsound := h.focused.toSound.follow id index child
  exact ⟨id, child, hid, (hsound.focus? hr).2, hfocused, hnavigable,
    recalls_tree_focus? hfollow hr⟩

/-- The focused option is the link to a menu; no option is focused if no menu is given. -/
def LandsOn (p : MenuPanel) : Option MenuId → Prop
  | none => p.focusedOption? = none
  | some child => ∃ o, p.focusedOption? = some o ∧ o.child? = some child

/-- Going back to a menu lands on the link to the menu that was entered last from it. -/
theorem Recalls.backAt (h : p.Recalls entered) {id parent : MenuId} {left : MenuPanel}
    (hchild : p.tree.IsChild parent id) (hl : p.BackAt parent left) :
    left.tree.Recalls entered ∧ left.LandsOn (entered parent) := by
  obtain ⟨_, hmenu⟩ := h.focused.backAt hchild hl
  have hbare := (steered_backAt h.navigable.toRooted hl).bare
  obtain ⟨k, hk, _⟩ := MenuTree.exists_menu_of_isChild hchild
  obtain ⟨n, hn, hnk⟩ := MenuTree.exists_menu_of_bare_eq hbare.symm hk
  have hrecalls := h.recalls parent k hk
  rcases hl with hl | ⟨hl, rfl⟩
  · obtain ⟨i, hi, hleft⟩ := Option.bind_eq_some_iff.1 hl
    rw [hk, Option.bind_some] at hi
    refine ⟨recalls_tree_focus? h.recalls hleft, ?_⟩
    cases hentered : entered parent with
    | none =>
      rw [hentered] at hrecalls
      have hforgot : k.openedLink = none := hrecalls
      rw [hi] at hforgot
      contradiction
    | some child =>
      rw [hentered] at hrecalls
      obtain ⟨j, o, hj, ho, hc⟩ := hrecalls
      obtain rfl := Option.some.inj (hi.symm.trans hj)
      have hoption : left.focusedOption = some i := by
        obtain ⟨_, _, _, _, _, _, rfl⟩ := focus?_eq_some_iff.1 hleft
        rfl
      obtain ⟨o', ho', hc'⟩ := Menu.exists_option_of_bare_eq hnk ho
      exact ⟨o', focusedOption?_eq_some_iff.2 ⟨parent, n, i, hmenu, hn, hoption, ho'⟩,
        hc'.trans hc⟩
  · refine ⟨MenuTree.forall_update h.recalls parent fun _ _ hm =>
      hm.of_bare_eq (Menu.bare_clearFocus _) rfl, ?_⟩
    cases hentered : entered parent with
    | none => exact focusedOption?_eq hmenu hn
    | some child =>
      -- the link that is remembered is an option of the menu, so the focus can move there
      rw [hentered] at hrecalls
      obtain ⟨i, o, hi, ho, _⟩ := hrecalls
      obtain ⟨q, hq⟩ := h.focused.toSound.exists_focus? hk ho
      rw [hk, Option.bind_some, hi, Option.bind_some, hq] at hl
      contradiction

/-- Going back lands on the link that is remembered in the menu above, or on no option of it. -/
theorem Recalls.closeSubMenu? (h : p.Recalls entered) (hq : p.closeSubMenu? = some q) :
    q.Recalls entered ∧ ∃ id m parent, p.focusedMenuId? = some id ∧ p.tree.get? id = some m ∧
      m.parent = some parent ∧ q.focusedMenuId? = some parent ∧ q.LandsOn (entered parent) := by
  have hfocused := h.focused.closeSubMenu? hq
  have hnavigable := h.navigable.of_bare_eq (steered_closeSubMenu? h.navigable.toRooted hq).bare
  obtain ⟨id, m, parent, left, hid, hm, hparent, hl, rfl⟩ := closeSubMenu?_eq_some_iff.1 hq
  have hchild := (h.navigable.isChild_iff_parent hm).2 hparent
  obtain ⟨hrecalls, hlands⟩ := h.backAt hchild hl
  obtain ⟨hleft, hmenu⟩ := h.focused.backAt hchild hl
  have hkeep := focusedOption?_closeChildren hleft.rooted hmenu
  refine ⟨⟨hfocused, hnavigable, hrecalls.closeChildren parent⟩, id, m, parent, hid, hm, hparent,
    hmenu, ?_⟩
  unfold LandsOn at hlands ⊢
  rwa [hkeep]

end MenuPanel

/-! ## The menus of an editor -/

namespace MenuCommand

/-- For each menu, the menu that was entered last from it by following a link, as an
operation leaves it. From menus that were just built none was entered yet. -/
def entered (cmd : MenuCommand) (c : MenuController) (before : MenuId → Option MenuId) :
    MenuId → Option MenuId :=
  match cmd with
  | build .. | buildFlat .. | buildAvailable .. | remove => fun _ => none
  | openSubMenu => fun id =>
    if c.openSubMenu.1 = true ∧ c.focusedMenuId? = some id then c.openSubMenu.2.focusedMenuId?
    else before id
  | toggleRoot | focusBelow | focusAbove | focus .. | closeSubMenu | select => before

/-- For each menu, the menu that was entered last from it by following a link, as operations
leave it. -/
def enteredAll : List MenuCommand → MenuController → (MenuId → Option MenuId) →
    MenuId → Option MenuId
  | [], _, before => before
  | cmd :: cmds, c, before => enteredAll cmds (cmd.run c).2 (cmd.entered c before)

end MenuCommand

namespace MenuController

variable {c : MenuController} {entered : MenuId → Option MenuId}

/-- Menus that are built remember no link. -/
theorem recalls_build (c : MenuController) (entries : Entries) (rootKey : String)
    (actions : String → Option Selection) (anchor : Anchor) :
    (c.build entries rootKey actions anchor).2.All (·.Recalls fun _ => none) := by
  refine c.all_build fun t ht => ?_
  have hnav := MenuTree.navigable_of_build? ht
  refine MenuPanel.recalls_ofTree hnav.collapse ?_ ?_
  · exact hnav.unfocused_collapse fun id m hm o ho => MenuTree.unfocused_of_build? ht hm ho
  · refine hnav.every_collapse (fun _ _ hm => hm) (fun _ _ _ _ => rfl) ?_
    exact MenuTree.every_of_build? (fun _ _ hm => hm)
      (fun m i d hm => (m.openedLink_withLink i d).trans hm) (fun _ _ => rfl) ht

/-- Following a link is the one operation that remembers it. -/
theorem recalls_openSubMenu (h : c.All (·.Recalls entered)) :
    c.openSubMenu.2.All (·.Recalls (MenuCommand.openSubMenu.entered c entered)) := by
  intro q hq
  cases hp : c.panel with
  | none =>
    rw [panel_openSubMenu, hp] at hq
    contradiction
  | some p =>
    have hrun := c.openSubMenu_withPanel p
    rw [withPanel_eq_self hp] at hrun
    cases hopen : p.openSubMenu? with
    | none =>
      rw [hopen, Option.getD_none, withPanel_eq_self hp] at hrun
      have hsame : MenuCommand.openSubMenu.entered c entered = entered := by
        simp [MenuCommand.entered, hrun]
      rw [hrun] at hq
      rw [hsame]
      exact h q hq
    | some r =>
      rw [hopen, Option.getD_some] at hrun
      obtain ⟨id, child, hid, hchild, hr⟩ := (h p hp).openSubMenu? hopen
      have hnow : c.focusedMenuId? = some id := (focusedMenuId?_of_panel hp).trans hid
      have hthen : (c.withPanel r).focusedMenuId? = some child := hchild
      have hnew : MenuCommand.openSubMenu.entered c entered =
          Function.update entered id (some child) := by
        funext i
        simp [MenuCommand.entered, hrun, hnow, hthen, Function.update_apply, eq_comm]
      rw [hrun, panel_withPanel, Option.some.injEq] at hq
      rw [hnew]
      exact hq ▸ hr

/-- What was entered last is remembered after every operation. -/
theorem recalls_run (cmd : MenuCommand) (h : c.All (·.Recalls entered)) :
    (cmd.run c).2.All (·.Recalls (cmd.entered c entered)) := by
  cases cmd with
  | build entries rootKey actions anchor => exact recalls_build c entries rootKey actions anchor
  | buildFlat suggestions actions anchor =>
    exact all_buildFlat fun entries rootKey => recalls_build c entries rootKey actions anchor
  | buildAvailable suggestions actions anchor => exact recalls_build c _ _ actions anchor
  | remove => exact all_of_panel_eq_none rfl
  | toggleRoot => exact h.toggleRoot MenuPanel.Recalls.toggleRoot
  | focusBelow => exact h.stepFocus fun hp => hp.stepFocus _
  | focusAbove => exact h.stepFocus fun hp => hp.stepFocus _
  | focus menu option => exact h.focus fun hp hq => hp.focus? hq
  | openSubMenu => exact recalls_openSubMenu h
  | closeSubMenu => exact h.closeSubMenu fun hp hq => (hp.closeSubMenu? hq).1
  | select => exact h.select MenuPanel.Recalls.select

/-- What is remembered is what was followed, whatever is done. -/
theorem recalls_runAll (cmds : List MenuCommand) (h : c.All (·.Recalls entered)) :
    (MenuCommand.runAll cmds c).All (·.Recalls (MenuCommand.enteredAll cmds c entered)) := by
  unfold MenuCommand.runAll
  induction cmds generalizing c entered with
  | nil => exact h
  | cons cmd cmds ih => exact ih (recalls_run cmd h)

/-- Going back from a menu, after any operations, moves the focus to its parent, there to the
link to the menu that was entered last by following a link, or to no option if none was.
This is the link to the menu that is left just when that is the menu that was entered last,
or none was. -/
theorem closeSubMenu_runAll (config : MenuConfig) (cmds : List MenuCommand) :
    let c := MenuCommand.runAll cmds { config }
    let entered := MenuCommand.enteredAll cmds { config } fun _ => none
    c.closeSubMenu.1 = true → ∃ id m parent p, c.focusedMenuId? = some id ∧
      c.menu? id = some m ∧ m.parent = some parent ∧ c.closeSubMenu.2.panel = some p ∧
      p.focusedMenuId? = some parent ∧ p.LandsOn (entered parent) ∧
      ((∀ o, p.focusedOption? = some o → o.child? = some id) ↔
        ∀ child, entered parent = some child → child = id) := by
  intro c entered hback
  have h : c.All (·.Recalls entered) := recalls_runAll cmds (all_of_panel_eq_none rfl)
  rw [closeSubMenu_eq_mapPanel, Option.isSome_iff_exists] at hback
  obtain ⟨q, hq⟩ := hback
  obtain ⟨p, hp, hq⟩ := Option.bind_eq_some_iff.1 hq
  obtain ⟨_, id, m, parent, hid, hm, hparent, hmenu, hlands⟩ := (h p hp).closeSubMenu? hq
  refine ⟨id, m, parent, q, (focusedMenuId?_of_panel hp).trans hid, (menu?_of_panel hp id).trans hm,
    hparent, ?_, hmenu, hlands, ?_⟩
  · rw [panel_closeSubMenu, hp, Option.map_some, hq, Option.getD_some]
  · cases hentered : entered parent with
    | none =>
      rw [hentered] at hlands
      have hnone : q.focusedOption? = none := hlands
      simp [hnone]
    | some child =>
      rw [hentered] at hlands
      obtain ⟨o, ho, hc⟩ := hlands
      simp [ho, hc]

/-- Going back from a category to which a link was followed. -/
theorem closeSubMenu_runAll_of_link :
    let cmds : List MenuCommand := [.build [("Top", ["A", "B"]), ("A", ["a", "b"]),
      ("B", ["c", "d"])] "Top" (fun _ => none) ⟨0, 0⟩, .focusBelow, .openSubMenu]
    let c := MenuCommand.runAll cmds { config := {} }
    c.closeSubMenu.1 = true ∧ ∃ p o, c.closeSubMenu.2.panel = some p ∧
      p.focusedMenuId? = some 0 ∧ p.focusedOption? = some o ∧ o.child? = c.focusedMenuId? := by
  intro cmds c
  have hback : c.closeSubMenu.1 = true := by decide +kernel
  obtain ⟨id, m, parent, p, hid, hm, hparent, hp, hmenu, hlands, _⟩ :=
    closeSubMenu_runAll {} cmds hback
  have hfocus : c.focusedMenuId? = some 1 := by decide +kernel
  have htop : (c.menu? 1).bind (·.parent) = some 0 := by decide +kernel
  obtain rfl : 1 = id := Option.some.inj (hfocus.symm.trans hid)
  have htoParent : (c.menu? 1).bind (·.parent) = some parent :=
    Option.bind_eq_some_iff.2 ⟨m, hm, hparent⟩
  obtain rfl : 0 = parent := Option.some.inj (htop.symm.trans htoParent)
  have hentered : MenuCommand.enteredAll cmds { config := {} } (fun _ => none) 0 = some 1 := by
    decide +kernel
  rw [hentered] at hlands
  obtain ⟨o, ho, hc⟩ := hlands
  exact ⟨hback, p, o, hp, hmenu, ho, hc.trans hfocus.symm⟩

/-- A category that was come to with the mouse is left for the link to another one, to which
a link was followed before. -/
theorem closeSubMenu_lands_elsewhere :
    ¬ ∀ (config : MenuConfig) (cmds : List MenuCommand) (p : MenuPanel),
      let c := MenuCommand.runAll cmds { config }
      c.closeSubMenu.1 = true → c.closeSubMenu.2.panel = some p →
        ∀ o, p.focusedOption? = some o → o.child? = c.focusedMenuId? := by
  intro h
  let cmds : List MenuCommand := [.build [("Top", ["A", "B"]), ("A", ["a", "b"]),
    ("B", ["c", "d"])] "Top" (fun _ => none) ⟨0, 0⟩, .focusBelow, .openSubMenu, .focus 0 1,
    .focus 2 0]
  let c := MenuCommand.runAll cmds { config := {} }
  have hback : c.closeSubMenu.1 = true := by decide +kernel
  have hleft : c.focusedMenuId? = some 2 := by decide +kernel
  have hlands : (c.closeSubMenu.2.panel.bind (·.focusedOption?)).map (·.child?) =
      some (some 1) := by decide +kernel
  obtain ⟨o, ho, hchild⟩ := Option.map_eq_some_iff.1 hlands
  obtain ⟨p, hp, ho⟩ := Option.bind_eq_some_iff.1 ho
  have hother : o.child? = some 2 := (h {} cmds p hback hp o ho).trans hleft
  exact absurd (hchild.symm.trans hother) (by decide)

end MenuController

end StructEdit
