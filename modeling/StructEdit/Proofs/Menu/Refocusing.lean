import StructEdit.Proofs.Menu.Returning

/-!
# StructEdit.Proofs.Menu.Refocusing

What moving the focus to an option changes. It closes what is open below the menu of the
option, however deep that is, and opens only that menu and the one the option links to; so
all menus that are not at or below that menu stay as they are (`MenuTree.Refocuses`). Main
statement: `MenuController.refocuses_runAll`, for whatever was done to the menus before.
-/

namespace StructEdit

/-! ## Menus -/

namespace Menu

/-- The menu has an option of that index, and just that option is highlighted. -/
structure HighlightsOnly (m : Menu) (index : Nat) : Prop where
  lt : index < m.options.length
  focused_iff : ∀ i o, m.options[i]? = some o → (o.focused = true ↔ i = index)

theorem highlightsOnly_highlight {m : Menu} {index : Nat} (h : index < m.options.length) :
    (m.clearFocus.opened.highlight index).HighlightsOnly index where
  lt := by simpa [highlight, opened] using h
  focused_iff i o ho := by
    simp only [highlight, opened, clearFocus, List.getElem?_modify, List.getElem?_map,
      Option.map_eq_map, Option.map_map, Option.map_eq_some_iff, Function.comp_apply] at ho
    obtain ⟨_, _, rfl⟩ := ho
    by_cases hi : index = i <;> simp [hi, eq_comm]

end Menu

/-! ## Trees -/

namespace MenuTree

variable {t u : MenuTree} {id : MenuId}

/-- The focus is on an option of a menu of the tree `u`, and was moved there from anywhere in
the tree `t`. The menu `m` is open now, with just this option `o` highlighted; of its children
just the one that the option links to is open, if it is a link; and the menus that are neither
this one nor below it are as they were. -/
structure Refocuses (t u : MenuTree) (id : MenuId) (index : Nat) (m : Menu) (o : MenuOption) :
    Prop where
  before : t.get? id = some m
  option : m.options[index]? = some o
  /-- Nothing else of the menu is changed. -/
  after : ∃ k, u.get? id = some k ∧ k.isOpen = true ∧ k.HighlightsOnly index ∧
    k.openedLink = m.openedLink ∧ k.bare = m.bare
  isOpen_child : ∀ c ∈ u.children id, (u.isOpen c = true ↔ o.child? = some c)
  linked : ∀ c, o.child? = some c → c ∈ u.children id
  apart : ∀ x, ¬ t.Below id x → u.get? x = t.get? x

/-- Closing what is below a menu closes its children; one that is open is reached at once. -/
theorem Rooted.isOpen_closeChildren (h : t.Rooted) {c : MenuId} (hc : t.IsChild id c) :
    (t.closeChildren id).isOpen c = false := by
  obtain ⟨m, hm, _⟩ := exists_menu_of_isChild hc
  obtain ⟨n, hn, _⟩ := h.parent_of_child hc
  rw [isOpen, get?_closeChildren, hn]
  split
  · rfl
  · next hmem =>
    by_contra hopen
    rw [Option.any_some, Bool.not_eq_false, ← isOpen_of_get? hn] at hopen
    exact hmem ((h.mem_openBelow_iff (h.below_root id m hm)).2 (.single ⟨hc, hopen⟩))

theorem get?_focusOn (t : MenuTree) (id : MenuId) (index : Nat) (child? : Option MenuId)
    (x : MenuId) : (t.focusOn id index child?).get? x =
      let u := (t.closeChildren id).update id fun m => (m.clearFocus.opened).highlight index
      if child? = some x then (u.get? x).map Menu.opened else u.get? x := by
  cases child? with
  | none => rfl
  | some child => simp only [focusOn, openMenu, get?_update, Option.some.injEq, eq_comm]

theorem get?_focusOn_of_ne {index : Nat} {child? : Option MenuId} {x : MenuId} (hx : x ≠ id) :
    (t.focusOn id index child?).get? x =
      if child? = some x then ((t.closeChildren id).get? x).map Menu.opened
      else (t.closeChildren id).get? x := by
  simp only [get?_focusOn, get?_update, if_neg hx]

theorem Rooted.get?_focusOn_self (h : t.Rooted) {m : Menu} {index : Nat} {child? : Option MenuId}
    (hm : t.get? id = some m) (hc : child? ≠ some id) :
    (t.focusOn id index child?).get? id = some (m.clearFocus.opened.highlight index) := by
  rw [get?_focusOn, if_neg hc, get?_update, if_pos rfl, h.get?_closeChildren_self, hm,
    Option.map_some]

/-- Moving the focus in a tree comes to what `Refocuses` says. -/
theorem Navigable.refocuses_focusOn (h : t.Navigable) {m : Menu} {index : Nat} {o : MenuOption}
    (hm : t.get? id = some m) (ho : m.options[index]? = some o) :
    t.Refocuses (t.focusOn id index o.child?) id index m o := by
  have hbare := bare_focusOn t id index o.child?
  have hid := h.below_root id m hm
  have hlinked {c : MenuId} (hc : o.child? = some c) : t.IsChild id c := h.isChild hm ho hc
  have hne {c : MenuId} (hc : t.IsChild id c) : c ≠ id := by
    rintro rfl
    exact h.not_below_parent hid hc .refl
  have hself : (t.focusOn id index o.child?).get? id =
      some (m.clearFocus.opened.highlight index) :=
    h.get?_focusOn_self hm fun hc => hne (hlinked hc) rfl
  constructor
  case before => exact hm
  case option => exact ho
  case after =>
    exact ⟨_, hself, rfl, Menu.highlightsOnly_highlight (List.getElem?_eq_some_iff.1 ho).1, rfl,
      by simp⟩
  case isOpen_child =>
    intro c hc
    have hc : t.IsChild id c := isChild_of_bare_eq hbare ▸ hc
    obtain ⟨n, hn, _⟩ := h.parent_of_child hc
    have hclosed := h.isOpen_closeChildren hc
    -- all children were closed before the linked one was opened
    rw [isOpen, get?_focusOn_of_ne (hne hc)]
    split
    · next hlink => simp [hlink, get?_closeChildren, hn, Menu.opened, apply_ite]
    · next hlink => simpa [hlink, isOpen] using hclosed
  case linked =>
    intro c hc
    have hchild : (t.focusOn id index o.child?).IsChild id c := by
      rw [isChild_of_bare_eq hbare]
      exact hlinked hc
    exact hchild
  case apart =>
    intro x hx
    have hxid : x ≠ id := fun heq => hx (heq ▸ .refl)
    have hlink : o.child? ≠ some x := fun hc => hx (.single (hlinked hc))
    rw [get?_focusOn_of_ne hxid, if_neg hlink, get?_closeChildren, if_neg]
    exact fun hmem => hx (strictlyBelow_of_mem_openBelow hmem).to_reflTransGen

end MenuTree

/-! ## Panels -/

namespace MenuPanel

variable {p q : MenuPanel} {id : MenuId}

/-- A panel with the focus in a tree that can be walked through. -/
structure Steerable (p : MenuPanel) : Prop extends p.Focused where
  navigable : p.tree.Navigable

/-- The focus of a panel was moved to an option. -/
structure Refocuses (p q : MenuPanel) (id : MenuId) (index : Nat) : Prop where
  focusedMenu : q.focusedMenuId? = some id
  focusedOption : q.focusedOption = some index
  tree : ∃ m o, p.tree.Refocuses q.tree id index m o

theorem Steerable.refocuses_focus? (h : p.Steerable) {index : Nat}
    (hq : p.focus? id index = some q) : q.Steerable ∧ p.Refocuses q id index := by
  obtain ⟨hfocused, hid⟩ := h.toSound.focus? hq
  have hbare := (steered_focus? h.rooted hq).bare
  obtain ⟨position, m, o, _, hm, ho, rfl⟩ := focus?_eq_some_iff.1 hq
  exact ⟨⟨hfocused, h.navigable.of_bare_eq hbare⟩, hid, rfl, m, o,
    h.navigable.refocuses_focusOn hm ho⟩

/-- The focused option is one of the focused menu. -/
theorem Focused.lt_of_focusedOption (h : p.Focused) {m : Menu} (hid : p.focusedMenuId? = some id)
    (hm : p.tree.get? id = some m) {i : Nat} (hi : p.focusedOption = some i) :
    i < m.options.length := by
  rw [← h.focused?_eq hid hm, Menu.focused?, List.findIdx?_eq_some_iff_getElem] at hi
  exact hi.1

/-- A step to an index that there is moves the focus there. -/
theorem Steerable.refocuses_stepFocus (h : p.Steerable) {m : Menu}
    (hid : p.focusedMenuId? = some id) (hm : p.tree.get? id = some m)
    {step : Nat → Option Nat → Nat}
    (hstep : step m.options.length p.focusedOption < m.options.length) :
    (p.stepFocus step).Steerable ∧
      p.Refocuses (p.stepFocus step) id (step m.options.length p.focusedOption) := by
  obtain ⟨q, hq⟩ := h.toSound.exists_focus? hm (List.getElem?_eq_getElem hstep)
  have heq : p.stepFocus step = q := by
    have hmenu : p.focusedMenu? = some (id, m) := focusedMenu?_eq_some_iff.2 ⟨hid, hm⟩
    simp only [stepFocus, hmenu, focus, hq, Option.getD_some]
    rw [if_neg (by omega)]
  rw [heq]
  exact h.refocuses_focus? hq

theorem indexBelow_lt {n : Nat} (hn : 0 < n) (o : Option Nat) : indexBelow n o < n := by
  cases o with
  | none => exact hn
  | some i => exact Nat.mod_lt _ hn

theorem indexAbove_lt {n : Nat} (hn : 0 < n) {o : Option Nat} (ho : ∀ i, o = some i → i < n) :
    indexAbove n o < n := by
  match o with
  | none | some 0 =>
    simp only [indexAbove]
    omega
  | some (i + 1) =>
    have := ho (i + 1) rfl
    simp only [indexAbove]
    omega

end MenuPanel

/-! ## The menus of an editor -/

namespace MenuController

/-- Whatever was done to the menus, they can be walked through with the focus in them. -/
theorem steerable_runAll (config : MenuConfig) (cmds : List MenuCommand) :
    (MenuCommand.runAll cmds { config }).All MenuPanel.Steerable := by
  intro p hp
  have hnew : ({ config } : MenuController).All (·.Recalls fun _ => none) :=
    all_of_panel_eq_none rfl
  have h := recalls_runAll cmds hnew p hp
  exact ⟨h.focused, h.navigable⟩

/-- The focus was moved to an option, with the menus changed as `MenuTree.Refocuses` says. -/
structure Refocuses (c d : MenuController) (id : MenuId) (index : Nat) : Prop where
  focusedMenu : d.focusedMenuId? = some id
  focusedOption : d.focusedOption? = some index
  tree : ∃ t u m o, c.tree? = some t ∧ d.tree? = some u ∧ t.Refocuses u id index m o

theorem refocuses_of_panel {c d : MenuController} {p q : MenuPanel} {id : MenuId} {index : Nat}
    (hc : c.panel = some p) (hd : d.panel = some q) (h : p.Refocuses q id index) :
    c.Refocuses d id index where
  focusedMenu := (focusedMenuId?_of_panel hd).trans h.focusedMenu
  focusedOption := (focusedOption?_of_panel hd).trans h.focusedOption
  tree := by
    obtain ⟨m, o, htree⟩ := h.tree
    exact ⟨p.tree, q.tree, m, o, tree?_of_panel hc, tree?_of_panel hd, htree⟩

/-- Whatever was done to the menus before, moving the focus to an option, if it succeeds, opens
the menu of the option and what the option links to, closes the other children of that menu,
highlights just this option in it and leaves all menus that are not at or below it as they are.
Where there are menus, moving the focus to the next or the previous option succeeds, and does
this to the focused menu. -/
theorem refocuses_runAll (config : MenuConfig) (cmds : List MenuCommand) :
    let c := MenuCommand.runAll cmds { config }
    (∀ id index, (c.focus id index).1 = true → c.Refocuses (c.focus id index).2 id index) ∧
      ∀ t, c.tree? = some t → ∃ id m, c.focusedMenuId? = some id ∧ t.get? id = some m ∧
        c.Refocuses c.focusBelow id
          (MenuPanel.indexBelow m.options.length c.focusedOption?) ∧
        c.Refocuses c.focusAbove id
          (MenuPanel.indexAbove m.options.length c.focusedOption?) := by
  intro c
  have h := steerable_runAll config cmds
  constructor
  · intro id index hmoved
    rw [focus_eq_mapPanel, isSome_panel_bind_iff] at hmoved
    obtain ⟨p, q, hp, hq⟩ := hmoved
    rw [focus_of_focus? hp hq]
    exact refocuses_of_panel hp (panel_withPanel c q) ((h p hp).refocuses_focus? hq).2
  · intro t ht
    obtain ⟨p, hp, rfl⟩ := exists_panel_of_tree? ht
    have hs := h p hp
    obtain ⟨id, m, hid, hm, _⟩ := hs.agree
    have hpos : 0 < m.options.length :=
      List.length_pos_of_ne_nil (hs.navigable.options_ne_nil id m hm)
    rw [focusedOption?_of_panel hp]
    refine ⟨id, m, (focusedMenuId?_of_panel hp).trans hid, hm, ?_, ?_⟩
    · refine refocuses_of_panel hp (by rw [panel_focusBelow, hp, Option.map_some]) ?_
      exact (hs.refocuses_stepFocus hid hm (MenuPanel.indexBelow_lt hpos _)).2
    · refine refocuses_of_panel hp (by rw [panel_focusAbove, hp, Option.map_some]) ?_
      exact (hs.refocuses_stepFocus hid hm
        (MenuPanel.indexAbove_lt hpos fun i hi => hs.lt_of_focusedOption hid hm hi)).2

/-- From a menu two links down the focus jumps to the other link of the root, and it also steps
to the next and the previous option of the menu that it is in. -/
theorem refocuses_runAll_of_nested :
    let cmds : List MenuCommand := [.build [("Top", ["A", "B"]), ("A", ["C", "a"]),
      ("B", ["b", "d"]), ("C", ["c", "e"])] "Top" (fun _ => none) ⟨0, 0⟩, .focusBelow,
      .openSubMenu, .openSubMenu]
    let c := MenuCommand.runAll cmds { config := {} }
    (c.focus 0 1).1 = true ∧ c.Refocuses (c.focus 0 1).2 0 1 ∧ c.tree?.isSome = true ∧
      c.focusedMenuId? = some 3 ∧ ∃ below above, c.Refocuses c.focusBelow 3 below ∧
        c.Refocuses c.focusAbove 3 above := by
  intro cmds c
  have hmoved : (c.focus 0 1).1 = true := by decide +kernel
  have hthere : c.tree?.isSome = true := by decide +kernel
  have hdeep : c.focusedMenuId? = some 3 := by decide +kernel
  obtain ⟨t, ht⟩ := Option.isSome_iff_exists.1 hthere
  obtain ⟨hjump, hsteps⟩ := refocuses_runAll {} cmds
  obtain ⟨id, m, hid, _, hbelow, habove⟩ := hsteps t ht
  obtain rfl : 3 = id := Option.some.inj (hdeep.symm.trans hid)
  exact ⟨hmoved, hjump 0 1 hmoved, hthere, hdeep, _, _, hbelow, habove⟩

end MenuController

end StructEdit
