import StructEdit.Menu.Command
import StructEdit.Proofs.Menu.Steering

/-!
# StructEdit.Proofs.Menu.Flat

Menus of one level. A list of suggestions to which actions are bound is built as one menu
without links (`MenuController.buildFlat_eq`), and however the focus moves, that menu is
all there is (`MenuController.Shows.runAll`). Main statement: `MenuController.Shows.select`,
what is selected is what is bound to the focused option.
-/

namespace StructEdit

/-- The menu has no parent, and no option of it is a link. -/
structure Menu.IsFlat (m : Menu) : Prop where
  parent : m.parent = none
  unlinked : ∀ o ∈ m.options, o.child? = none

/-- What is bound to the option at an index, if it is no link. -/
def Menu.selectionAt? (m : Menu) (index : Nat) : Option Selection :=
  m.options[index]?.bind (·.selection?)

/-! ## Building -/

namespace MenuTree

variable {actions : String → Option Selection} {texts : List String}

theorem isFlat_plainMenu (actions : String → Option Selection) (docs : String → Option String)
    (anchor : Anchor) (texts : List String) : (plainMenu actions docs anchor texts).IsFlat where
  parent := rfl
  unlinked o ho := by
    obtain ⟨text, _, rfl⟩ := List.mem_map.1 ho
    rfl

/-- The tree of one menu. -/
def single (m : Menu) : MenuTree := ⟨[some m], 0⟩

theorem preorder_single {m : Menu} (h : m.children = []) : (single m).preorder = [0] := by
  simp [preorder, reach, single, get?, h]

theorem collapse_single {m : Menu} (h : m.children = []) : (single m).collapse = single m := by
  refine collapse_eq_self fun id hid => ?_
  rw [preorder_single h, List.mem_singleton] at hid
  subst hid
  simp [absorb?, single, get?, h]

/-- A list of texts, all with an action bound to them, makes one menu. -/
theorem build?_single (docs : String → Option String) (anchor : Anchor) (key : String) (hne : texts ≠ [])
    (hbound : ∀ text ∈ texts, (actions text).isSome = true) :
    build? [(key, texts)] key actions docs anchor =
      some (single (plainMenu actions docs anchor texts)) := by
  have hentries : menuEntries [(key, texts)] = [(key, texts)] := by
    simp [menuEntries, firstOfEachKey, hne]
  have hid : keyId? [(key, texts)] key = some 0 := by
    simp [keyId?, hentries, List.idxOf?]
  have hlinks : wantedLinks [(key, texts)] actions = [] := by
    simp only [wantedLinks, List.flatMap_cons, List.flatMap_nil, hid, List.append_nil]
    refine List.filterMap_eq_nil_iff.2 fun o ho => ?_
    have hmem : o.1 ∈ texts := List.fst_mem_of_mem_zipIdx ho
    obtain ⟨selection, hs⟩ := Option.isSome_iff_exists.1 (hbound o.1 hmem)
    simp only [hs]
  have hlinked : linked [(key, texts)] actions docs anchor 0 =
      single (plainMenu actions docs anchor texts) := by
    rw [linked, hlinks, List.foldl_nil, unlinked, hentries]
    rfl
  have hpreorder : (single (plainMenu actions docs anchor texts)).preorder = [0] :=
    preorder_single rfl
  refine build?_eq_some_iff.2 ⟨0, hid, ?_⟩
  rw [hlinked, hpreorder]
  rfl

end MenuTree

/-! ## The panel of one menu -/

namespace MenuPanel

variable {p q : MenuPanel} {m : Menu}

/-- The panel shows the given menu, up to what is open and highlighted, and no other. -/
structure Shows (m : Menu) (p : MenuPanel) : Prop where
  bare : p.tree.bare = MenuTree.single m.bare
  menus : p.menus = [0]
  focusedMenu : p.focusedMenu = 0

theorem shows_ofTree (h : m.children = []) : (ofTree (.single m)).Shows m where
  bare := MenuTree.bare_openMenu _ _
  menus := MenuTree.preorder_single h
  focusedMenu := rfl

theorem Shows.exists_menu (h : p.Shows m) : ∃ n, p.tree.get? 0 = some n ∧ n.bare = m.bare := by
  have hget : (p.tree.get? 0).map Menu.bare = some m.bare := by
    rw [← MenuTree.get?_bare, h.bare]
    rfl
  exact Option.map_eq_some_iff.1 hget

theorem Shows.focusedMenuId? (h : p.Shows m) : p.focusedMenuId? = some 0 := by
  simp [MenuPanel.focusedMenuId?, h.menus, h.focusedMenu]

/-! ### Moving the focus -/

theorem Shows.focus? (h : p.Shows m) {id : MenuId} {index : Nat}
    (hq : p.focus? id index = some q) : q.Shows m ∧ q.focusedOption = some index := by
  obtain ⟨position, _, o, hpos, _, _, rfl⟩ := focus?_eq_some_iff.1 hq
  have hzero : position = 0 := by
    have hlt := (List.getElem?_eq_some_iff.1 (getElem?_of_idxOf? hpos)).1
    simpa [h.menus] using hlt
  exact ⟨⟨(MenuTree.bare_focusOn ..).trans h.bare, h.menus, hzero⟩, rfl⟩

/-- The focus can move to each option of the menu. -/
theorem Shows.exists_focus? (h : p.Shows m) {index : Nat} (hi : index < m.options.length) :
    ∃ q, p.focus? 0 index = some q := by
  obtain ⟨n, hn, hbare⟩ := h.exists_menu
  have hlen : n.options.length = m.options.length := by
    have := congrArg (fun k => k.options.length) hbare
    simpa using this
  have hpos : p.menus.idxOf? 0 = some 0 := by simp [h.menus, List.idxOf?]
  have hin : index < n.options.length := by rw [hlen]; exact hi
  exact ⟨_, focus?_eq_some_iff.2 ⟨0, n, _, hpos, hn, List.getElem?_eq_getElem hin, rfl⟩⟩

theorem Shows.stepFocus (h : p.Shows m) (step : Nat → Option Nat → Nat) :
    (p.stepFocus step).Shows m := by
  unfold MenuPanel.stepFocus
  split
  · exact h
  · split
    · exact h
    · next id n _ _ =>
      unfold MenuPanel.focus
      cases hq : p.focus? id (step n.options.length p.focusedOption) with
      | none => exact h
      | some q => exact (h.focus? hq).1

/-- What there is has the options of the menu, up to what is highlighted. -/
theorem Shows.getElem?_options (h : p.Shows m) {n : Menu} (hn : p.tree.get? 0 = some n)
    (index : Nat) : (n.options[index]?).map (·.unfocused) = (m.options[index]?).map (·.unfocused) := by
  obtain ⟨k, hk, hbare⟩ := h.exists_menu
  rw [hn, Option.some.injEq] at hk
  rw [← List.getElem?_map, ← List.getElem?_map, hk, ← Menu.options_bare, hbare, Menu.options_bare]

/-- The menu that is there does with each option what the given menu does. -/
theorem Shows.exists_option (h : p.Shows m) {index : Nat} {o : MenuOption}
    (ho : m.options[index]? = some o) : ∃ n o', p.tree.get? 0 = some n ∧
      n.options[index]? = some o' ∧ o'.target = o.target := by
  obtain ⟨n, hn, _⟩ := h.exists_menu
  have heq := h.getElem?_options hn index
  rw [ho, Option.map_some] at heq
  obtain ⟨o', ho', hunfocused⟩ := Option.map_eq_some_iff.1 heq
  exact ⟨n, o', hn, ho', congrArg (·.target) hunfocused⟩

/-- There is no menu to go down to. -/
theorem Shows.openSubMenu? (h : p.Shows m) (hflat : m.IsFlat) : p.openSubMenu? = none := by
  rw [Option.eq_none_iff_forall_ne_some]
  intro q hq
  obtain ⟨id, n, index, o, child, hid, hn, _, ho, hchild, _⟩ := openSubMenu?_eq_some_iff.1 hq
  obtain rfl : 0 = id := by simpa [h.focusedMenuId?] using hid
  have heq := h.getElem?_options hn index
  rw [ho, Option.map_some] at heq
  obtain ⟨o', ho', hunfocused⟩ := Option.map_eq_some_iff.1 heq.symm
  have hnone : o.unfocused.child? = none := by
    rw [← hunfocused, MenuOption.child?_unfocused]
    exact hflat.unlinked o' (List.mem_of_getElem? ho')
  rw [MenuOption.child?_unfocused, hchild] at hnone
  contradiction

/-- There is no menu to go back to. -/
theorem Shows.closeSubMenu? (h : p.Shows m) (hflat : m.IsFlat) : p.closeSubMenu? = none := by
  rw [Option.eq_none_iff_forall_ne_some]
  intro q hq
  obtain ⟨id, n, parent, _, hid, hn, hparent, _⟩ := closeSubMenu?_eq_some_iff.1 hq
  obtain rfl : 0 = id := by simpa [h.focusedMenuId?] using hid
  obtain ⟨k, hk, hbare⟩ := h.exists_menu
  rw [hn, Option.some.injEq] at hk
  have hnone : n.parent = none := by
    rw [hk, ← Menu.parent_bare, hbare, Menu.parent_bare, hflat.parent]
  rw [hparent] at hnone
  contradiction

/-- What is selected is what is bound to the focused option, and the menu stays. -/
theorem Shows.select (h : p.Shows m) {index : Nat} {o : MenuOption} {selection : Selection}
    (hi : p.focusedOption = some index) (ho : m.options[index]? = some o)
    (hs : o.target = .select selection) : p.select = (some selection, p) := by
  obtain ⟨n, o', hn, ho', htarget⟩ := h.exists_option ho
  rw [hs] at htarget
  have hfocused : p.focusedOption? = some o' := by
    simp [focusedOption?, focusedMenu?, h.focusedMenuId?, hn, hi, ho', bind]
  simp [MenuPanel.select, hfocused, htarget]

end MenuPanel

/-! ## The menus of an editor -/

/-- The operations that only move the focus. -/
def MenuCommand.isMove : MenuCommand → Bool
  | .focusBelow | .focusAbove | .focus _ _ | .openSubMenu | .closeSubMenu => true
  | _ => false

namespace MenuController

variable {c d : MenuController} {m : Menu}

/-- There is the given menu, up to what is open and highlighted, and no other. -/
def Shows (m : Menu) (c : MenuController) : Prop := ∃ p, c.panel = some p ∧ p.Shows m

/-- A list of suggestions, all with an action bound to them, is built as one menu. -/
theorem panel_buildFlat_of_bound (c : MenuController) {suggestions : List String}
    {actions : String → Option Selection} (anchor : Anchor) (hne : suggestions ≠ [])
    (hbound : ∀ text ∈ suggestions, (actions text).isSome = true) :
    (c.buildFlat suggestions actions anchor).2.panel =
      some (.ofTree (.single
        (MenuTree.plainMenu actions c.config.docs.find? anchor suggestions))) := by
  have hbuild := MenuTree.build?_single c.config.docs.find? anchor c.config.root hne hbound
  have hempty : ¬ suggestions.isEmpty = true := by simpa using hne
  rw [panel_buildFlat, if_neg hempty, hbuild, Option.map_some, MenuTree.collapse_single rfl]

/-- An operation on panels that leaves the one menu there is leaves it in an editor. -/
theorem Shows.of_panel_eq_map (h : c.Shows m) {f : MenuPanel → MenuPanel}
    (hd : d.panel = c.panel.map f) (hf : ∀ {p : MenuPanel}, p.Shows m → (f p).Shows m) :
    d.Shows m := by
  obtain ⟨p, hp, hshows⟩ := h
  exact ⟨f p, by rw [hd, hp, Option.map_some], hf hshows⟩

/-- The same for an operation that may be refused. -/
theorem Shows.of_panel_eq_getD (h : c.Shows m) {f : MenuPanel → Option MenuPanel}
    (hd : d.panel = c.panel.map fun p => (f p).getD p)
    (hf : ∀ {p q : MenuPanel}, p.Shows m → f p = some q → q.Shows m) : d.Shows m := by
  refine h.of_panel_eq_map hd fun {p} hp => ?_
  cases hq : f p with
  | none => exact hp
  | some q => exact hf hp hq

/-- Moving the focus leaves the menu what it is. -/
theorem Shows.run (h : c.Shows m) (hflat : m.IsFlat) {cmd : MenuCommand}
    (hmove : cmd.isMove = true) : (cmd.run c).2.Shows m := by
  cases cmd with
  | focusBelow => exact h.of_panel_eq_map (c.panel_stepFocus _) fun hp => hp.stepFocus _
  | focusAbove => exact h.of_panel_eq_map (c.panel_stepFocus _) fun hp => hp.stepFocus _
  | focus id index =>
    exact h.of_panel_eq_getD (c.panel_focus id index) fun hp hq => (hp.focus? hq).1
  | openSubMenu =>
    refine h.of_panel_eq_getD c.panel_openSubMenu fun hp hq => ?_
    rw [hp.openSubMenu? hflat] at hq
    contradiction
  | closeSubMenu =>
    refine h.of_panel_eq_getD c.panel_closeSubMenu fun hp hq => ?_
    rw [hp.closeSubMenu? hflat] at hq
    contradiction
  | _ => contradiction

theorem Shows.runAll (h : c.Shows m) (hflat : m.IsFlat) {moves : List MenuCommand}
    (hmoves : ∀ move ∈ moves, move.isMove = true) : (MenuCommand.runAll moves c).Shows m := by
  unfold MenuCommand.runAll
  induction moves generalizing c with
  | nil => exact h
  | cons move moves ih =>
    rw [List.forall_mem_cons] at hmoves
    exact ih (h.run hflat hmoves.1) hmoves.2

/-- The focus can move to each option of the menu. -/
theorem Shows.focus (h : c.Shows m) {index : Nat} (hi : index < m.options.length) :
    (c.focus 0 index).1 = true ∧ (c.focus 0 index).2.Shows m ∧
      (c.focus 0 index).2.focusedOption? = some index := by
  obtain ⟨p, hp, hshows⟩ := h
  obtain ⟨q, hq⟩ := hshows.exists_focus? hi
  rw [focus_of_focus? hp hq]
  exact ⟨rfl, ⟨q, rfl, (hshows.focus? hq).1⟩, (hshows.focus? hq).2⟩

/-- The menu that is there does with each option what the given menu does. -/
theorem Shows.exists_option (h : c.Shows m) {index : Nat} {o : MenuOption}
    (ho : m.options[index]? = some o) : ∃ n o', c.menu? 0 = some n ∧
      n.options[index]? = some o' ∧ o'.target = o.target := by
  obtain ⟨p, hp, hshows⟩ := h
  obtain ⟨n, o', hn, ho', htarget⟩ := hshows.exists_option ho
  exact ⟨n, o', (menu?_of_panel hp _).trans hn, ho', htarget⟩

/-- What is selected is what is bound to the focused option. -/
theorem Shows.select (h : c.Shows m) {index : Nat} {o : MenuOption} {selection : Selection}
    (hi : c.focusedOption? = some index) (ho : m.options[index]? = some o)
    (hs : o.target = .select selection) : c.select.1 = some selection := by
  obtain ⟨p, hp, hshows⟩ := h
  have hfocused : p.focusedOption = some index := (focusedOption?_of_panel hp).symm.trans hi
  rw [select_eq_mapPanel, hp, Option.bind_some]
  dsimp only
  rw [hshows.select hfocused ho hs]

end MenuController

end StructEdit
