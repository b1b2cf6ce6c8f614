import StructEdit.Proofs.Menu.Changes

/-!
# StructEdit.Proofs.Menu.Closing

What closing a menu closes besides it. The menus that are reached from it are those below it
through open menus only (`MenuTree.Forest.mem_openBelow_iff`). Main statement:
`MenuTree.Change.closes_closeMenu_runAll`, what closing does to a tree that was built and
then changed, and when it leaves nothing open or highlighted at or below the menu.
-/

namespace StructEdit

/-- The menu is closed and none of its options is highlighted. -/
def Menu.AtRest (m : Menu) : Prop := m.isOpen = false ∧ ∀ o ∈ m.options, o.focused = false

/-- A closed menu is at rest. -/
theorem Menu.atRest_closed (m : Menu) : m.closed.AtRest :=
  ⟨rfl, by simp [closed, clearFocus]⟩

namespace MenuTree

variable {t : MenuTree}

/-- A menu that is open is there. -/
theorem isOpen_iff {id : MenuId} :
    t.isOpen id = true ↔ ∃ m, t.get? id = some m ∧ m.isOpen = true := by
  cases h : t.get? id <;> simp [isOpen, h]

theorem isOpen_of_get? {id : MenuId} {m : Menu} (hm : t.get? id = some m) :
    t.isOpen id = m.isOpen := by
  simp [isOpen, hm]

/-! ## Open menus below a menu -/

/-- A menu is an open child of another one. -/
def IsOpenChild (t : MenuTree) (p c : MenuId) : Prop := t.IsChild p c ∧ t.isOpen c = true

/-- A menu is below another one, and it and all menus between them are open. -/
def OpenlyBelow (t : MenuTree) : MenuId → MenuId → Prop := Relation.TransGen t.IsOpenChild

/-- What is openly below a menu is below it. -/
theorem OpenlyBelow.strictlyBelow {a x : MenuId} (h : t.OpenlyBelow a x) : t.StrictlyBelow a x :=
  Relation.TransGen.mono (fun _ _ hc => hc.1) _ _ h

/-- What is below through open menus only is openly below. -/
theorem openlyBelow_of_isOpen {a x : MenuId} (hx : t.StrictlyBelow a x)
    (ho : ∀ y, t.StrictlyBelow a y → t.Below y x → t.isOpen y = true) : t.OpenlyBelow a x := by
  induction hx using Relation.TransGen.head_induction_on with
  | single hc => exact .single ⟨hc, ho _ (.single hc) .refl⟩
  | head hc hx ih =>
    exact .head ⟨hc, ho _ (.single hc) hx.to_reflTransGen⟩ (ih fun y hy => ho y (.head hc hy))

/-- What is closed below a menu is below it. -/
theorem strictlyBelow_of_mem_openBelow {a x : MenuId} (h : x ∈ t.openBelow a) :
    t.StrictlyBelow a x := by
  obtain ⟨c, hc, hx⟩ := List.mem_flatMap.1 h
  exact .head' hc (below_of_mem_reach hx).1

namespace Forest

/-- The walk through open menus from a menu of the tree gets to what is below it through open
menus, if the menu itself is open. -/
theorem mem_reach_isOpen_iff (h : t.Forest) {id x : MenuId} (hid : t.Below t.root id) :
    x ∈ t.reach (·.isOpen) t.slots.length id ↔
      t.isOpen id = true ∧ Relation.ReflTransGen t.IsOpenChild id x := by
  induction hid using h.induction with
  | menu id m hid hm ih =>
    have hchild {c} : t.IsOpenChild id c ↔ c ∈ m.children ∧ t.isOpen c = true := by
      rw [IsOpenChild, IsChild, children_of_get? hm]
    have hkids : x ∈ m.children.flatMap (t.reach (·.isOpen) t.slots.length) ↔
        ∃ c, t.IsOpenChild id c ∧ Relation.ReflTransGen t.IsOpenChild c x := by
      simp only [List.mem_flatMap, hchild, and_assoc]
      refine exists_congr fun c => and_congr_right fun hc => ?_
      exact ih c hc (hid.tail (isChild_of_get? hm hc))
    rw [h.reach_slots _ hid hm, isOpen_of_get? hm, Relation.ReflTransGen.cases_head_iff, ← hkids]
    by_cases hopen : m.isOpen = true <;> simp [hopen, eq_comm]

/-- What is closed with a menu of the tree is what is below it through open menus only. -/
theorem mem_openBelow_iff (h : t.Forest) {a x : MenuId} (ha : t.Below t.root a) :
    x ∈ t.openBelow a ↔ t.OpenlyBelow a x := by
  rw [openBelow, List.mem_flatMap, OpenlyBelow, Relation.TransGen.head'_iff]
  refine exists_congr fun c => ?_
  rw [IsOpenChild, IsChild, and_assoc]
  exact and_congr_right fun hc => h.mem_reach_isOpen_iff (ha.tail hc)

end Forest

/-- Closing what is below a menu closes just the menus that are openly below it. -/
theorem get?_closeChildren (t : MenuTree) (a x : MenuId) :
    (t.closeChildren a).get? x =
      if x ∈ t.openBelow a then (t.get? x).map Menu.closed else t.get? x :=
  get?_updateAll t _ x Menu.closed

/-- Closing a menu closes it and the menus that are openly below it. -/
theorem get?_closeMenu (t : MenuTree) (a x : MenuId) :
    (t.closeMenu a).get? x =
      if x ∈ a :: t.openBelow a then (t.get? x).map Menu.closed else t.get? x :=
  get?_updateAll t _ x Menu.closed

/-! ## Closing a menu -/

/-- The tree `u` is `t` with a menu closed, and with it what is below it through open menus.
A menu that is open or highlighted below a closed one stays so: that is the only way in which
something can be left open or highlighted. -/
structure Closes (t u : MenuTree) (id : MenuId) : Prop where
  reached : ∀ x, x = id ∨ t.OpenlyBelow id x → u.get? x = (t.get? x).map Menu.closed
  passed : ∀ x, x ≠ id → ¬ t.OpenlyBelow id x → u.get? x = t.get? x
  apart : ∀ x, ¬ t.Below id x → u.get? x = t.get? x
  atRest_iff : (∀ x m, t.Below id x → u.get? x = some m → m.AtRest) ↔
    ∀ x m, t.StrictlyBelow id x → t.get? x = some m → ¬ m.AtRest → t.OpenlyBelow id x

/-- Closing a menu of a rooted tree closes what the walk through open menus comes upon, and
touches nothing else. -/
theorem Rooted.closes_closeMenu (h : t.Rooted) {id : MenuId} {m : Menu} (hm : t.get? id = some m) :
    t.Closes (t.closeMenu id) id := by
  have hget x : (t.closeMenu id).get? x =
      if x ∈ id :: t.openBelow id then (t.get? x).map Menu.closed else t.get? x :=
    get?_closeMenu t id x
  have hmem x : x ∈ id :: t.openBelow id ↔ x = id ∨ t.OpenlyBelow id x := by
    rw [List.mem_cons, h.mem_openBelow_iff (h.below_root id m hm)]
  have hreached x (hx : x = id ∨ t.OpenlyBelow id x) :
      (t.closeMenu id).get? x = (t.get? x).map Menu.closed := by
    rw [hget, if_pos ((hmem x).2 hx)]
  have hpassed x (hne : x ≠ id) (hx : ¬ t.OpenlyBelow id x) :
      (t.closeMenu id).get? x = t.get? x := by
    rw [hget, if_neg fun hin => ((hmem x).1 hin).elim hne hx]
  constructor
  case reached => exact hreached
  case passed => exact hpassed
  case apart =>
    intro x hx
    refine hpassed x (fun heq => hx (heq ▸ .refl)) fun ho => hx ?_
    exact ho.strictlyBelow.to_reflTransGen
  case atRest_iff =>
    constructor
    · intro hrest x k hx hk hactive
      by_contra ho
      have hne : x ≠ id := by
        rintro rfl
        exact h.not_strictlyBelow_self (h.below_root _ m hm) hx
      exact hactive (hrest x k hx.to_reflTransGen (by rw [hpassed x hne ho, hk]))
    -- a menu that was not reached is what it was, so if it is not at rest it was active before
    · intro hactive x k hx hk
      by_cases ho : x = id ∨ t.OpenlyBelow id x
      · rw [hreached x ho] at hk
        obtain ⟨n, _, rfl⟩ := Option.map_eq_some_iff.1 hk
        exact n.atRest_closed
      · rw [not_or] at ho
        rw [hpassed x ho.1 ho.2] at hk
        rcases Relation.reflTransGen_iff_eq_or_transGen.1 hx with heq | hx
        · exact absurd heq ho.1
        · by_contra hk'
          exact ho.2 (hactive x k hx hk hk')

namespace Change

/-- Changes of a tree keep it rooted. -/
theorem rooted_runAll (cs : List Change) {t : MenuTree} (h : t.Rooted) : (runAll cs t).Rooted := by
  unfold runAll
  induction cs generalizing t with
  | nil => exact h
  | cons c cs ih =>
    refine ih ?_
    by_cases hc : c = collapse
    · subst hc
      exact h.collapse
    · exact h.of_bare_eq (bare_run hc t)

variable {entries : List (String × List String)} {rootKey : String}
  {actions : String → Option Selection} {docs : String → Option String} {anchor : Anchor}

/-- Closing a menu of a tree that was built, whatever changes were made to it since, closes
the menu and what is below it through open menus only, and leaves all other menus as they
are. -/
theorem closes_closeMenu_runAll {t : MenuTree}
    (h : build? entries rootKey actions docs anchor = some t) (cs : List Change) {id : MenuId}
    {m : Menu} (hm : (runAll cs t).get? id = some m) :
    (runAll cs t).Closes ((runAll cs t).closeMenu id) id :=
  (rooted_runAll cs (rooted_of_build? h)).closes_closeMenu hm

/-- Menus that were opened one below the other are closed with the first. -/
theorem closes_closeMenu_nested :
    let entries := [("Top", ["A", "x"]), ("A", ["B", "y"]), ("B", ["z", "w"])]
    let cs := [openMenu 0, openMenu 1, openMenu 2, refocus 2 (· == 1)]
    ∃ t m, build? entries "Top" (fun _ => none) (fun _ => none) ⟨0, 0⟩ = some t ∧
      (runAll cs t).get? 0 = some m ∧ (runAll cs t).Closes ((runAll cs t).closeMenu 0) 0 := by
  intro entries cs
  let t := (build? entries "Top" (fun _ => none) (fun _ => none) ⟨0, 0⟩).get (by decide)
  have ht : build? entries "Top" (fun _ => none) (fun _ => none) ⟨0, 0⟩ = some t :=
    (Option.some_get _).symm
  obtain ⟨m, hm⟩ := Option.isSome_iff_exists.1 (show ((runAll cs t).get? 0).isSome = true by decide)
  exact ⟨t, m, ht, hm, closes_closeMenu_runAll ht cs hm⟩

/-- A menu that is opened and highlighted below a closed one, as the mouse does it, is not
closed with a menu further up. -/
theorem open_below_closed_stays :
    ¬ ∀ (entries : List (String × List String)) (rootKey : String)
      (actions : String → Option Selection) (docs : String → Option String) (anchor : Anchor)
      (t : MenuTree), build? entries rootKey actions docs anchor = some t →
      ∀ (cs : List Change) (id : MenuId) (m : Menu), (runAll cs t).get? id = some m →
        (∀ x k, (runAll cs t).Below id x → ((runAll cs t).closeMenu id).get? x = some k →
          k.AtRest) ∧
        ∀ x, ¬ (runAll cs t).Below id x →
          ((runAll cs t).closeMenu id).get? x = (runAll cs t).get? x := by
  intro h
  let entries := [("Top", ["A", "x"]), ("A", ["B", "y"]), ("B", ["z", "w"])]
  let cs := [openMenu 0, closeChildren 2, openMenu 2, refocus 2 (· == 0)]
  let t := (build? entries "Top" (fun _ => none) (fun _ => none) ⟨0, 0⟩).get (by decide)
  have ht : build? entries "Top" (fun _ => none) (fun _ => none) ⟨0, 0⟩ = some t :=
    (Option.some_get _).symm
  have hlive : ((runAll cs t).get? 0).isSome = true := by decide
  have hopen : ((runAll cs t).closeMenu 0).isOpen 2 = true := by decide
  have hbelow : (runAll cs t).Below 0 2 := by
    have hA : 1 ∈ (runAll cs t).children 0 := by decide
    have hB : 2 ∈ (runAll cs t).children 1 := by decide
    exact .tail (.single hA) hB
  obtain ⟨m, hm⟩ := Option.isSome_iff_exists.1 hlive
  obtain ⟨k, hk, hkopen⟩ := isOpen_iff.1 hopen
  have hclosed := ((h entries "Top" _ _ _ t ht cs 0 m hm).1 2 k hbelow hk).1
  exact absurd (hkopen.symm.trans hclosed) (by decide)

end Change

end MenuTree

end StructEdit
