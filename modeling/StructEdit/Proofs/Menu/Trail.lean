import StructEdit.Proofs.Menu.Navigable
import StructEdit.Proofs.Menu.Steering

/-!
# StructEdit.Proofs.Menu.Trail

The way to the focused menu. As long as the focus moves one option or one menu at a
time, the menus above the focused one are open and remember the link to the next one,
and besides them only what the focused option links to is open. Said of a tree this is
`MenuTree.LeadsTo`, which leaves out what is so of the focused menu itself and so is
kept while that one menu changes; said of a panel it is `MenuPanel.At`. Main
statements: one for each way to move the focus, from `MenuPanel.OnTrail.stepFocus` to
`MenuPanel.OnTrail.toggleRoot`, and `MenuPanel.onTrail_ofTree`.
-/

namespace StructEdit

/-- The highlighted option of the menu and the link that it remembers are the same, a
link to the given menu. -/
def Menu.PointsTo (m : Menu) (c : MenuId) : Prop :=
  ∃ i o, m.focused? = some i ∧ m.openedLink = some i ∧ m.options[i]? = some o ∧ o.child? = some c

namespace MenuTree

variable {t u : MenuTree}

theorem isChild_of_bare_eq (hb : u.bare = t.bare) : u.IsChild = t.IsChild := by
  rw [← isChild_bare u, hb, isChild_bare]

theorem below_of_bare_eq (hb : u.bare = t.bare) : u.Below = t.Below := by
  rw [← below_bare u, hb, below_bare]

/-! ## The way to a menu -/

/-- Every menu above `f` is open and points to the next one on the way to `f`, and of the
menus that are not on the way only `preview` is open, a child of `f`, and no option is
highlighted in them. What is so of `f` itself is left open. -/
structure LeadsTo (t : MenuTree) (f : MenuId) (preview : Option MenuId) : Prop where
  live : t.Below t.root f
  way : ∀ {a b}, t.IsChild a b → t.Below b f →
    ∃ m, t.get? a = some m ∧ m.isOpen = true ∧ m.PointsTo b
  apart : ∀ {x m}, t.get? x = some m → ¬ t.Below x f →
    (m.isOpen = true ↔ preview = some x) ∧ m.focused? = none
  preview : ∀ {c}, preview = some c → t.IsChild f c

namespace LeadsTo

variable {f : MenuId} {preview : Option MenuId}

theorem isOpen_of_below (h : t.LeadsTo f preview) (hf : t.isOpen f = true) {y : MenuId}
    (hy : t.Below y f) : t.isOpen y = true := by
  rcases Relation.ReflTransGen.cases_head hy with rfl | ⟨c, hc, hcf⟩
  · exact hf
  · obtain ⟨m, hm, ho, _⟩ := h.way hc hcf
    exact isOpen_iff.2 ⟨m, hm, ho⟩

/-- The menus on the way are those of the tree that `f` is below. -/
theorem below_root (h : t.LeadsTo f preview) (ht : t.Rooted) {a : MenuId} (ha : t.Below a f) :
    t.Below t.root a := by
  rcases Relation.ReflTransGen.cases_head ha with rfl | ⟨c, hc, hcf⟩
  · exact h.live
  · obtain ⟨m, hm, _⟩ := h.way hc hcf
    exact ht.below_root a m hm

/-- Nothing but `f` itself can change the way to it without changing another menu. -/
theorem of_get?_eq (h : t.LeadsTo f preview) (ht : t.Rooted) (hb : u.bare = t.bare)
    (hu : ∀ x, x ≠ f → u.get? x = t.get? x) : u.LeadsTo f preview where
  live := by
    rw [below_of_bare_eq hb, root_of_bare_eq hb]
    exact h.live
  way {a b} hab hbf := by
    rw [isChild_of_bare_eq hb] at hab
    rw [below_of_bare_eq hb] at hbf
    have hne : a ≠ f := by
      rintro rfl
      exact ht.not_below_parent h.live hab hbf
    rw [hu a hne]
    exact h.way hab hbf
  apart {x m} hm hx := by
    rw [below_of_bare_eq hb] at hx
    have hne : x ≠ f := fun he => hx (he ▸ .refl)
    exact h.apart (hu x hne ▸ hm) hx
  preview hc := by
    rw [isChild_of_bare_eq hb]
    exact h.preview hc

/-- Whatever is open and neither on the way to a menu nor that menu is closed with what is
below that menu: it is reached from there through open menus. -/
theorem mem_openBelow (h : t.LeadsTo f preview) (ht : t.Rooted) {a x : MenuId} {m : Menu}
    (ha : t.Below a f) (hf : a = f ∨ t.isOpen f = true) (hm : t.get? x = some m)
    (hopen : m.isOpen = true) (hx : ¬ t.Below x a) : x ∈ t.openBelow a := by
  have hbetween {y} (hay : t.StrictlyBelow a y) (hyf : t.Below y f) : t.isOpen y = true := by
    rcases hf with rfl | hf
    · exact absurd (hay.trans_left hyf) (ht.not_strictlyBelow_self h.live)
    · exact h.isOpen_of_below hf hyf
  by_cases hxf : t.Below x f
  · have hax : t.Below a x := (ht.below_total ha hxf).resolve_right hx
    rcases Relation.reflTransGen_iff_eq_or_transGen.1 hax with rfl | hax
    · exact absurd .refl hx
    · refine (ht.mem_openBelow_iff (h.below_root ht ha)).2 (openlyBelow_of_isOpen hax ?_)
      exact fun y hay hyx => hbetween hay (hyx.trans hxf)
  · have hchild : t.IsChild f x := h.preview ((h.apart hm hxf).1.1 hopen)
    refine (ht.mem_openBelow_iff (h.below_root ht ha)).2
      (openlyBelow_of_isOpen (.tail' ha hchild) fun y hay hyx => ?_)
    rcases (ht.below_child_iff hchild).1 hyx with hyf | rfl
    · exact hbetween hay hyf
    · exact isOpen_iff.2 ⟨m, hm, hopen⟩

/-- Closing what is below a menu on the way leaves the way to that menu. -/
theorem closeChildren (h : t.LeadsTo f preview) (ht : t.Rooted) (ho : t.Orderly) {a : MenuId}
    (ha : t.Below a f) (hf : a = f ∨ t.isOpen f = true) : (t.closeChildren a).LeadsTo a none := by
  have hb := bare_closeChildren t a
  have hroot := h.below_root ht ha
  constructor
  case live =>
    rwa [below_of_bare_eq hb, root_of_bare_eq hb]
  case way =>
    intro a' b hab hba
    rw [isChild_of_bare_eq hb] at hab
    rw [below_of_bare_eq hb] at hba
    rw [get?_closeChildren, if_neg]
    · exact h.way hab (hba.trans ha)
    · intro hmem
      exact ht.not_strictlyBelow_self hroot
        ((strictlyBelow_of_mem_openBelow hmem).trans_left (.head hab hba))
  case apart =>
    intro x m hm hx
    rw [below_of_bare_eq hb] at hx
    rw [get?_closeChildren] at hm
    split at hm
    · obtain ⟨n, _, rfl⟩ := Option.map_eq_some_iff.1 hm
      simp
    · next hmem =>
      have hclosed : m.isOpen = false := by
        by_contra hopen
        rw [Bool.not_eq_false] at hopen
        exact hmem (h.mem_openBelow ht ha hf hm hopen hx)
      have hnone : m.focused? = none := (ho x m hm).focused?_eq_none hclosed
      simp [hclosed, hnone]
  case preview =>
    intro c hc
    contradiction

/-- If no menu but `c` is open off the way, no other one is. -/
theorem preview_ne {c x : MenuId} (hp : preview = none ∨ preview = some c) (hx : x ≠ c) :
    preview ≠ some x := by
  rcases hp with rfl | rfl
  · simp
  · simpa using hx.symm

/-- Opening a child of a menu leaves the way to that menu if no other child is open. -/
theorem openMenu (h : t.LeadsTo f preview) {c : MenuId} (hc : t.IsChild f c)
    (hp : preview = none ∨ preview = some c) : (t.openMenu c).LeadsTo f (some c) := by
  have hb := bare_openMenu t c
  constructor
  case live =>
    rw [below_of_bare_eq hb, root_of_bare_eq hb]
    exact h.live
  case way =>
    intro a b hab hbf
    rw [isChild_of_bare_eq hb] at hab
    rw [below_of_bare_eq hb] at hbf
    obtain ⟨m, hm, hopen, hpoint⟩ := h.way hab hbf
    rw [MenuTree.openMenu, get?_update, hm]
    split
    · exact ⟨m.opened, rfl, rfl, hpoint⟩
    · exact ⟨m, rfl, hopen, hpoint⟩
  case apart =>
    intro x m hm hx
    rw [below_of_bare_eq hb] at hx
    rw [MenuTree.openMenu, get?_update] at hm
    split at hm
    · next hxc =>
      obtain ⟨n, hn, rfl⟩ := Option.map_eq_some_iff.1 hm
      refine ⟨by simp [hxc, Menu.opened], ?_⟩
      rw [Menu.focused?_opened]
      exact (h.apart hn hx).2
    · next hxc =>
      obtain ⟨hopen, hnone⟩ := h.apart hm hx
      simp [hopen, preview_ne hp hxc, hnone, Ne.symm hxc]
  case preview =>
    intro d hd
    rw [isChild_of_bare_eq hb]
    rwa [← Option.some.inj hd]

/-- The way to a menu goes on to a child that the menu points to. -/
theorem enter (h : t.LeadsTo f preview) (ht : t.Rooted) {c : MenuId} {m : Menu}
    (hm : t.get? f = some m) (hopen : m.isOpen = true) (hpoint : m.PointsTo c)
    (hc : t.IsChild f c) (hp : preview = none ∨ preview = some c) : t.LeadsTo c none := by
  constructor
  case live => exact h.live.tail hc
  case way =>
    intro a b hab hbc
    rcases (ht.below_child_iff hc).1 hbc with hbf | rfl
    · exact h.way hab hbf
    · obtain rfl := ht.parent_unique hab hc
      exact ⟨m, hm, hopen, hpoint⟩
  case apart =>
    -- off the way to the child are the menus that were off the way before, the child apart
    intro x n hn hx
    rw [ht.below_child_iff hc, not_or] at hx
    obtain ⟨hopen, hnone⟩ := h.apart hn hx.1
    simp [hopen, preview_ne hp hx.2, hnone]
  case preview =>
    intro d hd
    contradiction

/-- Moving the focus to an option of a menu on the way leaves the way to that menu, and
what the option links to as the only other menu that is open. -/
theorem focusOn (h : t.LeadsTo f preview) (ht : t.Rooted) (ho : t.Orderly) {a : MenuId}
    (ha : t.Below a f) (hf : a = f ∨ t.isOpen f = true) (index : Nat) {child? : Option MenuId}
    (hc : ∀ c, child? = some c → t.IsChild a c) :
    (t.focusOn a index child?).LeadsTo a child? := by
  have hclosed := h.closeChildren ht ho ha hf
  have hb : ((t.closeChildren a).update a fun m =>
      (m.clearFocus.opened).highlight index).bare = (t.closeChildren a).bare :=
    bare_update _ a fun m => by simp
  have hu : ((t.closeChildren a).update a fun m =>
      (m.clearFocus.opened).highlight index).LeadsTo a none :=
    hclosed.of_get?_eq (ht.of_bare_eq (bare_closeChildren t a)) hb
      fun x hx => by rw [get?_update, if_neg hx]
  cases child? with
  | none => exact hu
  | some c =>
    refine hu.openMenu ?_ (.inl rfl)
    rw [isChild_of_bare_eq (hb.trans (bare_closeChildren t a))]
    exact hc c rfl

end LeadsTo

end MenuTree

/-! ## The focus on the way -/

namespace MenuPanel

variable {p q : MenuPanel} {f : MenuId} {preview : Option MenuId}

/-- All menus are closed, and the focus is on the root and on no option of it. -/
structure Shut (p : MenuPanel) : Prop where
  focused : p.focusedMenuId? = some p.tree.root
  option : p.focusedOption = none
  closed : p.tree.Every (·.isOpen = false)

/-- The focus is on an open menu that the way leads to, and the menu that is open
besides, if there is one, is the one that the focused option links to. -/
structure At (p : MenuPanel) (f : MenuId) (preview : Option MenuId) : Prop where
  focused : p.focusedMenuId? = some f
  isOpen : p.tree.isOpen f = true
  leads : p.tree.LeadsTo f preview
  linked : ∀ c, preview = some c → ∃ o, p.focusedOption? = some o ∧ o.child? = some c

/-- The menus are all closed, or the focus is on the way that the open menus make. -/
structure OnTrail (p : MenuPanel) : Prop extends p.Focused where
  navigable : p.tree.Navigable
  trail : p.Shut ∨ ∃ f preview, p.At f preview

theorem focusedOption?_eq_some_iff {o : MenuOption} :
    p.focusedOption? = some o ↔ ∃ id m index, p.focusedMenuId? = some id ∧
      p.tree.get? id = some m ∧ p.focusedOption = some index ∧ m.options[index]? = some o := by
  simp only [focusedOption?, bind, Option.bind_eq_some_iff, Prod.exists, focusedMenu?_eq_some_iff]
  constructor
  · rintro ⟨id, m, ⟨hid, hm⟩, index, hi, ho⟩
    exact ⟨id, m, index, hid, hm, hi, ho⟩
  · rintro ⟨id, m, index, hid, hm, hi, ho⟩
    exact ⟨id, m, ⟨hid, hm⟩, index, hi, ho⟩

theorem focusedOption?_eq {m : Menu} (hf : p.focusedMenuId? = some f)
    (hm : p.tree.get? f = some m) :
    p.focusedOption? = p.focusedOption.bind fun i => m.options[i]? := by
  simp [focusedOption?, focusedMenu?, hf, hm, bind]

/-- Closing what is below the focused menu leaves the focused option what it is. -/
theorem focusedOption?_closeChildren (h : p.tree.Rooted) (hf : p.focusedMenuId? = some f) :
    ({ p with tree := p.tree.closeChildren f } : MenuPanel).focusedOption? = p.focusedOption? := by
  have hf' : ({ p with tree := p.tree.closeChildren f } : MenuPanel).focusedMenuId? = some f := hf
  simp only [focusedOption?, focusedMenu?, hf, hf', Option.bind_some, h.get?_closeChildren_self]

theorem Shut.leadsTo (h : p.Shut) (hs : p.Sound) : p.tree.LeadsTo p.tree.root none where
  live := .refl
  way {a b} hab hb :=
    absurd (hs.rooted.eq_root_of_below hb) (hs.rooted.ne_root_of_isChild hab)
  apart {x m} hm _ := by
    have hclosed := h.closed x m hm
    have hnone : m.focused? = none := (hs.orderly x m hm).focused?_eq_none hclosed
    simp [hclosed, hnone]
  preview hc := by contradiction

/-- There is a way to the focused menu, whether the menus are open or not. -/
theorem OnTrail.exists_leadsTo (h : p.OnTrail) (hf : p.focusedMenuId? = some f) :
    ∃ preview, p.tree.LeadsTo f preview := by
  rcases h.trail with hs | ⟨g, preview, hg⟩
  · rw [hs.focused, Option.some.injEq] at hf
    exact ⟨none, hf ▸ hs.leadsTo h.toSound⟩
  · rw [hg.focused, Option.some.injEq] at hf
    exact ⟨preview, hf ▸ hg.leads⟩

/-- Moving the focus to an option of a menu on the way leaves it on the way to that
menu. -/
theorem at_focus? (hs : p.Sound) (hn : p.tree.Navigable) (h : p.tree.LeadsTo f preview)
    {a : MenuId} (ha : p.tree.Below a f) (hf : a = f ∨ p.tree.isOpen f = true) {m : Menu}
    (hm : p.tree.get? a = some m) {index : Nat} {o : MenuOption}
    (ho : m.options[index]? = some o) (hq : p.focus? a index = some q) : q.At a o.child? := by
  have hfocused := (hs.focus? hq).2
  obtain ⟨position, m', o', _, hm', ho', rfl⟩ := focus?_eq_some_iff.1 hq
  rw [hm, Option.some.injEq] at hm'
  subst hm'
  rw [ho, Option.some.injEq] at ho'
  subst ho'
  obtain ⟨k, hk, hopen, hoptions⟩ := MenuTree.exists_menu_focusOn hm index o.child?
  refine ⟨hfocused, MenuTree.isOpen_iff.2 ⟨k, hk, hopen⟩, ?_, fun c hc => ?_⟩
  · exact h.focusOn hs.rooted hs.orderly ha hf index fun c hc => hn.isChild hm ho hc
  · rw [focusedOption?_eq hfocused hk, Option.bind_some, hoptions]
    exact ⟨{ o with focused := true },
      by simp [Menu.highlight, Menu.opened, Menu.clearFocus, ho], hc⟩

theorem OnTrail.stepFocus (h : p.OnTrail) (step : Nat → Option Nat → Nat) :
    (p.stepFocus step).OnTrail where
  toFocused := h.toFocused.stepFocus step
  navigable := h.navigable.of_bare_eq (steered_stepFocus h.rooted step).bare
  trail := by
    unfold MenuPanel.stepFocus
    split
    · exact h.trail
    · next id m hfm =>
      split
      · exact h.trail
      · unfold focus
        cases hq : p.focus? id (step m.options.length p.focusedOption) with
        | none => exact h.trail
        | some q =>
          obtain ⟨hid, hm⟩ := focusedMenu?_eq_some_iff.1 hfm
          obtain ⟨preview, hlead⟩ := h.exists_leadsTo hid
          obtain ⟨_, _, o, _, hm', ho, _⟩ := focus?_eq_some_iff.1 hq
          exact .inr ⟨id, _, at_focus? h.toSound h.navigable hlead .refl (.inl rfl) hm' ho hq⟩

/-- What is open besides the way can only be what the focused option links to. -/
theorem At.preview_cases (h : p.At f preview) {o : MenuOption} {c : MenuId}
    (ho : p.focusedOption? = some o) (hc : o.child? = some c) :
    preview = none ∨ preview = some c := by
  cases preview with
  | none => exact .inl rfl
  | some d =>
    obtain ⟨o', ho', hd⟩ := h.linked d rfl
    rw [ho, Option.some.injEq] at ho'
    rw [← ho', hc] at hd
    exact .inr hd.symm

/-- The way to a menu whose focused link is followed goes on to the menu behind it. -/
theorem At.leadsTo_follow (h : p.At f preview) (hp : p.Focused) {m : Menu} {index : Nat}
    {o : MenuOption} {child : MenuId} (hm : p.tree.get? f = some m)
    (hi : p.focusedOption = some index) (ho : m.options[index]? = some o)
    (hc : o.child? = some child) (hchild : p.tree.IsChild f child) :
    (p.follow f index child).tree.LeadsTo child none := by
  have hb : (p.tree.update f fun m => { m with openedLink := some index }).bare = p.tree.bare :=
    MenuTree.bare_update _ f fun m => m.bare_openedLink _
  have hpoint : ({ m with openedLink := some index } : Menu).PointsTo child :=
    ⟨index, o, (hp.focused?_eq h.focused hm).trans hi, rfl, ho, hc⟩
  have hopen : m.isOpen = true := by
    rw [← MenuTree.isOpen_of_get? hm]
    exact h.isOpen
  have hfocus : p.focusedOption? = some o := by
    rw [focusedOption?_eq h.focused hm, hi, Option.bind_some, ho]
  have hrooted := hp.rooted.of_bare_eq hb
  have hlead := h.leads.of_get?_eq hp.rooted hb
    fun x hx => by rw [MenuTree.get?_update, if_neg hx]
  have hself : (p.tree.update f fun m => { m with openedLink := some index }).get? f =
      some { m with openedLink := some index } := by
    rw [MenuTree.get?_update, if_pos rfl, hm, Option.map_some]
  have henter := hlead.enter hrooted hself hopen hpoint
    (by rwa [MenuTree.isChild_of_bare_eq hb]) (h.preview_cases hfocus hc)
  rw [tree_follow]
  exact henter.of_get?_eq hrooted (MenuTree.bare_openMenu _ child)
    fun x hx => by rw [MenuTree.openMenu, MenuTree.get?_update, if_neg hx]

/-- The menu behind a link is there and has a first option, so following the link does move
the focus to it. -/
theorem Sound.exists_entered (h : p.Sound) (hn : p.tree.Navigable) {id : MenuId} {m : Menu}
    {index : Nat} {o : MenuOption} {child : MenuId} (hm : p.tree.get? id = some m)
    (ho : m.options[index]? = some o) (hc : o.child? = some child) :
    ∃ n o₀ q, (p.follow id index child).tree.get? child = some n ∧ n.options[0]? = some o₀ ∧
      (p.follow id index child).focus? child 0 = some q := by
  have hnav := hn.of_bare_eq (p.bare_follow id index child)
  have hchild : (p.follow id index child).tree.IsChild id child := by
    rw [MenuTree.isChild_of_bare_eq (p.bare_follow id index child)]
    exact hn.isChild hm ho hc
  obtain ⟨n, hlive, _⟩ := hnav.parent_of_child hchild
  obtain ⟨o₀, os, hos⟩ := List.exists_cons_of_ne_nil (hnav.options_ne_nil child n hlive)
  have ho₀ : n.options[0]? = some o₀ := by simp [hos]
  obtain ⟨q, hq⟩ := (h.follow id index child).exists_focus? hlive ho₀
  exact ⟨n, o₀, q, hlive, ho₀, hq⟩

/-- Following the focused link goes one menu further down the way. -/
theorem OnTrail.openSubMenu? (h : p.OnTrail) (hq : p.openSubMenu? = some q) : q.OnTrail := by
  refine ⟨h.toFocused.openSubMenu? hq,
    h.navigable.of_bare_eq (steered_openSubMenu? h.rooted hq).bare, .inr ?_⟩
  obtain ⟨id, m, index, o, child, hid, hm, hi, ho, hc, rfl⟩ := openSubMenu?_eq_some_iff.1 hq
  obtain ⟨preview, hat⟩ : ∃ preview, p.At id preview := by
    rcases h.trail with hs | ⟨f, preview, hat⟩
    · rw [hs.option] at hi
      contradiction
    · have hf := hat.focused
      rw [hid, Option.some.injEq] at hf
      exact ⟨preview, hf ▸ hat⟩
  have hchild : p.tree.IsChild id child := h.navigable.isChild hm ho hc
  have hsound := h.toSound.follow id index child
  have hnav := h.navigable.of_bare_eq (p.bare_follow id index child)
  have hlead := hat.leadsTo_follow h.toFocused hm hi ho hc hchild
  obtain ⟨n, o₀, q, hn, ho₀, hq⟩ := h.toSound.exists_entered h.navigable hm ho hc
  rw [focus, hq, Option.getD_some]
  exact ⟨child, _, at_focus? hsound hnav hlead .refl (.inl rfl) hn ho₀ hq⟩

/-- Going back from a menu on the way lands on the link that led to it. -/
theorem At.closeSubMenu? (h : p.At f preview) (hp : p.Focused) (hn : p.tree.Navigable) {m : Menu}
    {parent : MenuId} (hm : p.tree.get? f = some m) (hparent : m.parent = some parent) :
    ∃ q o, p.closeSubMenu? = some q ∧ q.At parent none ∧ q.focusedOption? = some o ∧
      o.child? = some f := by
  have hchild : p.tree.IsChild parent f := (hp.rooted.isChild_iff_parent hm).2 hparent
  obtain ⟨k, hk, _, index, o, hfocus, hlink, ho, hc⟩ := h.leads.way hchild .refl
  obtain ⟨left, hleft⟩ := hp.toSound.exists_focus? hk ho
  have hat := at_focus? hp.toSound hn h.leads (.single hchild) (.inr h.isOpen) hk ho hleft
  have hsound := (hp.toSound.focus? hleft).1
  have hback : ((p.tree.get? parent).bind (·.openedLink)).bind (p.focus? parent) = some left := by
    rw [hk, Option.bind_some, hlink, Option.bind_some, hleft]
  have hq : p.closeSubMenu? = some { left with tree := left.tree.closeChildren parent } :=
    closeSubMenu?_eq_some_iff.2 ⟨f, m, parent, left, h.focused, hm, hparent, .inl hback, rfl⟩
  obtain ⟨o', ho', hc'⟩ := hat.linked f hc
  have hkeep := focusedOption?_closeChildren hsound.rooted hat.focused
  refine ⟨_, o', hq, ⟨hat.focused, ?_, ?_, fun c hc => by contradiction⟩, hkeep.trans ho', hc'⟩
  · rw [MenuTree.isOpen, hsound.rooted.get?_closeChildren_self]
    exact hat.isOpen
  · exact hat.leads.closeChildren hsound.rooted hsound.orderly .refl (.inl rfl)

theorem OnTrail.closeSubMenu? (h : p.OnTrail) (hq : p.closeSubMenu? = some q) : q.OnTrail := by
  refine ⟨h.toFocused.closeSubMenu? hq,
    h.navigable.of_bare_eq (steered_closeSubMenu? h.rooted hq).bare, .inr ?_⟩
  obtain ⟨id, m, parent, _, hid, hm, hparent, _, _⟩ := closeSubMenu?_eq_some_iff.1 hq
  rcases h.trail with hs | ⟨f, preview, hat⟩
  · rw [hs.focused, Option.some.injEq] at hid
    subst hid
    rw [h.rooted.parent_root m hm] at hparent
    contradiction
  · rw [hat.focused, Option.some.injEq] at hid
    subst hid
    obtain ⟨q', _, hq', hat', _⟩ := hat.closeSubMenu? h.toFocused h.navigable hm hparent
    rw [hq, Option.some.injEq] at hq'
    exact ⟨parent, none, hq' ▸ hat'⟩

/-- Opening what the focused option links to leaves the focus where it is. -/
theorem At.openMenu (h : p.At f preview) {m : Menu} {index : Nat} {o : MenuOption}
    {child : MenuId} (hm : p.tree.get? f = some m) (hi : p.focusedOption = some index)
    (ho : m.options[index]? = some o) (hc : o.child? = some child)
    (hchild : p.tree.IsChild f child) :
    ({ p with tree := p.tree.openMenu child } : MenuPanel).At f (some child) := by
  have hfo : p.focusedOption? = some o := focusedOption?_eq_some_iff.2 ⟨f, m, index, h.focused, hm, hi, ho⟩
  obtain ⟨k, hk, hopen, hoptions⟩ : ∃ k, (p.tree.openMenu child).get? f = some k ∧
      k.isOpen = true ∧ k.options = m.options := by
    have hopen : m.isOpen = true := by
      rw [← MenuTree.isOpen_of_get? hm]
      exact h.isOpen
    rw [MenuTree.openMenu, MenuTree.get?_update, hm]
    split
    · exact ⟨m.opened, rfl, rfl, rfl⟩
    · exact ⟨m, rfl, hopen, rfl⟩
  refine ⟨h.focused, MenuTree.isOpen_iff.2 ⟨k, hk, hopen⟩,
    h.leads.openMenu hchild (h.preview_cases hfo hc), fun c hd => ⟨o, ?_, hc.trans hd⟩⟩
  exact focusedOption?_eq_some_iff.2 ⟨f, k, index, h.focused, hk, hi, hoptions ▸ ho⟩

/-- Selecting a link opens the menu behind it, and leaves the focus where it is. -/
theorem OnTrail.select (h : p.OnTrail) : p.select.2.OnTrail := by
  refine ⟨h.toFocused.select, h.navigable.of_bare_eq p.steered_select.bare, ?_⟩
  unfold MenuPanel.select
  split
  · exact h.trail
  · next o ho =>
    split
    · next child htarget =>
      have hc : o.child? = some child := MenuOption.child?_eq_some_iff.2 htarget
      obtain ⟨id, m, index, hid, hm, hi, hoption⟩ := focusedOption?_eq_some_iff.1 ho
      rcases h.trail with hs | ⟨f, preview, hat⟩
      · rw [hs.option] at hi
        contradiction
      · rw [hat.focused, Option.some.injEq] at hid
        subst hid
        exact .inr ⟨f, some child, hat.openMenu hm hi hoption hc
          (h.navigable.isChild hm hoption hc)⟩
    · exact h.trail

theorem Shut.openRoot (h : p.Shut) (hs : p.Sound) :
    ({ p with tree := p.tree.openMenu p.tree.root } : MenuPanel).At p.tree.root none := by
  obtain ⟨m, hm⟩ := hs.rooted.root_live
  refine ⟨h.focused, MenuTree.isOpen_iff.2 ⟨m.opened, ?_, rfl⟩, ?_, fun c hc => by contradiction⟩
  · rw [MenuTree.openMenu, MenuTree.get?_update, if_pos rfl, hm, Option.map_some]
  · exact (h.leadsTo hs).of_get?_eq hs.rooted (MenuTree.bare_openMenu _ _)
      fun x hx => by rw [MenuTree.openMenu, MenuTree.get?_update, if_neg hx]

/-- Closing the root closes every menu, as all that is open is reached from the root
through open menus. -/
theorem At.closeRoot (h : p.At f preview) (hs : p.Sound) :
    ({ p with
      tree := p.tree.closeMenu p.tree.root
      focusedMenu := 0
      focusedOption := none } : MenuPanel).Shut := by
  have hlead := h.leads.closeChildren hs.rooted hs.orderly h.leads.live (.inr h.isOpen)
  refine ⟨hs.menus_zero, rfl, fun x m hm => ?_⟩
  rw [MenuTree.closeMenu, MenuTree.get?_updateAll] at hm
  split at hm
  · obtain ⟨n, _, rfl⟩ := Option.map_eq_some_iff.1 hm
    exact n.isOpen_closed
  · next hmem =>
    rw [List.mem_cons, not_or] at hmem
    have hm' : (p.tree.closeChildren p.tree.root).get? x = some m := by
      rw [MenuTree.get?_closeChildren, if_neg hmem.2, hm]
    have hx : ¬ (p.tree.closeChildren p.tree.root).Below x p.tree.root := by
      rw [MenuTree.below_of_bare_eq (MenuTree.bare_closeChildren _ _)]
      exact fun hb => hmem.1 (hs.rooted.eq_root_of_below hb)
    simpa using (hlead.apart hm' hx).1

/-- Opening the root menu starts the way, and closing it closes all menus. -/
theorem OnTrail.toggleRoot (h : p.OnTrail) : p.toggleRoot.OnTrail := by
  refine ⟨h.toFocused.toggleRoot, h.navigable.of_bare_eq p.bare_toggleRoot, ?_⟩
  unfold MenuPanel.toggleRoot
  rcases h.trail with hs | ⟨f, preview, hat⟩
  · have hclosed : p.isOpen ≠ true := by
      intro hopen
      obtain ⟨m, hm, hopen⟩ := MenuTree.isOpen_iff.1 hopen
      simp [hs.closed _ m hm] at hopen
    rw [if_neg hclosed]
    exact .inr ⟨p.tree.root, none, hs.openRoot h.toSound⟩
  · have hopen : p.isOpen = true := hat.leads.isOpen_of_below hat.isOpen hat.leads.live
    rw [if_pos hopen]
    exact .inl (hat.closeRoot h.toSound)

/-- A panel that shows a new tree is at the root. -/
theorem onTrail_ofTree {t : MenuTree} (h : t.Navigable)
    (hf : t.Every fun m => ∀ o ∈ m.options, o.focused = false)
    (hc : t.Every (·.isOpen = false)) : (ofTree t).OnTrail := by
  have hsound : ({ tree := t, menus := t.preorder } : MenuPanel).Sound :=
    ⟨h.toRooted, rfl, fun id m hm => Menu.orderly_of_unfocused (hf id m hm)⟩
  have hshut : ({ tree := t, menus := t.preorder } : MenuPanel).Shut :=
    ⟨hsound.menus_zero, rfl, hc⟩
  exact ⟨focused_ofTree h.toRooted hf, h.of_bare_eq (MenuTree.bare_openMenu t t.root),
    .inr ⟨t.root, none, hshut.openRoot hsound⟩⟩

end MenuPanel

end StructEdit
